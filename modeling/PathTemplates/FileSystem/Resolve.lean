import PathTemplates.FileSystem.Basic
import PathTemplates.FileSystem.Error
import PathTemplates.FileSystem.Path

namespace PathTemplates

namespace FileSystem

def maxNameBytes : Nat := 255

def maxPathBytes : Nat := 4095

def maxLinks : Nat := 40

def startOf (fs : FileSystem) (p : Text) : Location :=
  if Path.isAbsolute p then [] else fs.current

/-- Takes the steps one after another, each of them from a folder. `jump` goes on from a link's
target; at the very end a link stays as it is unless it is to be followed. -/
def walkSteps (fs : FileSystem) (follow : Bool)
    (jump : Location → List Path.Step → Except FileError Location) :
    Location → List Path.Step → Except FileError Location
  | loc, [] => .ok loc
  | loc, step :: rest =>
    if !fs.isFolderAt loc then .error .notAFolder
    else match step with
      | .here => walkSteps fs follow jump loc rest
      | .up => walkSteps fs follow jump loc.tail rest
      | .enter name =>
        if name.utf8Length > maxNameBytes then .error .nameTooLong
        else
          let loc' := .text name :: loc
          match fs.node? loc' with
          | none => .error .notFound
          | some (.link target) =>
            if rest = [] && !follow then .ok loc'
            else jump (if Path.isAbsolute target then [] else loc) (Path.steps target ++ rest)
          | some _ => walkSteps fs follow jump loc' rest

/-- Takes steps through at most so many links. -/
def resolveSteps (fs : FileSystem) (follow : Bool) :
    Nat → Location → List Path.Step → Except FileError Location
  | 0 => walkSteps fs follow fun _ _ => .error .tooManyLinks
  | n + 1 => walkSteps fs follow (resolveSteps fs follow n)

/-- Refuses texts that cannot be paths at all. -/
def checkPath (p : Text) : Except FileError Unit :=
  if p.contains '\x00' then .error .nulInName
  else if p = [] then .error .notFound
  else if p.utf8Length > maxPathBytes then .error .nameTooLong
  else .ok ()

/-- The entry that a path leads to; `follow` tells whether a link at the end is followed. -/
def resolve (fs : FileSystem) (follow : Bool) (p : Text) : Except FileError Location :=
  match checkPath p with
  | .error e => .error e
  | .ok () => resolveSteps fs follow maxLinks (fs.startOf p) (Path.steps p)

def isFolder (fs : FileSystem) (p : Text) : Bool :=
  match fs.resolve true p with
  | .ok loc => fs.isFolderAt loc
  | .error _ => false

/-- A path exists if it leads somewhere, or at least to a link. -/
def pathExists (fs : FileSystem) (p : Text) : Bool :=
  (fs.resolve true p).isOk || (fs.resolve false p).isOk

/-- An entry of a listed folder; `folder` holds for links to folders too. -/
structure Entry where
  name : Text
  folder : Bool
  deriving DecidableEq, Repr

/-- An empty path stands for the current folder when it is listed. -/
def listedPath (folder : Text) : Text := if folder = [] then ['.'] else folder

/-- The entries of a folder. Names that are not UTF-8 are left out, and what is no folder has no
entries. -/
def list (fs : FileSystem) (folder : Text) : List Entry :=
  match fs.resolve true (listedPath folder) with
  | .error _ => []
  | .ok loc =>
    if fs.isFolderAt loc then
      ((fs.namesIn loc).filterMap EntryName.text?).map fun name =>
        ⟨name, fs.isFolder (Path.push (listedPath folder) name)⟩
    else []

theorem length_list_le (fs : FileSystem) (folder : Text) :
    (fs.list folder).length ≤ fs.nodes.length := by
  unfold list
  split
  · exact Nat.zero_le _
  · split
    · rw [List.length_map]
      exact Nat.le_trans (List.length_filterMap_le ..) (List.length_filterMap_le ..)
    · exact Nat.zero_le _

end FileSystem

end PathTemplates
