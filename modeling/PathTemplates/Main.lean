import PathTemplates.Command.Reach

namespace PathTemplates

namespace Disk

abbrev Loading := StateT FileSystem IO

def attempt? {α : Type} (action : IO α) : Loading (Option α) :=
  fun fs => do
    try
      let a ← action
      return (some a, fs)
    catch _ => return (none, fs)

def partsOf (path : String) : List Text := (Text.split '/' path.toList).filter fun t => t ≠ []

/-- The place of a path without links. -/
def locationOf (path : String) : Location := (partsOf path).reverse.map .text

/-- The folder of an entry is noted before the entry. -/
def note : Location → Node → Loading Unit
  | [], _ => pure ()
  | name :: loc, n => modify fun fs => if room : fs.Room name loc then fs.add n room else fs

/-- The folders of a path without links, from the root on. -/
def noteFolders (loc : Location) : Loading Unit :=
  match loc with
  | [] => pure ()
  | name :: above => do
    noteFolders above
    note (name :: above) .folder

def childPath (parent name : String) : String :=
  if parent.endsWith "/" then parent ++ name else parent ++ "/" ++ name

/-- Loads an entry and so many levels below it. A link is loaded as one to the place that it leads
to in the end, or, if it leads nowhere, to a name that nothing has. -/
partial def loadEntry (depth : Nat) (parent name : String) : Loading Unit := do
  let path := (IO.FS.DirEntry.mk parent name).path
  let loc := .text name.toList :: locationOf parent
  let below (folder : String) : Loading Unit := do
    if depth > 0 then
      if let some real ← attempt? (IO.FS.realPath folder) then
        for e in (← attempt? real.readDir).getD #[] do
          loadEntry (depth - 1) real.toString e.fileName
  match ← attempt? path.symlinkMetadata with
  | none => pure ()
  | some found =>
    match found.type with
    | .dir =>
      note loc .folder
      below (childPath parent name)
    | .symlink =>
      match ← attempt? (IO.FS.realPath path) with
      | none => note loc (.link (name.toList ++ ['\x01']))
      | some real =>
        note loc (.link real.toString.toList)
        let target := locationOf real.toString
        noteFolders target.tail
        match ← attempt? real.metadata with
        | some found =>
          if found.type == .dir then
            noteFolders target
            below real.toString
          else note target .file
        | none => pure ()
    | _ => note loc .file

/-- Loads the entries along a path, and so many levels below its end. -/
def loadPath (depth : Nat) : String → List Path.Step → Loading Unit
  | folder, [] => do
    if depth > 0 then
      if let some real ← attempt? (IO.FS.realPath folder) then
        noteFolders (locationOf real.toString)
        for e in (← attempt? real.readDir).getD #[] do
          loadEntry (depth - 1) real.toString e.fileName
  | folder, .here :: steps => loadPath depth folder steps
  | folder, .up :: steps => do
    match ← attempt? (IO.FS.realPath (childPath folder "..")) with
    | none => pure ()
    | some real => loadPath depth real.toString steps
  | folder, .enter name :: steps => do
    let name := String.ofList name
    loadEntry 0 folder name
    match ← attempt? (IO.FS.realPath (childPath folder name)) with
    | none => pure ()
    | some real => loadPath depth real.toString steps

def load (current : String) (reaches : List Reach) : Loading Unit := do
  for r in reaches do
    let start := if Path.isAbsolute r.path then "/" else current
    loadPath r.depth start (Path.steps r.path)

/-- Makes the folders that a run has added. -/
def makeNew (before after : FileSystem) : IO Unit := do
  for e in after.nodes.drop before.nodes.length do
    IO.FS.createDir (String.ofList (Utf8.lossy (FileSystem.pathOf e.1)))

end Disk

end PathTemplates

open PathTemplates in
def main (args : List String) : IO UInt32 := do
  let words := args.map String.toList
  let current := ((← Disk.attempt? (IO.FS.realPath ".") |>.run' (.empty [])).map toString).getD ""
  -- No name is empty, so that there is nothing where a current folder has been taken away.
  let place := if current.isEmpty then [.text []] else Disk.locationOf current
  let (_, bare) ← (Disk.noteFolders (Disk.locationOf current)).run (.empty place)
  let reaches := match Invocation.read words with
    | none => []
    | some i => i.command.reach bare i.options
  let (_, before) ← (Disk.load current reaches).run bare
  let (after, outcome) := Invocation.runWords before words
  Disk.makeNew before after
  IO.print outcome.output
  if let some line := outcome.complaint then IO.eprintln line
  return UInt32.ofNat outcome.status
