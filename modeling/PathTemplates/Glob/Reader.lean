import PathTemplates.Glob.Error
import PathTemplates.Glob.Item

namespace PathTemplates

namespace Glob

/-- What the next character belongs to. After stars, `before` is the character in front of them. -/
inductive Mode where
  | plain
  | escaped
  | star (before : Option Char)
  | stars (before : Option Char)
  | classStart
  | inClass (negated : Bool) (ranges : List (Char × Char)) (ranging : Bool)

/-- An open group: the items in front of it and the branches that are complete. -/
structure OpenGroup where
  outer : List GlobItem
  branches : List (List GlobItem)

structure Reading where
  mode : Mode
  previous : Option Char
  branch : List GlobItem
  groups : List OpenGroup

namespace Reading

def start : Reading := ⟨.plain, none, [], []⟩

def push (r : Reading) (item : GlobItem) : Reading :=
  { r with mode := .plain, branch := r.branch ++ [item] }

def pushTwoStars (r : Reading) : Reading := (r.push .anyBytes).push .anyBytes

/-- Takes in a pattern for folders, which stands in place of the slash in front of it. Folders that
already reach as far as they can stay as they are. -/
def pushFolders (r : Reading) (item : GlobItem) : Reading :=
  match r.branch.getLast? with
  | some .leadingFolders | some .descendants => { r with mode := .plain }
  | _ => { r with mode := .plain, branch := r.branch.dropLast ++ [item] }

/-- Whether two stars after `before` start a folder of the glob. -/
def startsFolder (r : Reading) (before : Option Char) : Bool :=
  before = some '/' || (!r.groups.isEmpty && (before = some ',' || before = some '{'))

/-- Decides what two stars mean once the character after them is known; tells whether that
character belongs to them. -/
def closeStars (r : Reading) (before next : Option Char) : Reading × Bool :=
  if r.branch.isEmpty then
    if next = none || next = some '/' then (r.push .leadingFolders, true)
    else (r.pushTwoStars, false)
  else if !r.startsFolder before then (r.pushTwoStars, false)
  else if next = none || (!r.groups.isEmpty && (next = some ',' || next = some '}')) then
    (r.pushFolders .descendants, false)
  else if next = some '/' then (r.pushFolders .innerFolders, true)
  else (r.pushTwoStars, false)

def openGroup (r : Reading) : Reading :=
  { r with mode := .plain, branch := [], groups := ⟨r.branch, []⟩ :: r.groups }

def nextBranch (r : Reading) : Reading :=
  match r.groups with
  | [] => r.push (.literal ',')
  | g :: gs =>
    { r with mode := .plain, branch := [], groups := ⟨g.outer, g.branches ++ [r.branch]⟩ :: gs }

def closeGroup (r : Reading) : Except GlobError Reading :=
  match r.groups with
  | [] => .error .unopenedGroup
  | g :: gs => .ok
    { r with
      mode := .plain, branch := g.outer ++ [.ofBranches (g.branches ++ [r.branch])], groups := gs }

/-- Takes in a character that stands outside classes and escapes. -/
def takePlain (r : Reading) (c : Char) : Except GlobError Reading :=
  if c = '?' then .ok (r.push .anyByte)
  else if c = '*' then .ok { r with mode := .star r.previous }
  else if c = '[' then .ok { r with mode := .classStart }
  else if c = '{' then .ok r.openGroup
  else if c = '}' then r.closeGroup
  else if c = ',' then .ok r.nextBranch
  else if c = '\\' then .ok { r with mode := .escaped }
  else .ok (r.push (.literal c))

/-- Lets the last range of a class end at `c`. -/
def extendLast (ranges : List (Char × Char)) (c : Char) : Except GlobError (List (Char × Char)) :=
  match ranges.getLast? with
  | none => .ok [(c, c)]
  | some (low, _) =>
    if c < low then .error (.invalidRange low c) else .ok (ranges.dropLast ++ [(low, c)])

/-- Takes in a character of a class. The first one is an ordinary member whatever it is; a hyphen
between two members makes a range of them and is itself a member at the end. -/
def takeInClass (r : Reading) (negated : Bool) (ranges : List (Char × Char)) (ranging : Bool)
    (c : Char) : Except GlobError Reading :=
  if c = ']' && !ranges.isEmpty then
    .ok (r.push (.charClass negated (if ranging then ranges ++ [('-', '-')] else ranges)))
  else if ranging then
    (extendLast ranges c).map fun ranges => { r with mode := .inClass negated ranges false }
  else if c = '-' && !ranges.isEmpty then .ok { r with mode := .inClass negated ranges true }
  else .ok { r with mode := .inClass negated (ranges ++ [(c, c)]) false }

def takeByMode (r : Reading) (c : Char) : Except GlobError Reading :=
  match r.mode with
  | .plain => r.takePlain c
  | .escaped => .ok (r.push (.literal c))
  | .star before =>
    if c = '*' then .ok { r with mode := .stars before } else (r.push .anyBytes).takePlain c
  | .stars before =>
    match r.closeStars before (some c) with
    | (r, true) => .ok r
    | (r, false) => r.takePlain c
  | .classStart =>
    if c = '!' || c = '^' then .ok { r with mode := .inClass true [] false }
    else r.takeInClass false [] false c
  | .inClass negated ranges ranging => r.takeInClass negated ranges ranging c

def take (r : Reading) (c : Char) : Except GlobError Reading :=
  (r.takeByMode c).map fun r => { r with previous := some c }

def finishMode (r : Reading) : Except GlobError Reading :=
  match r.mode with
  | .plain => .ok r
  | .escaped => .error .danglingEscape
  | .star _ => .ok (r.push .anyBytes)
  | .stars before => .ok (r.closeStars before none).1
  | .classStart => .error .unclosedClass
  | .inClass _ _ _ => .error .unclosedClass

def finish (r : Reading) : Except GlobError (List GlobItem) :=
  match r.finishMode with
  | .error e => .error e
  | .ok r => if r.groups.isEmpty then .ok r.branch else .error .unclosedGroup

end Reading

def readItems : Reading → Text → Except GlobError (List GlobItem)
  | r, [] => r.finish
  | r, c :: rest =>
    match r.take c with
    | .error e => .error e
    | .ok r => readItems r rest

end Glob

end PathTemplates
