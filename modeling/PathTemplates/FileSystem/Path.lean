import PathTemplates.Text

namespace PathTemplates

namespace Path

def isAbsolute (p : Text) : Bool := p.head? = some '/'

def endsInSlash (p : Text) : Bool := p.getLast? = some '/'

/-- One slash goes in between unless there is one already or nothing in front of it; an absolute
path replaces what is in front. -/
def push (base p : Text) : Text :=
  if isAbsolute p then p
  else if base = [] || endsInSlash base then base ++ p
  else base ++ '/' :: p

/-- Where a part of a path leads from a folder. -/
inductive Step where
  | here
  | up
  | enter (name : Text)
  deriving DecidableEq, Repr

/-- An empty part stays where it is, so that a slash at the end asks for a folder. -/
def step (part : Text) : Step :=
  if part = [] || part = ['.'] then .here
  else if part = ['.', '.'] then .up
  else .enter part

def steps (p : Text) : List Step := (Text.split '/' p).map step

/-- The parts that matter: no empty ones, and a period only in front of a relative path. -/
def parts (p : Text) : List Text :=
  let all := (Text.split '/' p).filter fun t => t ≠ []
  match isAbsolute p, all with
  | false, ['.'] :: rest => ['.'] :: rest.filter fun t => t ≠ ['.']
  | _, all => all.filter fun t => t ≠ ['.']

def ofParts (absolute : Bool) (ps : List Text) : Text :=
  if absolute then '/' :: Text.join ['/'] ps else Text.join ['/'] ps

/-- The beginnings of a list other than the list itself, from the longest to the shortest. -/
def beginnings {α : Type} : List α → List (List α)
  | [] => []
  | x :: xs => (beginnings xs).map (x :: ·) ++ [[]]

/-- The folders above a path, from the nearest to the farthest. -/
def above (p : Text) : List Text := (beginnings (parts p)).map (ofParts (isAbsolute p))

end Path

end PathTemplates
