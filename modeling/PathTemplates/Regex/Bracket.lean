import PathTemplates.Nesting
import PathTemplates.Regex.Escape

namespace PathTemplates

namespace Regex

/-- These bind less tightly than listing members side by side, and group from the left. -/
inductive SetOperation where
  | intersection
  | difference
  | symmetricDifference

namespace SetOperation

def apply : SetOperation → CharSet → CharSet → CharSet
  | intersection => CharSet.inter
  | difference => CharSet.diff
  | symmetricDifference => CharSet.symmDiff

end SetOperation

/-- A part of an expression, and how deeply it is nested. -/
structure Nested (α : Type) where
  value : α
  depth : Nat

/-- A set that is being read: the operation that waits for its right side, with its left side, and
the members listed since, with their depths. -/
structure OpenSet where
  negated : Bool
  waiting : Option (SetOperation × Nested CharSet)
  members : CharSet
  depths : List Nat

namespace OpenSet

def start (negated : Bool) : OpenSet := ⟨negated, none, CharSet.none, []⟩

def add (o : OpenSet) (s : CharSet) (depth : Nat) : OpenSet :=
  { o with members := o.members.union s, depths := depth :: o.depths }

def foldIf (f : Flags) (s : CharSet) : CharSet := if f.ignoreCase then s.fold f.unicode else s

/-- What has been read so far. -/
def value (f : Flags) (o : OpenSet) : Nested CharSet :=
  let depth := Nesting.sideBySide o.depths
  match o.waiting with
  | none => ⟨o.members, depth⟩
  | some (op, left) =>
    ⟨op.apply (foldIf f left.value) (foldIf f o.members), max left.depth depth + 1⟩

def wait (f : Flags) (o : OpenSet) (op : SetOperation) : OpenSet :=
  { o with waiting := some (op, o.value f), members := CharSet.none, depths := [] }

/-- Without Unicode the complement would hold bytes that are no characters, and is refused. -/
def close (f : Flags) (o : OpenSet) : Option (Nested CharSet) :=
  let inner := o.value f
  let s := foldIf f inner.value
  if !o.negated then some ⟨s, inner.depth + 1⟩
  else if f.unicode then some ⟨s.compl, inner.depth + 1⟩
  else none

end OpenSet

/-- Without Unicode only ASCII characters can be members. -/
def memberAllowed (f : Flags) (c : Char) : Bool := f.unicode || c.toNat < 128

/-- Hyphens in front are members. -/
def leadingHyphens (f : Flags) : Nat → OpenSet → Text → OpenSet × Text
  | 0, o, s => (o, s)
  | n + 1, o, s =>
    match s with
    | '-' :: rest => leadingHyphens f n (o.add (.single '-') 0) (skip f rest)
    | s => (o, s)

/-- Reads what follows an opening bracket: a caret negates the set, and a closing bracket before any
other member is a member. -/
def readOpening (f : Flags) (s : Text) : Option (OpenSet × Text) :=
  let s := skip f s
  let (negated, s) := match s with
    | '^' :: rest => (true, skip f rest)
    | s => (false, s)
  let (o, s') := leadingHyphens f s.length (.start negated) s
  match s, s' with
  | ']' :: rest, _ => some (o.add (.single ']') 0, skip f rest)
  | _, [] => none
  | _, s' => some (o, s')

/-- A named set between brackets and colons: the name, whether a caret negates it, and the rest. -/
def readNamed : Text → Option (CharSet × Bool × Text)
  | '[' :: ':' :: rest =>
    let (negated, body) := match rest with
      | '^' :: body => (true, body)
      | body => (false, body)
    match body.dropWhile fun c => c ≠ ':' with
    | ':' :: ']' :: after =>
      (CharSet.asciiClass? (String.ofList (body.takeWhile fun c => c ≠ ':'))).map
        fun s => (s, negated, after)
    | _ => none
  | _ => none

def readMember (f : Flags) : Text → Option (Element × Text)
  | [] => none
  | '\\' :: rest => readEscape f rest
  | c :: rest => some (.literal c false, rest)

/-- Reads a member, or two of them with a hyphen in between; boundaries are not members. -/
def readRange (f : Flags) (s : Text) : Option (CharSet × Text) :=
  match readMember f s with
  | none => none
  | some (first, rest) =>
    let rest := skip f rest
    let isRange := match rest with
      | '-' :: after => peek f after ≠ some ']' && peek f after ≠ some '-'
      | _ => false
    if isRange then
      match first, readMember f (skip f (rest.drop 1)) with
      | .literal low _, some (.literal high _, rest) =>
        if low ≤ high && memberAllowed f low && memberAllowed f high
        then some (.range low high, rest) else none
      | _, _ => none
    else if rest = [] then none
    else match first with
      | .literal c _ => if memberAllowed f c then some (.single c, rest) else none
      | .set t => some (t, rest)
      | .expr _ => none

/-- Reads on to the bracket that closes the set. `fuel` is more than the length of the text, and
`room` is how many sets may still be opened inside: more would be nested too deeply. -/
def readSet (f : Flags) : Nat → Nat → OpenSet → Text → Option (Nested CharSet × Text)
  | 0, _, _, _ => none
  | fuel + 1, room, o, s =>
    match skip f s with
    | [] => none
    | ']' :: rest => (o.close f).map fun s => (s, rest)
    | '&' :: '&' :: rest => readSet f fuel room (o.wait f .intersection) rest
    | '-' :: '-' :: rest => readSet f fuel room (o.wait f .difference) rest
    | '~' :: '~' :: rest => readSet f fuel room (o.wait f .symmetricDifference) rest
    | '[' :: rest =>
      match readNamed ('[' :: rest), room with
      | some (t, negated, rest), _ =>
        let t := OpenSet.foldIf f t
        if !negated then readSet f fuel room (o.add t 0) rest
        else if f.unicode then readSet f fuel room (o.add t.compl 0) rest
        else none
      | none, 0 => none
      | none, room + 1 =>
        match readOpening f rest with
        | none => none
        | some (inner, rest) =>
          match readSet f fuel room inner rest with
          | none => none
          | some (t, rest) => readSet f fuel (room + 1) (o.add t.value t.depth) rest
    | s =>
      match readRange f s with
      | none => none
      | some (t, rest) => readSet f fuel room (o.add t 0) rest

/-- Reads a set from behind its opening bracket. -/
def readBracket (f : Flags) (s : Text) : Option (Nested CharSet × Text) :=
  match readOpening f s with
  | none => none
  | some (o, rest) => readSet f (rest.length + 1) Nesting.limit o rest

end Regex

end PathTemplates
