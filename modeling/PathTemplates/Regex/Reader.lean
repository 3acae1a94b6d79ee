import PathTemplates.Regex.Bracket

namespace PathTemplates

namespace Regex

/-- A group that is being read: its complete alternatives and the items of the current one, both
from last to first. Flags leave an item behind that cannot be repeated. -/
structure OpenAlternatives where
  complete : List (Nested CharExpr)
  items : List (Nested (Option CharExpr))

namespace OpenAlternatives

def start : OpenAlternatives := ⟨[], []⟩

def push (o : OpenAlternatives) (e : CharExpr) (depth : Nat) : OpenAlternatives :=
  { o with items := ⟨some e, depth⟩ :: o.items }

def pushFlags (o : OpenAlternatives) : OpenAlternatives :=
  { o with items := ⟨none, 0⟩ :: o.items }

/-- The alternative that is being read. -/
def current (o : OpenAlternatives) : Nested CharExpr :=
  ⟨.seqAll (o.items.reverse.filterMap (·.value)), Nesting.sideBySide (o.items.map (·.depth))⟩

def next (o : OpenAlternatives) : OpenAlternatives := ⟨o.current :: o.complete, []⟩

def expr (o : OpenAlternatives) : Nested CharExpr :=
  let all := o.current :: o.complete
  ⟨.altAll (all.reverse.map (·.value)), Nesting.sideBySide (all.map (·.depth))⟩

/-- Repeats the last item, if there is one to repeat. -/
def repeatLast (o : OpenAlternatives) (least : Nat) (most : Option Nat) :
    Option OpenAlternatives :=
  match o.items with
  | ⟨some e, depth⟩ :: items =>
    some { o with items := ⟨some (.rep e least most), depth + 1⟩ :: items }
  | _ => none

end OpenAlternatives

def dot (f : Flags) : Option CharExpr :=
  if !f.unicode then none
  else if f.dotAll then some (.symbol fun _ => true)
  else if f.crlf then some (.symbol fun c => c ≠ '\r' && c ≠ '\n')
  else some (.symbol fun c => c ≠ '\n')

def elementExpr (f : Flags) : Element → Option CharExpr
  | .literal c asByte =>
    if !f.unicode && asByte && 128 ≤ c.toNat then none
    else some (.symbol (OpenSet.foldIf f (.single c)).contains)
  | .set s => some (.symbol s.contains)
  | .expr e => some e

/-- Reads one item that is neither a group nor a set in brackets. -/
def readItem (f : Flags) : Text → Option (CharExpr × Text)
  | [] => none
  | '\\' :: rest =>
    match readEscape f rest with
    | none => none
    | some (element, rest) => (elementExpr f element).map fun e => (e, rest)
  | '.' :: rest => (dot f).map fun e => (e, rest)
  | '^' :: rest => some (.check (if f.multiLine then .lineStart f.crlf else .textStart), rest)
  | '$' :: rest => some (.check (if f.multiLine then .lineEnd f.crlf else .textEnd), rest)
  | c :: rest => (elementExpr f (.literal c false)).map fun e => (e, rest)

/-- Reads a counted repetition from behind its opening brace. -/
def readCounts (f : Flags) (s : Text) : Option (Nat × Option Nat × Text) :=
  match readCount f (skip f s) with
  | none => none
  | some (least, ',' :: rest) =>
    match skip f rest with
    | '\x7d' :: rest => some (least, none, rest)
    | rest =>
      match readCount f rest with
      | some (most, '\x7d' :: rest) =>
        if least ≤ most then some (least, some most, rest) else none
      | _ => none
  | some (least, '\x7d' :: rest) => some (least, some least, rest)
  | some _ => none

/-- A question mark after a repetition changes which match is preferred, not whether there is
one. -/
def dropLazy : Text → Text
  | '?' :: rest => rest
  | s => s

def isNameStart (c : Char) : Bool := c = '_' || isAlphabetic c

def isNamePart (c : Char) : Bool :=
  c = '_' || c = '.' || c = '[' || c = ']' || isAlphanumeric c

def isGroupName : Text → Bool
  | [] => false
  | c :: rest => isNameStart c && rest.all isNamePart

/-- What an opening parenthesis starts. -/
inductive GroupHead where
  | flags (switches : Text)
  | group (switches : Text)
  | named (name : Text)

/-- Reads from behind an opening parenthesis. -/
def readGroupHead (s : Text) : Option (GroupHead × Text) :=
  let named (s : Text) : Option (GroupHead × Text) :=
    match Text.cut '>' s with
    | some (name, rest) => if isGroupName name then some (.named name, rest) else none
    | none => none
  match s with
  | '?' :: '=' :: _ | '?' :: '!' :: _ | '?' :: '<' :: '=' :: _ | '?' :: '<' :: '!' :: _ => none
  | '?' :: 'P' :: '<' :: rest => named rest
  | '?' :: '<' :: rest => named rest
  | '?' :: rest =>
    let switches := rest.takeWhile fun c => c ≠ ':' && c ≠ ')'
    if !Flags.wellFormed switches then none
    else match rest.dropWhile fun c => c ≠ ':' && c ≠ ')' with
      | ':' :: rest => some (.group switches, rest)
      | ')' :: rest => if switches = [] then none else some (.flags switches, rest)
      | _ => none
  | s => some (.group [], s)

/-- Reads on to the end of a group, which is a closing parenthesis or the end of the text. `names`
are the names of groups so far, `fuel` is more than the length of the text, and `room` is how many
groups may still be opened inside: more would be nested too deeply. -/
def readAlternatives : Nat → Nat → Flags → List Text → OpenAlternatives → Text →
    Option (Nested CharExpr × List Text × Text)
  | 0, _, _, _, _, _ => none
  | fuel + 1, room, f, names, o, s =>
    match skip f s with
    | [] => some (o.expr, names, [])
    | ')' :: rest => some (o.expr, names, ')' :: rest)
    | '|' :: rest => readAlternatives fuel room f names o.next rest
    | '[' :: rest =>
      match readBracket f rest with
      | none => none
      | some (t, rest) =>
        readAlternatives fuel room f names (o.push (.symbol t.value.contains) t.depth) rest
    | '?' :: rest =>
      match o.repeatLast 0 (some 1) with
      | none => none
      | some o => readAlternatives fuel room f names o (dropLazy rest)
    | '*' :: rest =>
      match o.repeatLast 0 none with
      | none => none
      | some o => readAlternatives fuel room f names o (dropLazy rest)
    | '+' :: rest =>
      match o.repeatLast 1 none with
      | none => none
      | some o => readAlternatives fuel room f names o (dropLazy rest)
    | '\x7b' :: rest =>
      match readCounts f rest with
      | none => none
      | some (least, most, rest) =>
        match o.repeatLast least most with
        | none => none
        | some o => readAlternatives fuel room f names o (dropLazy (skip f rest))
    | '(' :: rest =>
      match readGroupHead (skip f rest), room with
      | none, _ => none
      | some (.flags switches, rest), room =>
        readAlternatives fuel room (f.apply switches) names o.pushFlags rest
      | some _, 0 => none
      | some (.group switches, rest), room + 1 =>
        match readAlternatives fuel room (f.apply switches) names .start rest with
        | some (e, names, ')' :: rest) =>
          readAlternatives fuel (room + 1) f names (o.push e.value (e.depth + 1)) rest
        | _ => none
      | some (.named name, rest), room + 1 =>
        if names.contains name then none
        else match readAlternatives fuel room f (name :: names) .start rest with
          | some (e, names, ')' :: rest) =>
            readAlternatives fuel (room + 1) f names (o.push e.value (e.depth + 1)) rest
          | _ => none
    | s =>
      match readItem f s with
      | none => none
      | some (e, rest) => readAlternatives fuel room f names (o.push e 0) rest

/-- Reads a whole expression, starting with the given flags. There is no looking around or back. How
much room the expression takes when it is compiled is not limited here, although the library has
such a limit too. -/
def read (f : Flags) (s : Text) : Option CharExpr :=
  match readAlternatives (s.length + 1) Nesting.limit f [] .start s with
  | some (e, _, []) => if e.depth ≤ Nesting.limit then some e.value else none
  | _ => none

/-- Whether some part of a text matches. -/
def occursIn (e : CharExpr) (s : Text) : Bool :=
  e.matchesWithin (fun before after b => b.between before after) s

end Regex

end PathTemplates
