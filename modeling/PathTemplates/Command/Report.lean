import PathTemplates.Command.Invocation

namespace PathTemplates

inductive Report where
  | values (results : List Text)
  | paths (results : List Text)
  | tuples (results : List Assignment)
  deriving DecidableEq, Repr

namespace Report

def count : Report → Nat
  | values rs => rs.length
  | paths rs => rs.length
  | tuples rs => rs.length

def isEmpty (r : Report) : Bool := r.count = 0

def kind : Report → String
  | values _ => "values"
  | paths _ => "paths"
  | tuples _ => "tuples"

def lines (ls : List Text) : String := String.ofList (ls.flatMap fun l => l ++ ['\n'])

/-- One line for each result. -/
def human : Report → String
  | values rs => lines rs
  | paths rs => lines rs
  | tuples rs => lines (rs.map Assignment.row)

/-- A part of a JSON text, given how far it is indented. -/
abbrev Layout := Nat → String

namespace Layout

def hexDigit (n : Nat) : Char := if n < 10 then Char.ofNat (48 + n) else Char.ofNat (87 + n)

/-- Quotes, backslashes and control characters are escaped, and nothing else. -/
def escape (c : Char) : List Char :=
  match c with
  | '"' => ['\\', '"']
  | '\\' => ['\\', '\\']
  | '\x08' => ['\\', 'b']
  | '\x0c' => ['\\', 'f']
  | '\n' => ['\\', 'n']
  | '\r' => ['\\', 'r']
  | '\t' => ['\\', 't']
  | c =>
    if c.toNat < 32 then ['\\', 'u', '0', '0', hexDigit (c.toNat / 16), hexDigit (c.toNat % 16)]
    else [c]

def text (t : Text) : Layout := fun _ => "\"" ++ String.ofList (t.flatMap escape) ++ "\""

def number (n : Nat) : Layout := fun _ => toString n

def newLine (indent : Nat) : String := String.ofList ('\n' :: List.replicate (2 * indent) ' ')

/-- Items on lines of their own between two brackets. -/
def block (opening closing : String) (items : List Layout) : Layout := fun indent =>
  if items.isEmpty then opening ++ closing
  else
    opening ++
      ",".intercalate (items.map fun item => newLine (indent + 1) ++ item (indent + 1)) ++
      newLine indent ++ closing

def list (items : List Layout) : Layout := block "[" "]" items

def member (name : String) (value : Layout) : Layout := fun indent =>
  text name.toList indent ++ ": " ++ value indent

end Layout

def results : Report → Layout
  | values rs => .list (rs.map .text)
  | paths rs => .list (rs.map .text)
  | tuples rs => .list (rs.map fun t => .list (t.map fun b => .list [.text b.name, .text b.value]))

def json (r : Report) : String :=
  Layout.block "\x7b" "\x7d"
    [.member "kind" (.text r.kind.toList), .member "count" (.number r.count),
      .member "results" r.results] 0 ++ "\n"

def render (r : Report) : OutputFormat → String
  | .human => r.human
  | .json => r.json

end Report

end PathTemplates
