import PathTemplates.Failure
import PathTemplates.Glob.AsRegex
import PathTemplates.Regex.Reader

namespace PathTemplates

inductive PatternMode where
  | glob
  | regex
  | regexIgnoreCase
  deriving DecidableEq, Repr

inductive PatternFault where
  | unknownMode
  | glob (error : GlobError)
  | regex
  /-- The expression that is made for a part of a path is refused. -/
  | component
  /-- Of the globs that are tested by expressions, the one with this number is nested too deeply. -/
  | expression (index : Nat)
  deriving DecidableEq, Repr

/-- A text that is no pattern, or no match mode, and what is wrong with it. -/
structure PatternError where
  text : Text
  fault : PatternFault
  deriving DecidableEq, Repr

namespace PatternFault

/-- The library reports what is wrong with an expression and where. Two fixed words stand for its
report. -/
def message : PatternFault → String
  | unknownMode => "unknown match mode, expected glob, regex or regex-i"
  | glob e => e.message
  | regex => "regex error"
  | component => "invalid regex pattern for component: regex error"
  | expression index => "error parsing pattern " ++ String.ofList (Nat.toDigits 10 index)

end PatternFault

namespace PatternMode

def read (name : Text) : Except PatternError PatternMode :=
  match String.ofList name with
  | "glob" | "fnmatch" => .ok glob
  | "regex" | "re" => .ok regex
  | "regex-i" | "re.ignorecase" => .ok regexIgnoreCase
  | _ => .error ⟨name, .unknownMode⟩

def name : PatternMode → String
  | glob => "glob"
  | regex => "regex"
  | regexIgnoreCase => "regex-i"

/-- The flags that a regular expression starts with. -/
def flags : PatternMode → Flags
  | regexIgnoreCase => { ignoreCase := true }
  | _ => {}

end PatternMode

inductive Pattern where
  | any
  | glob (g : Glob)
  | regex (text : Text) (expr : CharExpr)

namespace Pattern

/-- The text as an expression of its own that can only match from the start. -/
def anchored (text : Text) : Text := ['^', '(', '?', ':'] ++ text ++ [')']

/-- The empty text is no constraint. The expression of a glob is not expected to be refused, so that
there is no error for one that is nested too deeply, but a panic. -/
def compile (mode : PatternMode) (text : Text) : Except (Failure PatternError) Pattern :=
  if text = [] then .ok any
  else match mode with
    | .glob =>
      match Glob.read text with
      | .ok g => if g.isTooDeep then .error .panicked else .ok (glob g)
      | .error e => .error (.returned ⟨text, .glob e⟩)
    | .regex | .regexIgnoreCase =>
      match Regex.read mode.flags (anchored text) with
      | some e => .ok (regex text e)
      | none => .error (.returned ⟨text, .regex⟩)

def matchesName : Pattern → Text → Bool
  | any, _ => true
  | glob g, name => g.matchesName name
  | regex _ e, name => Regex.occursIn e name

def text? : Pattern → Option Text
  | any => none
  | glob g => some g.text
  | regex t _ => some t

/-- The text, or a star where there is no constraint. -/
def shown (p : Pattern) : Text := p.text?.getD ['*']

end Pattern

end PathTemplates
