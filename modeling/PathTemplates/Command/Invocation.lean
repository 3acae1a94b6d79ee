import PathTemplates.Command.Words
import PathTemplates.Crumb.Basic

namespace PathTemplates

inductive OutputFormat where
  | human
  | json
  deriving DecidableEq, Repr

/-- One of the two crumbs of a join. -/
inductive JoinSide where
  | first
  | second
  deriving DecidableEq, Repr

structure JoinArguments where
  first : Text
  second : Text
  on : List Text
  /-- The crumb that paths are rebuilt from, instead of answering with tuples. -/
  base : Option JoinSide
  deriving DecidableEq, Repr

inductive Command where
  | list (crumb : Text) (target : Option Text)
  | intersect (join : JoinArguments)
  | difference (join : JoinArguments)
  | makeTree (crumb : Text) (rows : List Assignment)
  deriving DecidableEq, Repr

/-- A command with its options. Those that all commands share may stand on both sides of the
command's name; the ones behind it then count. -/
structure Invocation where
  command : Command
  mode : PatternMode
  ignore : List Text
  all : Bool
  format : OutputFormat
  quiet : Bool
  deriving DecidableEq, Repr

namespace Invocation

/-- Hidden entries are ignored unless all are asked for. -/
def options (i : Invocation) : CrumbSettings :=
  ⟨if i.all then i.ignore else ['.', '*'] :: i.ignore, i.mode, true⟩

/-- Reads `name=value`. Blanks around the name do not count, and the name is not empty. -/
def readBinding (piece : Text) : Option Binding :=
  match Text.cut '=' piece with
  | none => none
  | some (name, value) =>
    let name := name.trim isBlank
    if name = [] then none else some ⟨name, value⟩

/-- Reads a row of bindings between commas. -/
def readRow (t : Text) : Option Assignment := (Text.split ',' t).mapM readBinding

def readMode (t : Text) : Option PatternMode :=
  match String.ofList t with
  | "glob" => some .glob
  | "regex" => some .regex
  | "regex-i" => some .regexIgnoreCase
  | _ => none

def readFormat (t : Text) : Option OutputFormat :=
  match String.ofList t with
  | "human" => some .human
  | "json" => some .json
  | _ => none

/-- The number one or two, with leading zeros and a plus sign allowed. -/
def readSide (t : Text) : Option JoinSide :=
  let digits := match t with
    | '+' :: rest => rest
    | t => t
  match digits.reverse with
  | '1' :: zeros => if zeros.all (· = '0') then some .first else none
  | '2' :: zeros => if zeros.all (· = '0') then some .second else none
  | _ => none

/-- The value of an option that is given at most once. -/
def one {α : Type} (read : Text → Option α) (values : List Text) : Option (Option α) :=
  match values.getLast? with
  | none => some none
  | some v => (read v).map some

def ownKeys : String → List OptionKey
  | "ls" => [.argument]
  | "intersect" | "diff" => [.on, .base]
  | "mktree" => [.row]
  | _ => []

def readJoin (w : Words) : Option JoinArguments :=
  match w.plain, one readSide (w.valuesOf .base) with
  | [first, second], some base => some ⟨first, second, w.valuesOf .on, base⟩
  | _, _ => none

/-- Reads a command by its name from the words after it. -/
def readCommand (name : String) (w : Words) : Option Command :=
  match name with
  | "ls" =>
    match w.plain with
    | [crumb] => some (.list crumb (w.valuesOf .argument).getLast?)
    | _ => none
  | "intersect" => (readJoin w).map .intersect
  | "diff" => (readJoin w).map .difference
  | "mktree" =>
    match w.plain, (w.valuesOf .row).mapM readRow with
    | [crumb], some rows => some (.makeTree crumb rows)
    | _, _ => none
  | _ => none

/-- The values after the command's name, or else those before it. -/
def nearest (before after : Words) (k : OptionKey) : List Text :=
  match after.valuesOf k with
  | [] => before.valuesOf k
  | values => values

/-- Whether all values of the shared options can be read. -/
def sharedValuesRead (w : Words) : Bool :=
  (w.valuesOf .mode).all (fun v => (readMode v).isSome) &&
    (w.valuesOf .format).all fun v => (readFormat v).isSome

/-- Reads a command line without the name of the program. -/
def read (words : List Text) : Option Invocation := do
  let before ← Words.read OptionKey.shared true words
  match before.plain with
  | [] => none
  | name :: rest =>
    let name := String.ofList name
    let keys := OptionKey.shared ++ ownKeys name
    let after ← Words.read keys false rest
    let command ← readCommand name after
    if before.noRepetition keys && after.noRepetition keys && sharedValuesRead before &&
        sharedValuesRead after then
      let mode ← one readMode (nearest before after .mode)
      let format ← one readFormat (nearest before after .format)
      return {
        command
        mode := mode.getD .glob
        ignore := nearest before after .ignore
        all := !(nearest before after .all).isEmpty
        format := format.getD .human
        quiet := !(nearest before after .quiet).isEmpty }
    else none

end Invocation

end PathTemplates
