import PathTemplates.Text

namespace PathTemplates

/-- The options that the commands know. -/
inductive OptionKey where
  | mode
  | ignore
  | all
  | format
  | quiet
  | verbosity
  | argument
  | on
  | base
  | row
  deriving DecidableEq, Repr

namespace OptionKey

/-- The options that stand before or after the name of the command. -/
def shared : List OptionKey := [mode, ignore, all, format, quiet, verbosity]

def longName : OptionKey → String
  | mode => "mode"
  | ignore => "ignore"
  | all => "all"
  | format => "format"
  | quiet => "quiet"
  | verbosity => "verbosity"
  | argument => "arg"
  | on => "on"
  | base => "base"
  | row => "row"

def letter? : OptionKey → Option Char
  | mode | all | format => none
  | ignore => some 'i'
  | quiet => some 'q'
  | verbosity => some 'v'
  | argument => some 'a'
  | on => some 'o'
  | base => some 'b'
  | row => some 'r'

def takesValue : OptionKey → Bool
  | all | quiet | verbosity => false
  | _ => true

def mayRepeat : OptionKey → Bool
  | ignore | verbosity | on | row => true
  | _ => false

end OptionKey

/-- An option with its value, which is empty for an option without one. -/
structure GivenOption where
  key : OptionKey
  value : Text
  deriving DecidableEq, Repr

namespace GivenOption

/-- What one word gives: complete options, and perhaps one that takes the next word. -/
structure FromWord where
  given : List GivenOption
  waiting : Option OptionKey

/-- Reads a word from behind its two hyphens. -/
def readLong (keys : List OptionKey) (body : Text) : Option FromWord :=
  let (name, value) : Text × Option Text := match Text.cut '=' body with
    | some (name, value) => (name, some value)
    | none => (body, none)
  match keys.find? (fun k => k.longName = String.ofList name), value with
  | none, _ => none
  | some k, some v => if k.takesValue then some ⟨[⟨k, v⟩], none⟩ else none
  | some k, none => if k.takesValue then some ⟨[], some k⟩ else some ⟨[⟨k, []⟩], none⟩

/-- Reads letters from behind one hyphen. The first letter with a value takes all that is left,
without an equals sign in front. -/
def readLetters (keys : List OptionKey) : Text → Option FromWord
  | [] => some ⟨[], none⟩
  | c :: rest =>
    match keys.find? fun k => k.letter? = some c with
    | none => none
    | some k =>
      if k.takesValue then
        match rest with
        | [] => some ⟨[], some k⟩
        | '=' :: value => some ⟨[⟨k, value⟩], none⟩
        | value => some ⟨[⟨k, value⟩], none⟩
      else (readLetters keys rest).map fun w => { w with given := ⟨k, []⟩ :: w.given }

end GivenOption

/-- A word on its own. A value in a word of its own does not start with a hyphen, unless it is
nothing but a hyphen. -/
inductive Word where
  | plain (t : Text)
  | long (body : Text)
  | letters (body : Text)
  | endOfOptions

namespace Word

def read : Text → Word
  | ['-', '-'] => endOfOptions
  | '-' :: '-' :: body => long body
  | ['-'] => plain ['-']
  | '-' :: body => letters body
  | t => plain t

def options? (keys : List OptionKey) : Word → Option GivenOption.FromWord
  | long body => GivenOption.readLong keys body
  | letters body => GivenOption.readLetters keys body
  | _ => none

end Word

/-- The options and the plain words of a command line, or of a part of it. -/
structure Words where
  given : List GivenOption
  plain : List Text

namespace Words

def addOptions (gs : List GivenOption) (w : Words) : Words := { w with given := gs ++ w.given }

/-- Reads words up to the first plain one if `stopAtPlain` holds: it and all words after it are then
the plain ones. Otherwise reads to the end. -/
def read (keys : List OptionKey) (stopAtPlain : Bool) : List Text → Option Words
  | [] => some ⟨[], []⟩
  | t :: ts =>
    match Word.read t with
    | .plain p =>
      if stopAtPlain then some ⟨[], p :: ts⟩
      else (read keys stopAtPlain ts).map fun w => { w with plain := p :: w.plain }
    | .endOfOptions => if stopAtPlain then none else some ⟨[], ts⟩
    | word =>
      match word.options? keys with
      | none => none
      | some ⟨gs, none⟩ => (read keys stopAtPlain ts).map (addOptions gs)
      | some ⟨gs, some k⟩ =>
        match ts with
        | [] => none
        | v :: ts =>
          match Word.read v with
          | .plain v => (read keys stopAtPlain ts).map (addOptions (gs ++ [⟨k, v⟩]))
          | _ => none

/-- The values that were given for an option, from first to last. -/
def valuesOf (w : Words) (k : OptionKey) : List Text :=
  (w.given.filter fun g => g.key = k).map (·.value)

/-- No option is given twice that may not be. -/
def noRepetition (w : Words) (keys : List OptionKey) : Bool :=
  keys.all fun k => k.mayRepeat || (w.valuesOf k).length ≤ 1

end Words

end PathTemplates
