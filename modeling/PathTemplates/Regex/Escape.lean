import PathTemplates.Regex.Blanks
import PathTemplates.Regex.Boundary
import PathTemplates.Regex.SetName

namespace PathTemplates

namespace Regex

/-- One element of an expression. A literal remembers whether it was written as a byte, in two
hexadecimal digits. -/
inductive Element where
  | literal (c : Char) (asByte : Bool)
  | set (s : CharSet)
  | expr (e : CharExpr)

def metaChars : List Char :=
  ['\\', '.', '+', '*', '?', '(', ')', '|', '[', ']', '\x7b', '\x7d', '^', '$', '#', '&', '-', '~']

/-- Punctuation and control characters may be escaped needlessly. -/
def isEscapable (c : Char) : Bool :=
  metaChars.contains c || (c.toNat < 128 && !c.isAlphanum && c ≠ '<' && c ≠ '>')

def charOfCode? (n : Nat) : Option Char := if n.isValidChar then some (Char.ofNat n) else none

/-- A character by its number, in braces or in a fixed number of digits. -/
def readCode (f : Flags) (digits : Nat) (s : Text) : Option (Element × Text) :=
  match skip f s with
  | '\x7b' :: rest =>
    match upToBrace f.verbose false rest with
    | none => none
    | some (hex, rest) =>
      if hex = [] || !hex.all isHexDigit then none
      else (charOfCode? (hex.foldl (fun n c => 16 * n + hexValue c) 0)).map
        fun c => (.literal c false, rest)
  | s =>
    match readHexDigits f digits 0 s with
    | none => none
    | some (n, rest) => (charOfCode? n).map fun c => (.literal c (digits = 2), rest)

/-- The text before and after the first `!=`. -/
def cutUnequal : Text → Option (Text × Text)
  | [] => none
  | '!' :: '=' :: rest => some ([], rest)
  | c :: rest => (cutUnequal rest).map fun p => (c :: p.1, p.2)

/-- A property, alone or with a value, and whether the value is one that it must not have. -/
def propertyOf (name : Text) : Option (CharSet × Bool) :=
  match cutUnequal name with
  | some (property, value) => (CharSet.propertyValue? property value).map fun s => (s, true)
  | none =>
    match (Text.cut ':' name).or (Text.cut '=' name) with
    | some (property, value) => (CharSet.propertyValue? property value).map fun s => (s, false)
    | none => (CharSet.property? name).map fun s => (s, false)

/-- A property in braces or by one letter. -/
def readProperty (f : Flags) (negated : Bool) (s : Text) : Option (Element × Text) :=
  let named : Option (Text × Text) := match skip f s with
    | [] => none
    | '\x7b' :: rest => upToBrace f.verbose false rest
    | c :: rest => if c = '\\' then none else some ([c], rest)
  match named with
  | none => none
  | some (name, rest) =>
    if !f.unicode then none
    else (propertyOf name).map fun (s, unequal) =>
      let s := if f.ignoreCase then s.fold true else s
      (.set (if negated != unequal then s.compl else s), rest)

/-- Digits, white space and word characters, by their small letter. -/
def letterClass (unicode : Bool) (letter : Char) : CharSet :=
  match unicode, letter with
  | true, 'd' => Category.set .decimalNumber
  | true, 's' => blankSet
  | true, _ => wordSet
  | false, 'd' => CharSet.asciiDigit
  | false, 's' => CharSet.asciiSpace
  | false, _ => CharSet.asciiWord

/-- Without Unicode a negated set would hold bytes that are no characters, and is refused. -/
def readLetterClass (f : Flags) (letter : Char) (rest : Text) : Option (Element × Text) :=
  let s := letterClass f.unicode letter.toLower
  if letter.isLower then some (.set s, rest)
  else if f.unicode then some (.set s.compl, rest)
  else none

def wordEdge? : String → Option WordEdge
  | "start" => some .start
  | "end" => some .stop
  | "start-half" => some .startHalf
  | "end-half" => some .stopHalf
  | _ => none

def word (f : Flags) (edge : WordEdge) : Element := .expr (.check (.word edge f.unicode))

/-- A word boundary, of a special kind if letters in braces follow. Other braces count
repetitions. -/
def readWordBoundary (f : Flags) (s : Text) : Option (Element × Text) :=
  match s with
  | '\x7b' :: rest =>
    match skip f rest with
    | [] => none
    | c :: _ =>
      if c.isAlpha || c = '-' then
        match upToBrace f.verbose false rest with
        | none => none
        | some (name, rest) => (wordEdge? (String.ofList name)).map fun e => (word f e, rest)
      else some (word f .boundary, s)
  | _ => some (word f .boundary, s)

/-- Reads what follows a backslash. -/
def readEscape (f : Flags) : Text → Option (Element × Text)
  | [] => none
  | c :: rest =>
    if isEscapable c then some (.literal c false, rest)
    else match c with
      | 'x' => readCode f 2 rest
      | 'u' => readCode f 4 rest
      | 'U' => readCode f 8 rest
      | 'p' => readProperty f false rest
      | 'P' => readProperty f true rest
      | 'd' | 's' | 'w' | 'D' | 'S' | 'W' => readLetterClass f c rest
      | 'a' => some (.literal '\x07' false, rest)
      | 'f' => some (.literal '\x0c' false, rest)
      | 't' => some (.literal '\t' false, rest)
      | 'n' => some (.literal '\n' false, rest)
      | 'r' => some (.literal '\r' false, rest)
      | 'v' => some (.literal '\x0b' false, rest)
      | 'A' => some (.expr (.check .textStart), rest)
      | 'z' => some (.expr (.check .textEnd), rest)
      | 'b' => readWordBoundary f rest
      | 'B' => some (word f .noBoundary, rest)
      | '<' => some (word f .start, rest)
      | '>' => some (word f .stop, rest)
      | _ => none

end Regex

end PathTemplates
