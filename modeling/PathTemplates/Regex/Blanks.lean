import PathTemplates.Regex.Flags
import PathTemplates.Unicode.CharClass

namespace PathTemplates

namespace Regex

/-- Drops blanks and comments; a comment runs from a number sign to the end of its line. -/
def dropBlanks : Bool → Text → Text
  | _, [] => []
  | true, c :: rest => dropBlanks (c ≠ '\n') rest
  | false, c :: rest =>
    if isBlank c then dropBlanks false rest
    else if c = '#' then dropBlanks true rest
    else c :: rest

def skip (f : Flags) (s : Text) : Text := if f.verbose then dropBlanks false s else s

/-- The first character that is no blank, looking one number sign deep into a comment. -/
def firstVisible : Bool → Text → Option Char
  | _, [] => none
  | inComment, c :: rest =>
    if isBlank c then firstVisible inComment rest
    else if c = '#' && !inComment then firstVisible true rest
    else some c

def peek (f : Flags) (s : Text) : Option Char :=
  if f.verbose then (firstVisible false s).or s.head? else s.head?

/-- The characters up to a closing brace and the text after it. -/
def upToBrace (verbose : Bool) : Bool → Text → Option (Text × Text)
  | _, [] => none
  | true, c :: rest => upToBrace verbose (c ≠ '\n') rest
  | false, c :: rest =>
    if c = '}' then some ([], rest)
    else if verbose && isBlank c then upToBrace verbose false rest
    else if verbose && c = '#' then upToBrace verbose true rest
    else (upToBrace verbose false rest).map fun p => (c :: p.1, p.2)

/-- The digits in front and the text after them. -/
def takeDigits (verbose : Bool) : Bool → Text → Text × Text
  | _, [] => ([], [])
  | true, c :: rest => takeDigits verbose (c ≠ '\n') rest
  | false, c :: rest =>
    if c.isDigit then
      let (digits, after) := takeDigits verbose false rest
      (c :: digits, after)
    else if verbose && isBlank c then takeDigits verbose false rest
    else if verbose && c = '#' then takeDigits verbose true rest
    else ([], c :: rest)

def maxCount : Nat := 4294967295

/-- A number between blanks. -/
def readCount (f : Flags) (s : Text) : Option (Nat × Text) :=
  let (digits, rest) := takeDigits f.verbose false (s.dropWhile isBlank)
  let n := digits.foldl (fun n c => 10 * n + (c.toNat - 48)) 0
  if digits = [] || n > maxCount then none else some (n, rest.dropWhile isBlank)

def isHexDigit (c : Char) : Bool :=
  c.isDigit || ('a' ≤ c && c ≤ 'f') || ('A' ≤ c && c ≤ 'F')

def hexValue (c : Char) : Nat :=
  if c.isDigit then c.toNat - 48 else if c.isLower then c.toNat - 87 else c.toNat - 55

/-- Exactly so many hexadecimal digits. -/
def readHexDigits (f : Flags) : Nat → Nat → Text → Option (Nat × Text)
  | 0, n, s => some (n, s)
  | _ + 1, _, [] => none
  | k + 1, n, c :: rest =>
    if isHexDigit c then readHexDigits f k (16 * n + hexValue c) (skip f rest) else none

end Regex

end PathTemplates
