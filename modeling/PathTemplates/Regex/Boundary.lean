import PathTemplates.Expr
import PathTemplates.Text
import PathTemplates.Unicode.CharClass

namespace PathTemplates

inductive WordEdge where
  | boundary
  | noBoundary
  | start
  | stop
  /-- No word before, whatever comes after. -/
  | startHalf
  /-- No word after, whatever comes before. -/
  | stopHalf
  deriving DecidableEq, Repr

/-- A line ends at a line feed, or, where `crlf` is set, at a carriage return and a line feed, alone
or together. Words are made of ASCII characters only unless `unicode` is set. -/
inductive Boundary where
  | textStart
  | textEnd
  | lineStart (crlf : Bool)
  | lineEnd (crlf : Bool)
  | word (edge : WordEdge) (unicode : Bool)
  deriving DecidableEq, Repr

namespace Boundary

def isAsciiWordChar (c : Char) : Bool := c.isAlphanum || c = '_'

def wordCharAt (unicode : Bool) : Option Char → Bool
  | none => false
  | some c => if unicode then isWordChar c else isAsciiWordChar c

/-- Whether the edge lies between two characters, of which there may be none. -/
def edgeBetween : WordEdge → Bool → Bool → Bool
  | .boundary, before, after => before != after
  | .noBoundary, before, after => before == after
  | .start, before, after => !before && after
  | .stop, before, after => before && !after
  | .startHalf, before, _ => !before
  | .stopHalf, _, after => !after

/-- Whether the boundary lies between two characters, of which there may be none. -/
def between : Boundary → Option Char → Option Char → Bool
  | textStart, before, _ => before.isNone
  | textEnd, _, after => after.isNone
  | lineStart false, before, _ => before.isNone || before = some '\n'
  | lineStart true, before, after =>
    before.isNone || before = some '\n' || (before = some '\r' && after ≠ some '\n')
  | lineEnd false, _, after => after.isNone || after = some '\n'
  | lineEnd true, before, after =>
    after.isNone || after = some '\r' || (after = some '\n' && before ≠ some '\r')
  | word edge unicode, before, after =>
    edgeBetween edge (wordCharAt unicode before) (wordCharAt unicode after)

end Boundary

abbrev CharExpr := Expr Char Boundary

end PathTemplates
