import PathTemplates.Text

namespace PathTemplates

structure Flags where
  ignoreCase : Bool := false
  multiLine : Bool := false
  dotAll : Bool := false
  swapGreed : Bool := false
  unicode : Bool := true
  crlf : Bool := false
  /-- Blanks and comments in the expression mean nothing. -/
  verbose : Bool := false
  deriving DecidableEq, Repr

namespace Flags

def letters : List Char := ['i', 'm', 's', 'U', 'u', 'R', 'x']

def set (f : Flags) (letter : Char) (on : Bool) : Flags :=
  match letter with
  | 'i' => { f with ignoreCase := on }
  | 'm' => { f with multiLine := on }
  | 's' => { f with dotAll := on }
  | 'U' => { f with swapGreed := on }
  | 'u' => { f with unicode := on }
  | 'R' => { f with crlf := on }
  | 'x' => { f with verbose := on }
  | _ => f

/-- Whether a list of switches is in order: known letters, none twice, and at most one hyphen, with
a letter after it. -/
def wellFormed (switches : Text) : Bool :=
  switches.all (fun c => c = '-' || letters.contains c) && switches.eraseDups = switches &&
    switches.getLast? ≠ some '-'

/-- Letters after the hyphen switch their flags off. -/
def apply (f : Flags) (switches : Text) : Flags :=
  let on := switches.takeWhile fun c => c ≠ '-'
  let off := (switches.dropWhile fun c => c ≠ '-').drop 1
  off.foldl (fun f c => f.set c false) (on.foldl (fun f c => f.set c true) f)

end Flags

end PathTemplates
