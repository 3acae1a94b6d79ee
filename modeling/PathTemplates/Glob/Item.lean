import PathTemplates.Expr
import PathTemplates.Nesting
import PathTemplates.Text

namespace PathTemplates

abbrev ByteExpr := Expr UInt8 Empty

/-- What a glob is made of. It looks at the bytes of a name: a wildcard and a class stand for one
byte, not for one character. -/
inductive GlobItem where
  | literal (c : Char)
  | anyByte
  | anyBytes
  /-- Folders in front: nothing, a slash, or anything that ends in a slash. -/
  | leadingFolders
  /-- Folders in between: a slash, or anything between two slashes. -/
  | innerFolders
  /-- A slash and anything below it. -/
  | descendants
  | charClass (negated : Bool) (ranges : List (Char × Char))
  /-- Alternatives, none of them without an item of its own; without alternatives the group
  matches the empty text. -/
  | group (alternatives : List (List GlobItem))

namespace GlobItem

def byte (b : UInt8) : ByteExpr := .symbol (· == b)

def slash : ByteExpr := byte 47

def anything : ByteExpr := .many (.symbol fun _ => true)

/-- The bytes that a class spells: of a range, the last byte of the lower end up to the first byte
of the upper end, and all other bytes of both ends. -/
def byteRanges : Char × Char → List (UInt8 × UInt8)
  | (a, b) =>
    let low := String.utf8EncodeChar a
    let high := String.utf8EncodeChar b
    if a = b then low.map fun x => (x, x)
    else
      low.dropLast.map (fun x => (x, x)) ++ (low.getLast?.getD 0, high.headD 0) ::
        high.tail.map (fun x => (x, x))

def classAccepts (negated : Bool) (ranges : List (Char × Char)) (x : UInt8) : Bool :=
  (ranges.flatMap byteRanges).any (fun r => r.1 ≤ x && x ≤ r.2) != negated

mutual

def expr : GlobItem → ByteExpr
  | literal c => .seqAll ((String.utf8EncodeChar c).map byte)
  | anyByte => .symbol fun _ => true
  | anyBytes => anything
  | leadingFolders => .alt (.rep slash 0 (some 1)) (.seq anything slash)
  | innerFolders => .alt slash (.seqAll [slash, anything, slash])
  | descendants => .seq slash anything
  | charClass negated ranges => .symbol (classAccepts negated ranges)
  | group alternatives => .altAll (branchExprs alternatives)

def branchExprs : List (List GlobItem) → List ByteExpr
  | [] => []
  | items :: branches => .seqAll (exprs items) :: branchExprs branches

def exprs : List GlobItem → List ByteExpr
  | [] => []
  | item :: items => item.expr :: exprs items

end

def exprAll (items : List GlobItem) : ByteExpr := .seqAll (exprs items)

def isLiteral : GlobItem → Bool
  | literal _ => true
  | _ => false

/-- Whether an item contributes nothing at all. -/
def isVoid : GlobItem → Bool
  | group [] => true
  | _ => false

/-- The group of some branches; a branch that contributes nothing is not an alternative. -/
def ofBranches (branches : List (List GlobItem)) : GlobItem :=
  group (branches.filter fun b => !b.all isVoid)

/-- The characters of a list of literals. -/
def literals? : List GlobItem → Option Text
  | [] => some []
  | literal c :: rest => (literals? rest).map (c :: ·)
  | _ :: _ => none

def char? : GlobItem → Option Char
  | literal c => some c
  | _ => none

/-- The characters that every match ends in: those of the literals at the end. -/
def ending (items : List GlobItem) : Text :=
  (items.reverse.takeWhile isLiteral).reverse.filterMap char?

end GlobItem

end PathTemplates
