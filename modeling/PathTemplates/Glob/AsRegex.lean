import PathTemplates.Glob.Basic

namespace PathTemplates

namespace GlobItem

def hexDigit (n : Nat) : Char := Char.ofNat (if n < 10 then 48 + n else 87 + n)

/-- The characters that an expression gives a meaning to. -/
def isMeta (c : Char) : Bool :=
  ['\\', '.', '+', '*', '?', '(', ')', '|', '[', ']', '\x7b', '\x7d', '^', '$', '#', '&', '-',
    '~'].contains c

/-- A byte beyond ASCII is written by its number. -/
def writtenByte (b : UInt8) : Text :=
  if b.toNat < 128 then
    let c := Char.ofNat b.toNat
    if isMeta c then ['\\', c] else [c]
  else ['\\', 'x', hexDigit (b.toNat / 16), hexDigit (b.toNat % 16)]

def writtenChar (c : Char) : Text := (String.utf8EncodeChar c).flatMap writtenByte

def writtenRange : Char × Char → Text
  | (a, b) => if a = b then writtenChar a else writtenChar a ++ '-' :: writtenChar b

mutual

def written : GlobItem → Text
  | literal c => writtenChar c
  | anyByte => ['.']
  | anyBytes => ['.', '*']
  | leadingFolders => "(?:/?|.*/)".toList
  | innerFolders => "(?:/|/.*/)".toList
  | descendants => ['/', '.', '*']
  | charClass negated ranges =>
    '[' :: (if negated then ['^'] else []) ++ ranges.flatMap writtenRange ++ [']']
  | group [] => []
  | group alternatives => "(?:".toList ++ Text.join ['|'] (writtenBranches alternatives) ++ [')']

def writtenBranches : List (List GlobItem) → List Text
  | [] => []
  | items :: branches => writtenAll items :: writtenBranches branches

def writtenAll : List GlobItem → Text
  | [] => []
  | item :: items => item.written ++ writtenAll items

end

mutual

/-- The depths of the parts that an item puts side by side. -/
def depths : GlobItem → List Nat
  | literal c => (String.utf8EncodeChar c).map fun _ => 0
  | anyByte => [0]
  | anyBytes => [1]
  | leadingFolders => [4]
  | innerFolders => [4]
  | descendants => [0, 1]
  | charClass _ ranges => [Nesting.sideBySide ((ranges.flatMap byteRanges).map fun _ => 0) + 1]
  | group [] => []
  | group alternatives => [Nesting.sideBySide (branchDepths alternatives) + 1]

def branchDepths : List (List GlobItem) → List Nat
  | [] => []
  | items :: branches => Nesting.sideBySide (depthsAll items) :: branchDepths branches

def depthsAll : List GlobItem → List Nat
  | [] => []
  | item :: items => item.depths ++ depthsAll items

end

end GlobItem

namespace Glob

/-- The whole glob as a regular expression, which looks at bytes and is tied to both ends. -/
def regexText (g : Glob) : Text :=
  let body := match g.items with
    | [.leadingFolders] => ['.', '*']
    | items => GlobItem.writtenAll items
  "(?-u)^".toList ++ body ++ ['$']

/-- Besides the items, the flags in front and the two ends are parts of the expression. -/
def isTooDeep (g : Glob) : Bool :=
  Nesting.limit < Nesting.sideBySide (0 :: 0 :: 0 :: GlobItem.depthsAll g.items)

end Glob

end PathTemplates
