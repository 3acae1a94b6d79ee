import PathTemplates.Glob.Basic

namespace PathTemplates

/-- What stands behind the last separator; without one, everything. -/
def behindLast {α : Type} [DecidableEq α] (separator : α) (l : List α) : List α :=
  (l.reverse.takeWhile fun x => x ≠ separator).reverse

namespace Path

-- The bytes of a slash and of a period are 47 and 46.
def lastPart (path : List UInt8) : List UInt8 := behindLast 47 path

/-- The last part of a path. The parent folder is not a name. -/
def fileName (path : List UInt8) : List UInt8 :=
  if lastPart path = [46, 46] then [] else lastPart path

/-- What the name has from its last period on. -/
def fileExtension (path : List UInt8) : List UInt8 :=
  if (fileName path).contains 46 then 46 :: behindLast 46 (fileName path) else []

end Path

/-- What a path is compared with. A list of exclusions tries globs of a plain form without their
expressions. -/
inductive GlobTest where
  | whole (text : Text)
  | lastPart (name : Text)
  | extension (ext : Text)
  | beginning (text : Text)
  | ending (text : Text)
  /-- Some of the last parts of the path, or all of them. -/
  | lastParts (text : Text)
  /-- First with an extension, and then with the expression. -/
  | extensionFirst (ext : Text)
  | expression
  deriving DecidableEq, Repr

namespace GlobTest

def isExtensionFirst : GlobTest → Bool
  | extensionFirst _ => true
  | _ => false

end GlobTest

namespace GlobItem

/-- A period and then neither a period nor a slash. -/
def isExtension : Text → Bool
  | '.' :: rest => !rest.contains '.' && !rest.contains '/'
  | _ => false

def wholeTest? (items : List GlobItem) : Option GlobTest :=
  ((literals? items).filter fun t => t ≠ []).map .whole

def lastPartTest? : List GlobItem → Option GlobTest
  | .leadingFolders :: rest =>
    ((literals? rest).filter fun t => t ≠ [] && !t.contains '/').map .lastPart
  | _ => none

/-- Folders in front make no difference to an extension behind a star. -/
def extensionTest? : List GlobItem → Option GlobTest
  | .leadingFolders :: .anyBytes :: rest | .anyBytes :: rest =>
    ((literals? rest).filter isExtension).map .extension
  | _ => none

def beginningTest? (items : List GlobItem) : Option GlobTest :=
  match items.getLast? with
  | some .anyBytes => ((literals? items.dropLast).filter fun t => t ≠ []).map .beginning
  | some .descendants => (literals? items.dropLast).map fun t => .beginning (t ++ ['/'])
  | _ => none

def endingTest? : List GlobItem → Option GlobTest
  | .leadingFolders :: .anyBytes :: rest | .anyBytes :: rest =>
    ((literals? rest).filter fun t => t ≠ [] && t ≠ ['/']).map .ending
  | .leadingFolders :: rest => ((literals? rest).filter fun t => t ≠ []).map .lastParts
  | _ => none

/-- The extension that every match has, if the literals at the end reach back to a period. -/
def extensionFirstTest? (items : List GlobItem) : Option GlobTest :=
  let last := behindLast '/' (ending items)
  if last.contains '.' then some (.extensionFirst ('.' :: behindLast '.' last)) else none

/-- The ways to do without the expression, or to ask it less often, the best one first. -/
def shortcuts : List (List GlobItem → Option GlobTest) :=
  [lastPartTest?, wholeTest?, extensionTest?, beginningTest?, endingTest?, extensionFirstTest?]

end GlobItem

namespace Glob

def test (g : Glob) : GlobTest :=
  (GlobItem.shortcuts.findSome? fun shortcut => shortcut g.items).getD .expression

/-- Whether a glob among exclusions takes a name. -/
def excludes (g : Glob) (name : Text) : Bool :=
  match g.test with
  | .whole t => name.utf8 = t.utf8
  | .lastPart t => Path.fileName name.utf8 = t.utf8
  | .extension t => Path.fileExtension name.utf8 = t.utf8
  | .beginning t => t.utf8.isPrefixOf name.utf8
  | .ending t => t.utf8.isSuffixOf name.utf8
  | .lastParts t => name.utf8 = t.utf8 || (47 :: t.utf8).isSuffixOf name.utf8
  | .extensionFirst t => Path.fileExtension name.utf8 = t.utf8 && g.matchesName name
  | .expression => g.matchesName name

end Glob

end PathTemplates
