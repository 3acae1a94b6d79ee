import PathTemplates.Text
import PathTemplates.Unicode.Age
import PathTemplates.Unicode.CaseFold
import PathTemplates.Unicode.CharClass
import PathTemplates.Unicode.GraphemeBreak
import PathTemplates.Unicode.Script
import PathTemplates.Unicode.SentenceBreak
import PathTemplates.Unicode.WordBreak

namespace PathTemplates

namespace CharSet

/-- The set with all characters that differ from a member only in case. -/
def fold (unicode : Bool) (s : CharSet) : CharSet :=
  CaseFold.close (if unicode then CaseFold.cased else CaseFold.asciiCased) s

def asciiDigit : CharSet := range '0' '9'

def asciiAlpha : CharSet := union (range 'a' 'z') (range 'A' 'Z')

def asciiSpace : CharSet := union (range '\t' '\r') (single ' ')

def asciiWord : CharSet := unionAll [asciiAlpha, asciiDigit, single '_']

/-- The set with a name between brackets and colons. -/
def asciiClass? : String → Option CharSet
  | "alnum" => some (union asciiAlpha asciiDigit)
  | "alpha" => some asciiAlpha
  | "ascii" => some (range '\x00' '\x7f')
  | "blank" => some (union (single '\t') (single ' '))
  | "cntrl" => some (union (range '\x00' '\x1f') (single '\x7f'))
  | "digit" => some asciiDigit
  | "graph" => some (range '!' '~')
  | "lower" => some (range 'a' 'z')
  | "print" => some (range ' ' '~')
  | "punct" => some (diff (range '!' '~') (union asciiAlpha asciiDigit))
  | "space" => some asciiSpace
  | "upper" => some (range 'A' 'Z')
  | "word" => some asciiWord
  | "xdigit" => some (unionAll [asciiDigit, range 'a' 'f', range 'A' 'F'])
  | _ => Option.none

/-- Loose matching of property names ignores case, blanks, underscores and hyphens, all that is not
ASCII, and `is` in front. -/
def looseName (name : Text) : String :=
  let lower := name.map Char.toLower
  let is := lower.take 2 = ['i', 's']
  let body := if is then lower.drop 2 else lower
  let kept := body.filter fun c => c.toNat < 128 && c ≠ ' ' && c ≠ '_' && c ≠ '-'
  if is && kept = ['c'] then "isc" else String.ofList kept

def category? : String → Option CharSet
  | "any" => some all
  | "assigned" => some (Category.set .unassigned).compl
  | "ascii" => some (range '\x00' '\x7f')
  | name => (Category.lookup name).map Category.setOf

def script? (name : String) : Option CharSet := (Script.lookup name).map Script.own

def named? (sets : List NamedSet) (name : String) : Option CharSet :=
  (NamedSet.lookup sets name).map NamedSet.set

/-- The set of a property, a category or a script. -/
def property? (name : Text) : Option CharSet :=
  let name := looseName name
  ((named? BinaryProperty.all name).or (category? name)).or (script? name)

/-- The set of the characters for which a property has a value. -/
def propertyValue? (name value : Text) : Option CharSet :=
  let value := looseName value
  match looseName name with
  | "gc" | "generalcategory" => category? value
  | "sc" | "script" => script? value
  | "scx" | "scriptextensions" => (Script.lookup value).map Script.uses
  | "age" => Age.upTo? value
  | "gcb" | "graphemeclusterbreak" => named? GraphemeBreak.all value
  | "wb" | "wordbreak" => named? WordBreak.all value
  | "sb" | "sentencebreak" => named? SentenceBreak.all value
  | _ => Option.none

end CharSet

end PathTemplates
