import PathTemplates.Unicode.BinaryProperty

namespace PathTemplates

/-- Other tables follow version 16 of the character set; names may also be made of the letters and
numbers that version 17 has added. -/
def laterLetters : CharSet :=
  CharSet.ofHex
    ["88F C5C CDC A7CE-A7CF A7D2 A7D4 A7F1 10940-10959 10EC5-10EC7 10EFA-10EFB 11B60-11B67",
     "11DB0-11DDB 16EA0-16EB8 16EBB-16ED3 16FF2-16FF6 187F8-187FF 18D09-18D1E 18D80-18DF2",
     "1E6C0-1E6DE 1E6E0-1E6F5 1E6FE-1E6FF 2B73A-2B73F 2CEA2-2CEAD 323B0-33479"]

def laterNumbers : CharSet :=
  CharSet.ofHex
    ["11DE0-11DE9 16FF4-16FF6"]

/-- Letters, and the marks that count as letters. -/
def letterSet : CharSet := BinaryProperty.alphabetic.set.union laterLetters

def numberSet : CharSet := (Category.setOf Category.numbers).union laterNumbers

def blankSet : CharSet := BinaryProperty.whiteSpace.set

/-- What words are made of: letters, marks, decimal digits, connectors and joiners. -/
def wordSet : CharSet :=
  CharSet.unionAll
    [BinaryProperty.alphabetic.set, BinaryProperty.joinControl.set,
      Category.setOf (.decimalNumber :: .connectorPunctuation :: Category.marks)]

def isAlphabetic (c : Char) : Bool :=
  if c.toNat < 128 then c.isAlpha else letterSet.contains c

/-- Letters and all numbers. -/
def isAlphanumeric (c : Char) : Bool :=
  if c.toNat < 128 then c.isAlphanum else letterSet.contains c || numberSet.contains c

/-- White space, the vertical tab and the form feed included. -/
def isBlank (c : Char) : Bool :=
  if c.toNat < 128 then c = ' ' || (9 ≤ c.toNat && c.toNat ≤ 13) else blankSet.contains c

def isWordChar (c : Char) : Bool :=
  if c.toNat < 128 then c.isAlphanum || c = '_' else wordSet.contains c

end PathTemplates
