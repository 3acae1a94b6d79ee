import PathTemplates.Unicode.NamedSet

namespace PathTemplates

namespace WordBreak

def all : List NamedSet :=
  [⟨["le", "aletter"],
      [.uppercaseLetter, .lowercaseLetter, .titlecaseLetter, .modifierLetter, .otherLetter,
       .letterNumber],
      CharSet.ofHex
        ["2C2-2C5 2D2-2D7 2DE-2DF 2E5-2EB 2ED 2EF-2FF 55A-55C 55E 58A 5D0-5EA 5EF-5F3 70F",
         "E01-E30 E32-E33 E40-E46 E81-E82 E84 E86-E8A E8C-EA3 EA5 EA7-EB0 EB2-EB3 EBD EC0-EC4",
         "EC6 EDC-EDF 1000-102A 103F 1050-1055 105A-105D 1061 1065-1066 106E-1070 1075-1081",
         "108E 1780-17B3 17D7 17DC 1950-196D 1970-1974 1980-19AB 19B0-19C9 1A20-1A54 1AA7",
         "24B6-24E9 3006-3007 3021-3029 3031-3035 3038-303A 3041-3096 309D-309F 30A1-30FA",
         "30FC-30FF 31F0-31FF 3400-4DBF 4E00-9FFF A708-A716 A720-A721 A789-A78A A9E0-A9E4",
         "A9E6-A9EF A9FA-A9FE AA60-AA76 AA7A AA7E-AAAF AAB1 AAB5-AAB6 AAB9-AABD AAC0 AAC2",
         "AADB-AADD AB5B F900-FA6D FA70-FAD9 FB1D FB1F-FB28 FB2A-FB36 FB38-FB3C FB3E FB40-FB41",
         "FB43-FB44 FB46-FB4F FF66-FF9F 11700-1171A 11740-11746 17000-187F7 18800-18CD5",
         "18CFF-18D08 1AFF0-1AFF3 1AFF5-1AFFB 1AFFD-1AFFE 1B000-1B122 1B132 1B150-1B152 1B155",
         "1B164-1B167 1B170-1B2FB 1F130-1F149 1F150-1F169 1F170-1F189 20000-2A6DF 2A700-2B739",
         "2B740-2B81D 2B820-2CEA1 2CEB0-2EBE0 2EBF0-2EE5D 2F800-2FA1D 30000-3134A 31350-323AF"]⟩,
   ⟨["cr"],
      [],
      CharSet.ofHex
        ["D"]⟩,
   ⟨["dq", "doublequote"],
      [],
      CharSet.ofHex
        ["22"]⟩,
   ⟨["extend"],
      [.nonspacingMark, .spacingMark, .enclosingMark],
      CharSet.ofHex
        ["200C FF9E-FF9F 1F3FB-1F3FF E0020-E007F"]⟩,
   ⟨["ex", "extendnumlet"],
      [.connectorPunctuation],
      CharSet.ofHex
        ["202F"]⟩,
   ⟨["fo", "format"],
      [.format],
      CharSet.ofHex
        ["600-605 6DD 70F 890-891 8E2 200B-200D 110BD 110CD E0020-E007F"]⟩,
   ⟨["hl", "hebrewletter"],
      [],
      CharSet.ofHex
        ["5D0-5EA 5EF-5F2 FB1D FB1F-FB28 FB2A-FB36 FB38-FB3C FB3E FB40-FB41 FB43-FB44",
         "FB46-FB4F"]⟩,
   ⟨["ka", "katakana"],
      [],
      CharSet.ofHex
        ["3031-3035 309B-309C 30A0-30FA 30FC-30FF 31F0-31FF 32D0-32FE 3300-3357 FF66-FF9D",
         "1AFF0-1AFF3 1AFF5-1AFFB 1AFFD-1AFFE 1B000 1B120-1B122 1B155 1B164-1B167"]⟩,
   ⟨["lf"],
      [],
      CharSet.ofHex
        ["A"]⟩,
   ⟨["ml", "midletter"],
      [],
      CharSet.ofHex
        ["3A B7 387 55F 5F4 2027 FE13 FE55 FF1A"]⟩,
   ⟨["mn", "midnum"],
      [],
      CharSet.ofHex
        ["2C 3B 37E 589 60C-60D 66C 7F8 2044 FE50 FE54 FF0C FF1B"]⟩,
   ⟨["mb", "midnumlet"],
      [],
      CharSet.ofHex
        ["2E 2018-2019 2024 FE52 FF07 FF0E"]⟩,
   ⟨["nl", "newline"],
      [],
      CharSet.ofHex
        ["B-C 85 2028-2029"]⟩,
   ⟨["nu", "numeric"],
      [.decimalNumber],
      CharSet.ofHex
        ["600-605 66B 6DD 890-891 8E2 19DA 110BD 110CD"]⟩,
   ⟨["ri", "regionalindicator"],
      [],
      CharSet.ofHex
        ["1F1E6-1F1FF"]⟩,
   ⟨["sq", "singlequote"],
      [],
      CharSet.ofHex
        ["27"]⟩,
   ⟨["wsegspace"],
      [.spaceSeparator],
      CharSet.ofHex
        ["A0 2007 202F"]⟩,
   ⟨["zwj"],
      [],
      CharSet.ofHex
        ["200D"]⟩]

end WordBreak

end PathTemplates
