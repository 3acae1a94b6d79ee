import PathTemplates.Unicode.NamedSet

namespace PathTemplates

namespace SentenceBreak

def all : List NamedSet :=
  [⟨["at", "aterm"],
      [],
      CharSet.ofHex
        ["2E 2024 FE52 FF0E"]⟩,
   ⟨["cr"],
      [],
      CharSet.ofHex
        ["D"]⟩,
   ⟨["cl", "close"],
      [.openPunctuation, .closePunctuation, .initialPunctuation, .finalPunctuation],
      CharSet.ofHex
        ["22 27 275B-2760 2E00-2E01 2E06-2E08 2E0B 1F676-1F678"]⟩,
   ⟨["ex", "extend"],
      [.nonspacingMark, .spacingMark, .enclosingMark],
      CharSet.ofHex
        ["200C-200D FF9E-FF9F E0020-E007F"]⟩,
   ⟨["fo", "format"],
      [.format],
      CharSet.ofHex
        ["600-605 6DD 890-891 8E2 200C-200D 110BD 110CD E0020-E007F"]⟩,
   ⟨["lf"],
      [],
      CharSet.ofHex
        ["A"]⟩,
   ⟨["lo", "lower"],
      [.lowercaseLetter],
      CharSet.ofHex
        ["AA BA 2B0-2B8 2C0-2C1 2E0-2E4 37A 10D0-10FA 10FC-10FF 1D2C-1D6A 1D78 1D9B-1DBF 2071",
         "207F 2090-209C 2170-217F 24D0-24E9 2C7C-2C7D A69C-A69D A770 A7F2-A7F4 A7F8-A7F9",
         "AB5C-AB5F AB69 10780 10783-10785 10787-107B0 107B2-107BA 1E030-1E06D"]⟩,
   ⟨["nu", "numeric"],
      [.decimalNumber],
      CharSet.ofHex
        ["600-605 66B-66C 6DD 890-891 8E2 19DA 110BD 110CD"]⟩,
   ⟨["le", "oletter"],
      [.modifierLetter, .otherLetter, .letterNumber],
      CharSet.ofHex
        ["AA BA 2B0-2B8 2C0-2C1 2E0-2E4 37A 5F3 10D0-10FA 10FC-10FF 1C90-1CBA 1CBD-1CBF",
         "1D2C-1D6A 1D78 1D9B-1DBF 2071 207F 2090-209C 2160-217F 2C7C-2C7D A69C-A69D A770",
         "A7F2-A7F4 A7F8-A7F9 AB5C-AB5F AB69 FF9E-FF9F 10780 10783-10785 10787-107B0",
         "107B2-107BA 1E030-1E06D"]⟩,
   ⟨["sc", "scontinue"],
      [],
      CharSet.ofHex
        ["2C-2D 3A-3B 37E 55D 60C-60D 7F8 1802 1808 2013-2014 3001 FE10-FE11 FE13-FE14",
         "FE31-FE32 FE50-FE51 FE54-FE55 FE58 FE63 FF0C-FF0D FF1A-FF1B FF64"]⟩,
   ⟨["st", "sterm"],
      [],
      CharSet.ofHex
        ["21 3F 589 61D-61F 6D4 700-702 7F9 837 839 83D-83E 964-965 104A-104B 1362 1367-1368",
         "166E 1735-1736 17D4-17D5 1803 1809 1944-1945 1AA8-1AAB 1B4E-1B4F 1B5A-1B5B 1B5E-1B5F",
         "1B7D-1B7F 1C3B-1C3C 1C7E-1C7F 203C-203D 2047-2049 2CF9-2CFB 2E2E 2E3C 2E53-2E54 3002",
         "A4FF A60E-A60F A6F3 A6F7 A876-A877 A8CE-A8CF A92F A9C8-A9C9 AA5D-AA5F AAF0-AAF1 ABEB",
         "FE12 FE15-FE16 FE56-FE57 FF01 FF1F FF61 10A56-10A57 10F55-10F59 10F86-10F89",
         "11047-11048 110BE-110C1 11141-11143 111C5-111C6 111CD 111DE-111DF 11238-11239",
         "1123B-1123C 112A9 113D4-113D5 1144B-1144C 115C2-115C3 115C9-115D7 11641-11642",
         "1173C-1173E 11944 11946 11A42-11A43 11A9B-11A9C 11C41-11C42 11EF7-11EF8 11F43-11F44",
         "16A6E-16A6F 16AF5 16B37-16B38 16B44 16D6E-16D6F 16E98 1BC9F 1DA88"]⟩,
   ⟨["se", "sep"],
      [],
      CharSet.ofHex
        ["85 2028-2029"]⟩,
   ⟨["sp"],
      [.spaceSeparator],
      CharSet.ofHex
        ["9 B-C"]⟩,
   ⟨["up", "upper"],
      [.uppercaseLetter, .titlecaseLetter],
      CharSet.ofHex
        ["1C90-1CBA 1CBD-1CBF 2160-216F 24B6-24CF 1F130-1F149 1F150-1F169 1F170-1F189"]⟩]

end SentenceBreak

end PathTemplates
