import PathTemplates.Unicode.NamedSet

namespace PathTemplates

namespace GraphemeBreak

/-- The Korean syllables without a final consonant: every 28th one, as there are 27 finals. -/
def openSyllables : CharSet :=
  CharSet.ofRanges ((List.range 399).map fun k => (0xac00 + 28 * k, 0xac00 + 28 * k))

def all : List NamedSet :=
  [⟨["cr"],
      [],
      CharSet.ofHex
        ["D"]⟩,
   ⟨["cn", "control"],
      [.format],
      CharSet.ofHex
        ["0-9 B-C E-1F 7F-9F 600-605 6DD 70F 890-891 8E2 200C-200D 2028-2029 2065 FFF0-FFF8",
         "110BD 110CD E0000 E0002-E00FF E01F0-E0FFF"]⟩,
   ⟨["ex", "extend"],
      [.nonspacingMark, .enclosingMark],
      CharSet.ofHex
        ["9BE 9D7 B3E B57 BBE BD7 CC0 CC2 CC7-CC8 CCA-CCB CD5-CD6 D3E D57 DCF DDF 1715 1734",
         "1B35 1B3B 1B3D 1B43-1B44 1BAA 1BF2-1BF3 200C 302E-302F A953 A9C0 FF9E-FF9F 111C0",
         "11235 1133E 1134D 11357 113B8 113C2 113C5 113C7-113C9 113CF 114B0 114BD 115AF 116B6",
         "11930 1193D 11F41 16FF0-16FF1 1D165-1D166 1D16D-1D172 1F3FB-1F3FF E0020-E007F"]⟩,
   ⟨["l"],
      [],
      CharSet.ofHex
        ["1100-115F A960-A97C"]⟩,
   ⟨["lf"],
      [],
      CharSet.ofHex
        ["A"]⟩,
   ⟨["lv"], [], openSyllables⟩,
   ⟨["lvt"], [], (CharSet.ofCodes 0xac00 0xd7a3).diff openSyllables⟩,
   ⟨["pp", "prepend"],
      [],
      CharSet.ofHex
        ["600-605 6DD 70F 890-891 8E2 D4E 110BD 110CD 111C2-111C3 113D1 1193F 11941 11A3A",
         "11A84-11A89 11D46 11F02"]⟩,
   ⟨["ri", "regionalindicator"],
      [],
      CharSet.ofHex
        ["1F1E6-1F1FF"]⟩,
   ⟨["sm", "spacingmark"],
      [.spacingMark],
      CharSet.ofHex
        ["9BE 9D7 B3E B57 BBE BD7 CC0 CC2 CC7-CC8 CCA-CCB CD5-CD6 D3E D57 DCF DDF E33 EB3",
         "102B-102C 1038 1062-1064 1067-106D 1083 1087-108C 108F 109A-109C 1715 1734 1A61",
         "1A63-1A64 1B35 1B3B 1B3D 1B43-1B44 1BAA 1BF2-1BF3 302E-302F A953 A9C0 AA7B AA7D",
         "111C0 11235 1133E 1134D 11357 113B8 113C2 113C5 113C7-113C9 113CF 114B0 114BD 115AF",
         "116B6 11720-11721 11930 1193D 11F41 16FF0-16FF1 1D165-1D166 1D16D-1D172"]⟩,
   ⟨["t"],
      [],
      CharSet.ofHex
        ["11A8-11FF D7CB-D7FB"]⟩,
   ⟨["v"],
      [],
      CharSet.ofHex
        ["1160-11A7 D7B0-D7C6 16D63 16D67-16D6A"]⟩,
   ⟨["zwj"],
      [],
      CharSet.ofHex
        ["200D"]⟩]

end GraphemeBreak

end PathTemplates
