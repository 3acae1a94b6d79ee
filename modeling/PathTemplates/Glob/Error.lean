import PathTemplates.Text

namespace PathTemplates

inductive GlobError where
  | unclosedClass
  | invalidRange (low high : Char)
  | danglingEscape
  | unopenedGroup
  | unclosedGroup
  deriving DecidableEq, Repr

namespace GlobError

def message : GlobError → String
  | unclosedClass => "unclosed character class; missing ']'"
  | invalidRange low high =>
    "invalid range; '" ++ String.singleton low ++ "' > '" ++ String.singleton high ++ "'"
  | danglingEscape => "dangling '\\'"
  | unopenedGroup =>
    "unopened alternate group; missing '\x7b' (maybe escape '\x7d' with '[\x7d]'?)"
  | unclosedGroup =>
    "unclosed alternate group; missing '\x7d' (maybe escape '\x7b' with '[\x7b]'?)"

end GlobError

end PathTemplates
