namespace PathTemplates

namespace Nesting

/-- Expressions that are nested more deeply are refused. -/
def limit : Nat := 250

/-- The depth of parts side by side, which lie one level below the whole. A single part is the whole
by itself. -/
def sideBySide : List Nat → Nat
  | [] => 0
  | [depth] => depth
  | depths => depths.foldl max 0 + 1

end Nesting

end PathTemplates
