import PathTemplates.Unicode.Category

namespace PathTemplates

/-- A character belongs to the set when exactly one of two things holds, that its category is listed
or that it is an exception. Names are in loose form. -/
structure NamedSet where
  names : List String
  categories : List Category
  exceptions : CharSet

namespace NamedSet

def set (s : NamedSet) : CharSet := (Category.setOf s.categories).symmDiff s.exceptions

def lookup (sets : List NamedSet) (name : String) : Option NamedSet :=
  sets.find? fun s => s.names.contains name

end NamedSet

end PathTemplates
