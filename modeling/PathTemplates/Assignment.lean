import PathTemplates.NameMap
import PathTemplates.SortedList

namespace PathTemplates

structure Binding where
  name : Text
  value : Text
  deriving DecidableEq, Repr

namespace Binding

/-- By name, and by value between bindings of one name. -/
instance : LT Binding where
  lt a b := a.name < b.name ∨ a.name = b.name ∧ a.value < b.value

instance : DecidableLT Binding := fun a b =>
  inferInstanceAs (Decidable (a.name < b.name ∨ a.name = b.name ∧ a.value < b.value))

instance : Std.Irrefl (α := Binding) (· < ·) where
  irrefl _ h := h.elim (List.lt_irrefl _) fun h => List.lt_irrefl _ h.2

instance : Trans (α := Binding) (· < ·) (· < ·) (· < ·) where
  trans := by
    rintro a b c (h | ⟨e, h⟩) (h' | ⟨e', h'⟩)
    · exact .inl (List.lt_trans h h')
    · exact .inl (e' ▸ h)
    · exact .inl (e ▸ h')
    · exact .inr ⟨e.trans e', List.lt_trans h h'⟩

instance : Std.Trichotomous (α := Binding) (· < ·) where
  trichotomous := by
    rintro ⟨n, v⟩ ⟨m, w⟩ h h'
    have hn : n = m := ((Text.lt_or_eq_or_gt n m).resolve_left fun l => h (.inl l)).resolve_right
      fun l => h' (.inl l)
    subst hn
    have hv : v = w :=
      ((Text.lt_or_eq_or_gt v w).resolve_left fun l => h (.inr ⟨rfl, l⟩)).resolve_right
        fun l => h' (.inr ⟨rfl, l⟩)
    rw [hv]

end Binding

abbrev Assignment := List Binding

instance : Std.Trichotomous (α := Assignment) (· < ·) where
  trichotomous _ _ h h' := List.le_antisymm (List.not_lt.1 h') (List.not_lt.1 h)

namespace Assignment

def get? (t : Assignment) (name : Text) : Option Text :=
  (t.find? fun b => b.name = name).map (·.value)

theorem get?_append (t u : Assignment) (name : Text) :
    get? (t ++ u) name = (t.get? name).or (u.get? name) := by
  rw [get?, List.find?_append, Option.map_or]
  rfl

def names (t : Assignment) : List Text := t.map (·.name)

theorem get?_eq_none_iff {t : Assignment} {name : Text} : t.get? name = none ↔ name ∉ t.names := by
  simp [get?, names]

theorem get?_of_mem {t : Assignment} {b : Binding} (h : t.names.Nodup) (hb : b ∈ t) :
    t.get? b.name = some b.value := by
  induction t with
  | nil => cases hb
  | cons d t ih =>
    obtain ⟨hd, ht⟩ := List.nodup_cons.1 h
    rcases List.mem_cons.1 hb with rfl | hb
    · simp [get?]
    · have hne : d.name ≠ b.name := fun e => hd (List.mem_map.2 ⟨b, hb, e.symm⟩)
      have hget := ih ht hb
      unfold get? at hget ⊢
      rwa [List.find?_cons_of_neg (by simpa using hne)]

def values (t : Assignment) : List Text := t.map (·.value)

/-- The bindings of `names`, in that order, provided that each of them has one. -/
def project (t : Assignment) (names : List Text) : Option Assignment :=
  names.mapM fun n => (t.get? n).map (Binding.mk n)

theorem project_eq_some_iff {t row : Assignment} {names : List Text} :
    t.project names = some row ↔
      row.names = names ∧ ∀ b ∈ row, t.get? b.name = some b.value := by
  induction names generalizing row with
  | nil =>
    constructor
    · intro h
      cases h
      exact ⟨rfl, fun b hb => nomatch hb⟩
    · intro ⟨h, _⟩
      rw [List.map_eq_nil_iff.1 h]
      rfl
  | cons n ns ih =>
    rw [project, List.mapM_cons]
    constructor
    · intro h
      obtain ⟨b, hb, h⟩ := Option.bind_eq_some_iff.1 h
      obtain ⟨rest, hrest, h⟩ := Option.bind_eq_some_iff.1 h
      obtain ⟨value, hvalue, rfl⟩ := Option.map_eq_some_iff.1 hb
      obtain ⟨hnames, hall⟩ := ih.1 hrest
      cases h
      exact ⟨by rw [← hnames]; rfl, List.forall_mem_cons.2 ⟨hvalue, hall⟩⟩
    · intro ⟨hnames, hall⟩
      cases row with
      | nil => cases hnames
      | cons b row =>
        obtain ⟨hb, hall⟩ := List.forall_mem_cons.1 hall
        obtain ⟨rfl, hrest⟩ := List.cons_eq_cons.1 hnames
        have hproject := ih.2 ⟨hrest, hall⟩
        rw [project] at hproject
        rw [hb, hproject]
        rfl

/-- One line of a table. -/
def row (t : Assignment) : Text := Text.join [','] t.values

/-- Adds a value to the column of its name. -/
def addToColumn (columns : NameMap (List Text)) (b : Binding) : NameMap (List Text) :=
  columns.insert b.name ((columns.get? b.name).getD [] ++ [b.value])

/-- Each name with its values, row by row. -/
def columns (ts : List Assignment) : NameMap (List Text) := ts.flatten.foldl addToColumn .empty

end Assignment

end PathTemplates
