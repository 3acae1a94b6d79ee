import PathTemplates.Text

namespace PathTemplates

theorem Text.lt_or_eq_or_gt (a b : Text) : a < b ∨ a = b ∨ b < a := by
  by_cases h : a < b
  · exact .inl h
  · by_cases h' : b < a
    · exact .inr (.inr h')
    · exact .inr (.inl (List.le_antisymm (List.not_lt.1 h') (List.not_lt.1 h)))

/-- In ascending order, so that two maps with the same entries are equal. -/
structure NameMap (β : Type) where
  entries : List (Text × β)
  ascending : entries.Pairwise fun a b => a.1 < b.1

namespace NameMap

variable {β : Type}

instance [DecidableEq β] : DecidableEq (NameMap β) := fun a b =>
  if h : a.entries = b.entries then isTrue (by cases a; cases b; simp_all)
  else isFalse fun e => h (e ▸ rfl)

def empty : NameMap β := ⟨[], .nil⟩

def get? (m : NameMap β) (name : Text) : Option β :=
  (m.entries.find? fun e => e.1 = name).map (·.2)

def contains (m : NameMap β) (name : Text) : Bool := (m.get? name).isSome

def insertInto (name : Text) (x : β) : List (Text × β) → List (Text × β)
  | [] => [(name, x)]
  | e :: es =>
    if name = e.1 then (name, x) :: es
    else if name < e.1 then (name, x) :: e :: es
    else e :: insertInto name x es

theorem mem_insertInto {name : Text} {x : β} {e : Text × β} {es : List (Text × β)}
    (h : e ∈ insertInto name x es) : e = (name, x) ∨ e ∈ es := by
  induction es with
  | nil => simpa [insertInto] using h
  | cons d ds ih =>
    unfold insertInto at h
    split at h
    · rcases List.mem_cons.1 h with h | h
      · exact .inl h
      · exact .inr (List.mem_cons_of_mem _ h)
    · split at h
      · exact List.mem_cons.1 h
      · rcases List.mem_cons.1 h with rfl | h
        · exact .inr (List.mem_cons_self ..)
        · exact (ih h).imp id (List.mem_cons_of_mem _)

theorem ascending_insertInto {name : Text} {x : β} {es : List (Text × β)}
    (h : es.Pairwise fun a b => a.1 < b.1) :
    (insertInto name x es).Pairwise fun a b => a.1 < b.1 := by
  induction es with
  | nil => simp [insertInto]
  | cons d ds ih =>
    obtain ⟨hd, hds⟩ := List.pairwise_cons.1 h
    unfold insertInto
    split
    · next heq => exact List.pairwise_cons.2 ⟨fun e he => by simpa [heq] using hd e he, hds⟩
    · split
      · next hlt =>
        refine List.pairwise_cons.2 ⟨fun e he => ?_, h⟩
        rcases List.mem_cons.1 he with rfl | he
        · exact hlt
        · exact List.lt_trans hlt (hd e he)
      · next hne hlt =>
        refine List.pairwise_cons.2 ⟨fun e he => ?_, ih hds⟩
        rcases mem_insertInto he with rfl | he
        · exact ((Text.lt_or_eq_or_gt name d.1).resolve_left hlt).resolve_left hne
        · exact hd e he

def insert (m : NameMap β) (name : Text) (x : β) : NameMap β :=
  ⟨insertInto name x m.entries, ascending_insertInto m.ascending⟩

def erase (m : NameMap β) (name : Text) : NameMap β :=
  ⟨m.entries.filter fun e => e.1 ≠ name, m.ascending.filter _⟩

theorem get?_empty (name : Text) : (empty : NameMap β).get? name = none := rfl

theorem find?_insertInto (name other : Text) (x : β) (es : List (Text × β)) :
    ((insertInto name x es).find? fun e => e.1 = other).map (·.2) =
      if name = other then some x else (es.find? fun e => e.1 = other).map (·.2) := by
  induction es with
  | nil => by_cases h : name = other <;> simp [insertInto, h]
  | cons d ds ih =>
    unfold insertInto
    by_cases hd : name = d.1
    · rw [if_pos hd]
      by_cases h : name = other
      · simp [h]
      · have h' : d.1 ≠ other := fun e => h (hd.trans e)
        simp [h, h']
    · rw [if_neg hd]
      by_cases h : name = other
      · have h' : d.1 ≠ other := fun e => hd (h.trans e.symm)
        by_cases hlt : name < d.1
        · rw [if_pos hlt]
          simp [h]
        · rw [if_neg hlt]
          simpa [h, h'] using ih
      · by_cases hlt : name < d.1
        · rw [if_pos hlt]
          simp [h]
        · rw [if_neg hlt]
          by_cases h' : d.1 = other
          · simp [h, h']
          · simpa [h, h'] using ih

theorem get?_insert (m : NameMap β) (name other : Text) (x : β) :
    (m.insert name x).get? other = if name = other then some x else m.get? other :=
  find?_insertInto name other x m.entries

theorem find?_filter_ne (name other : Text) (es : List (Text × β)) :
    ((es.filter fun e => e.1 ≠ name).find? fun e => e.1 = other).map (·.2) =
      if name = other then none else (es.find? fun e => e.1 = other).map (·.2) := by
  induction es with
  | nil => simp
  | cons d ds ih =>
    by_cases hd : d.1 = name
    · rw [List.filter_cons_of_neg (by simpa using hd), ih]
      by_cases h : name = other
      · simp [h]
      · have h' : d.1 ≠ other := fun e => h (hd.symm.trans e)
        simp [h, h']
    · rw [List.filter_cons_of_pos (by simpa using hd)]
      by_cases h' : d.1 = other
      · have h : name ≠ other := fun e => hd (h'.trans e.symm)
        simp [h, h']
      · simpa [h'] using ih

theorem get?_erase (m : NameMap β) (name other : Text) :
    (m.erase name).get? other = if name = other then none else m.get? other :=
  find?_filter_ne name other m.entries

theorem get?_eq_some_iff {m : NameMap β} {name : Text} {x : β} :
    m.get? name = some x ↔ (name, x) ∈ m.entries := by
  obtain ⟨es, hes⟩ := m
  simp only [get?]
  induction es with
  | nil => simp
  | cons d ds ih =>
    obtain ⟨hd, hds⟩ := List.pairwise_cons.1 hes
    by_cases h : d.1 = name
    · subst h
      have : (d.1, x) ∉ ds := fun hm => List.lt_irrefl d.1 (hd (d.1, x) hm)
      simp [this, Prod.ext_iff, eq_comm]
    · have : (name, x) ≠ d := fun e => h (by rw [← e])
      simp [h, ih hds, this]

theorem entries_eq_of_mem_iff {as bs : List (Text × β)}
    (ha : as.Pairwise fun a b => a.1 < b.1) (hb : bs.Pairwise fun a b => a.1 < b.1)
    (h : ∀ e, e ∈ as ↔ e ∈ bs) : as = bs := by
  induction as generalizing bs with
  | nil => exact (List.eq_nil_iff_forall_not_mem.2 fun e he => by simpa using (h e).2 he).symm
  | cons a as ih =>
    obtain ⟨haa, has⟩ := List.pairwise_cons.1 ha
    cases bs with
    | nil => simpa using (h a).1 (List.mem_cons_self ..)
    | cons b bs =>
      obtain ⟨hbb, hbs⟩ := List.pairwise_cons.1 hb
      have hab : a = b := by
        rcases List.mem_cons.1 ((h a).1 (List.mem_cons_self ..)) with e | hm
        · exact e
        · rcases List.mem_cons.1 ((h b).2 (List.mem_cons_self ..)) with e | hm'
          · exact e.symm
          · exact absurd (List.lt_trans (hbb a hm) (haa b hm')) (List.lt_irrefl _)
      subst hab
      congr 1
      refine ih has hbs fun e => ?_
      have := h e
      simp only [List.mem_cons] at this
      constructor
      · intro he
        rcases this.1 (.inr he) with rfl | hm
        · exact absurd (haa e he) (List.lt_irrefl _)
        · exact hm
      · intro he
        rcases this.2 (.inr he) with rfl | hm
        · exact absurd (hbb e he) (List.lt_irrefl _)
        · exact hm

theorem ext {m n : NameMap β} (h : ∀ name, m.get? name = n.get? name) : m = n := by
  have : m.entries = n.entries := entries_eq_of_mem_iff m.ascending n.ascending fun e => by
    rw [← @get?_eq_some_iff _ m e.1 e.2, ← @get?_eq_some_iff _ n e.1 e.2, h]
  cases m
  cases n
  simp_all

end NameMap

end PathTemplates
