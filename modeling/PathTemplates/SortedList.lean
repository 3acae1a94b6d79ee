namespace PathTemplates

namespace SortedList

variable {α : Type} [LT α] [DecidableLT α] [DecidableEq α]

/-- Puts `x` before the first greater member, unless it is there already. -/
def insert (x : α) : List α → List α
  | [] => [x]
  | y :: ys => if x = y then y :: ys else if x < y then x :: y :: ys else y :: insert x ys

def ofList : List α → List α
  | [] => []
  | x :: xs => insert x (ofList xs)

theorem mem_insert {x y : α} {xs : List α} : y ∈ insert x xs ↔ y = x ∨ y ∈ xs := by
  induction xs with
  | nil => simp [insert]
  | cons z zs ih =>
    unfold insert
    split
    · simp_all
    · split
      · simp
      · simp only [List.mem_cons, ih]
        exact ⟨by rintro (h | h | h) <;> simp [h], by rintro (h | h | h) <;> simp [h]⟩

theorem mem_ofList {y : α} {xs : List α} : y ∈ ofList xs ↔ y ∈ xs := by
  induction xs with
  | nil => rfl
  | cons x xs ih => simp [ofList, mem_insert, ih]

theorem mem_foldr_insert {y : α} {xs ys : List α} : y ∈ xs.foldr insert ys ↔ y ∈ xs ∨ y ∈ ys := by
  induction xs with
  | nil => simp
  | cons x xs ih => rw [List.foldr_cons, mem_insert, ih, List.mem_cons, or_assoc]

/-- An insertion in front of all members is a plain one. -/
theorem insert_eq_cons [Std.Irrefl (α := α) (· < ·)] {x : α} {xs : List α}
    (h : ∀ y ∈ xs, x < y) : insert x xs = x :: xs := by
  cases xs with
  | nil => rfl
  | cons y ys =>
    have hxy := h y (List.mem_cons_self ..)
    have hne : x ≠ y := fun e => Std.Irrefl.irrefl (r := (· < ·)) y (e ▸ hxy)
    rw [insert, if_neg hne, if_pos hxy]

theorem ofList_eq_self [Std.Irrefl (α := α) (· < ·)] {xs : List α}
    (h : xs.Pairwise (· < ·)) : ofList xs = xs := by
  induction xs with
  | nil => rfl
  | cons x xs ih =>
    obtain ⟨hx, hxs⟩ := List.pairwise_cons.1 h
    rw [ofList, ih hxs, insert_eq_cons hx]

variable [Trans (α := α) (· < ·) (· < ·) (· < ·)] [Std.Trichotomous (α := α) (· < ·)]

theorem ascending_insert {x : α} {xs : List α} (h : xs.Pairwise (· < ·)) :
    (insert x xs).Pairwise (· < ·) := by
  induction xs with
  | nil => simp [insert]
  | cons y ys ih =>
    obtain ⟨hy, hys⟩ := List.pairwise_cons.1 h
    unfold insert
    split
    · exact h
    · split
      · next hlt =>
        refine List.pairwise_cons.2 ⟨fun z hz => ?_, h⟩
        rcases List.mem_cons.1 hz with rfl | hz
        · exact hlt
        · exact Trans.trans hlt (hy z hz)
      · next hne hlt =>
        refine List.pairwise_cons.2 ⟨fun z hz => ?_, ih hys⟩
        rcases mem_insert.1 hz with rfl | hz
        · exact Decidable.by_contra fun hgt =>
            hne (Std.Trichotomous.trichotomous (r := (· < ·)) z y hlt hgt)
        · exact hy z hz

theorem ascending_foldr_insert {xs ys : List α} (h : ys.Pairwise (· < ·)) :
    (xs.foldr insert ys).Pairwise (· < ·) := by
  induction xs with
  | nil => exact h
  | cons x xs ih => exact ascending_insert ih

theorem ascending_ofList {xs : List α} : (ofList xs).Pairwise (· < ·) := by
  induction xs with
  | nil => exact .nil
  | cons x xs ih => exact ascending_insert ih

omit [DecidableLT α] [DecidableEq α] [Std.Trichotomous (α := α) (· < ·)] in
/-- A list in order is known by its members. -/
theorem eq_of_mem_iff [Std.Irrefl (α := α) (· < ·)] {xs ys : List α}
    (hx : xs.Pairwise (· < ·)) (hy : ys.Pairwise (· < ·)) (h : ∀ x, x ∈ xs ↔ x ∈ ys) :
    xs = ys := by
  have hirrefl (x : α) : ¬x < x := Std.Irrefl.irrefl (r := (· < ·)) x
  have hnodup {zs : List α} (hz : zs.Pairwise (· < ·)) : zs.Nodup := by
    refine hz.imp fun {a b} (hlt : a < b) (e : a = b) => hirrefl b ?_
    rwa [e] at hlt
  refine List.Perm.eq_of_pairwise (fun a b _ _ hab hba => ?_) hx hy
    ((List.perm_ext_iff_of_nodup (hnodup hx) (hnodup hy)).2 h)
  exact absurd (Trans.trans hab hba) (hirrefl a)

end SortedList

end PathTemplates
