import Mathlib.Data.List.DropRight
import PathTemplates.Text

namespace PathTemplates

namespace Text

variable {blank : Char → Bool} {t u left right : Text}

/-- There is no blank at either end. -/
structure Trimmed (blank : Char → Bool) (t : Text) : Prop where
  head : ∀ c rest, t = c :: rest → blank c = false
  last : ∀ front c, t = front ++ [c] → blank c = false

theorem trim_eq_rdropWhile (blank : Char → Bool) (t : Text) :
    t.trim blank = (t.dropWhile blank).rdropWhile blank := rfl

theorem trimmed_trim (blank : Char → Bool) (t : Text) : Trimmed blank (t.trim blank) where
  head c rest h := by
    have hprefix : c :: rest <+: t.dropWhile blank := h ▸ List.rdropWhile_prefix ..
    obtain ⟨more, hmore⟩ := hprefix
    have hhead := List.head?_dropWhile_not blank t
    rw [← hmore] at hhead
    exact hhead
  last front c h := by
    have hne : (t.dropWhile blank).rdropWhile blank ≠ [] := by
      rw [← trim_eq_rdropWhile, h]
      exact List.append_ne_nil_of_right_ne_nil front (List.cons_ne_nil c [])
    have hlast := List.rdropWhile_last_not blank _ hne
    simp only [← trim_eq_rdropWhile, h, List.getLast_append_singleton] at hlast
    exact Bool.eq_false_iff.2 hlast

/-- What trimming takes away are blanks. -/
theorem exists_append_trim (blank : Char → Bool) (t : Text) : ∃ left right,
    t = left ++ t.trim blank ++ right ∧ (∀ c ∈ left, blank c = true) ∧
      ∀ c ∈ right, blank c = true := by
  refine ⟨t.takeWhile blank, (t.dropWhile blank).rtakeWhile blank, ?_,
    fun c => List.mem_takeWhile_imp, fun c => List.mem_rtakeWhile_imp⟩
  rw [trim_eq_rdropWhile, List.append_assoc, List.rdropWhile_append_rtakeWhile,
    List.takeWhile_append_dropWhile]

theorem dropWhile_append_of_head (hleft : ∀ c ∈ left, blank c = true)
    (hhead : ∀ c rest, t = c :: rest → blank c = false) : (left ++ t).dropWhile blank = t := by
  rw [List.dropWhile_append_of_pos hleft]
  cases t with
  | nil => rfl
  | cons c t => exact List.dropWhile_cons_of_neg (by simp [hhead c t rfl])

theorem trim_append (hleft : ∀ c ∈ left, blank c = true) (hright : ∀ c ∈ right, blank c = true)
    (ht : Trimmed blank t) : (left ++ t ++ right).trim blank = t := by
  cases t with
  | nil =>
    have hall : ∀ c ∈ left ++ right, blank c = true := List.forall_mem_append.2 ⟨hleft, hright⟩
    rw [List.append_nil, trim, List.dropWhile_eq_nil_iff.2 hall]
    rfl
  | cons c t =>
    have hfront : (left ++ (c :: t ++ right)).dropWhile blank = c :: t ++ right :=
      dropWhile_append_of_head hleft fun d rest h => ht.head d t (by cases h; rfl)
    have hback : (right.reverse ++ (c :: t).reverse).dropWhile blank = (c :: t).reverse := by
      refine dropWhile_append_of_head (fun d hd => hright d (List.mem_reverse.1 hd)) ?_
      exact fun d rest h => ht.last rest.reverse d (by simpa using congrArg List.reverse h)
    rw [List.append_assoc, trim, hfront, List.reverse_append, hback, List.reverse_reverse]

theorem trim_eq_iff : t.trim blank = u ↔ Trimmed blank u ∧ ∃ left right,
    t = left ++ u ++ right ∧ (∀ c ∈ left, blank c = true) ∧ ∀ c ∈ right, blank c = true := by
  constructor
  · rintro rfl
    exact ⟨trimmed_trim blank t, exists_append_trim blank t⟩
  · rintro ⟨hu, left, right, rfl, hleft, hright⟩
    exact trim_append hleft hright hu

theorem trim_eq_nil_iff : t.trim blank = [] ↔ ∀ c ∈ t, blank c = true := by
  rw [trim_eq_rdropWhile, List.rdropWhile_eq_nil_iff]
  constructor
  · intro h c hc
    rw [← List.takeWhile_append_dropWhile (p := blank) (l := t)] at hc
    exact (List.mem_append.1 hc).elim List.mem_takeWhile_imp (h c)
  · exact fun h c hc => h c ((List.dropWhile_sublist blank).subset hc)

end Text

end PathTemplates
