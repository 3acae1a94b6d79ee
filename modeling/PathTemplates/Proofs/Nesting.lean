import Mathlib.Order.Lattice
import PathTemplates.Nesting

namespace PathTemplates

namespace Nesting

variable {d d' : Nat} {ds : List Nat}

theorem foldl_max (a : Nat) (ds : List Nat) : ds.foldl max a = max a (ds.foldl max 0) := by
  induction ds generalizing a with
  | nil => simp
  | cons d ds ih => rw [List.foldl_cons, List.foldl_cons, ih, ih (max 0 d)]; omega

theorem sideBySide_cons (h : ds ≠ []) : sideBySide (d :: ds) = max d (ds.foldl max 0) + 1 := by
  cases ds with
  | nil => exact absurd rfl h
  | cons e es =>
    show (d :: e :: es).foldl max 0 + 1 = _
    rw [List.foldl_cons, foldl_max, Nat.zero_max]

theorem foldl_max_le {m : Nat} (h : ∀ d ∈ ds, d ≤ m) : ds.foldl max 0 ≤ m := by
  suffices ∀ d ≤ m, ds.foldl max d ≤ m from this 0 (Nat.zero_le m)
  induction ds with
  | nil => exact fun d hd => hd
  | cons e ds ih =>
    obtain ⟨he, hds⟩ := List.forall_mem_cons.1 h
    exact fun d hd => ih hds _ (max_le hd he)

theorem sideBySide_le {m : Nat} (h : ∀ d ∈ ds, d ≤ m) : sideBySide ds ≤ m + 1 := by
  rcases ds with _ | ⟨d, _ | ⟨e, ds⟩⟩
  · exact Nat.zero_le _
  · exact (h d (List.mem_singleton_self d)).trans (Nat.le_succ m)
  · exact Nat.succ_le_succ (foldl_max_le h)

theorem le_sideBySide_cons (d : Nat) (ds : List Nat) : d ≤ sideBySide (d :: ds) := by
  rcases eq_or_ne ds [] with rfl | h
  · exact le_rfl
  · rw [sideBySide_cons h]
    omega

theorem sideBySide_le_cons (d : Nat) (ds : List Nat) : sideBySide ds ≤ sideBySide (d :: ds) := by
  cases ds with
  | nil => exact Nat.zero_le _
  | cons e es =>
    rw [sideBySide_cons (List.cons_ne_nil e es)]
    rcases eq_or_ne es [] with rfl | h
    · show e ≤ max d (max 0 e) + 1
      omega
    · rw [sideBySide_cons h, List.foldl_cons, foldl_max (max 0 e)]
      omega

theorem sideBySide_cons_mono (h : d ≤ d') (ds : List Nat) :
    sideBySide (d :: ds) ≤ sideBySide (d' :: ds) := by
  rcases eq_or_ne ds [] with rfl | hds
  · exact h
  · rw [sideBySide_cons hds, sideBySide_cons hds]
    omega

end Nesting

end PathTemplates
