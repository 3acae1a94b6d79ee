import PathTemplates.Glob.Basic
import PathTemplates.Proofs.Regex.Matching
import PathTemplates.Proofs.Text.Utf8

namespace PathTemplates

namespace Expr

variable {σ κ : Type} {holds : Option σ → Option σ → κ → Bool} {s : List σ} {e : Expr σ κ}
  {es : List (Expr σ κ)} {i j : Nat}

theorem matches_seqAll_cons : (seqAll (e :: es)).Matches holds s i j ↔
    ∃ k, e.Matches holds s i k ∧ (seqAll es).Matches holds s k j := by
  cases es with
  | nil =>
    constructor
    · exact fun h => ⟨j, h, rfl⟩
    · rintro ⟨k, h, rfl⟩
      exact h
  | cons e' es => rfl

/-- Any text, as far as there is any. -/
theorem matches_many_any_iff (hi : i ≤ s.length) :
    (many (symbol fun _ => true) : Expr σ κ).Matches holds s i j ↔ i ≤ j ∧ j ≤ s.length := by
  constructor
  · intro h
    have hwithin := h.within
    omega
  · rintro ⟨hij, hj⟩
    refine ⟨j - i, Nat.zero_le _, nofun, ?_⟩
    obtain ⟨n, rfl⟩ := Nat.exists_eq_add_of_le hij
    rw [Nat.add_sub_cancel_left]
    clear hij
    induction n generalizing i with
    | zero => rfl
    | succ n ih =>
      have hnext : i + 1 + n = i + (n + 1) := by omega
      refine ⟨i + 1, ⟨rfl, s[i], List.getElem?_eq_getElem (by omega), rfl⟩, ?_⟩
      rw [← hnext]
      exact ih (by omega) (by omega)

end Expr

namespace GlobItem

variable {s bs front : List UInt8} {xs ys items : List GlobItem} {t : Text} {i j : Nat}

/-- The items take the bytes between two places of a name. -/
def Takes (s : List UInt8) (items : List GlobItem) (i j : Nat) : Prop :=
  (exprAll items).Matches (fun _ _ k => nomatch k) s i j

theorem takes_cons {x : GlobItem} : Takes s (x :: xs) i j ↔
    ∃ k, x.expr.Matches (fun _ _ k => nomatch k) s i k ∧ Takes s xs k j :=
  Expr.matches_seqAll_cons

theorem takes_singleton {x : GlobItem} :
    Takes s [x] i j ↔ x.expr.Matches (fun _ _ k => nomatch k) s i j := Iff.rfl

theorem takes_append : Takes s (xs ++ ys) i j ↔ ∃ k, Takes s xs i k ∧ Takes s ys k j := by
  induction xs generalizing i with
  | nil =>
    constructor
    · exact fun h => ⟨i, rfl, h⟩
    · rintro ⟨k, rfl, h⟩
      exact h
  | cons x xs ih =>
    rw [List.cons_append, takes_cons]
    simp only [ih, takes_cons]
    tauto

theorem Takes.within (h : Takes s items i j) : i ≤ j ∧ j ≤ max i s.length := Expr.Matches.within h

theorem literals?_eq_some_iff : literals? items = some t ↔ items = t.map literal := by
  induction items generalizing t with
  | nil => cases t <;> simp [literals?]
  | cons x items ih =>
    cases x with
    | literal c =>
      cases t with
      | nil => simp [literals?]
      | cons d t => simp [literals?, ih, and_comm]
    | _ => cases t <;> simp [literals?]

theorem matches_byte_iff {b : UInt8} : (byte b).Matches (fun _ _ k => nomatch k) s i j ↔
    s[i]? = some b ∧ j = i + 1 := by
  simp only [byte, Expr.Matches, beq_iff_eq, Option.mem_def, exists_eq_right]
  exact and_comm

theorem matches_bytes_iff :
    (Expr.seqAll (bs.map byte)).Matches (fun _ _ k => nomatch k) s i j ↔
      bs <+: s.drop i ∧ j = i + bs.length := by
  induction bs generalizing i with
  | nil => exact ⟨fun h => ⟨List.nil_prefix, Eq.symm h⟩, fun h => h.2.symm⟩
  | cons b bs ih =>
    rw [List.map_cons, Expr.matches_seqAll_cons]
    simp only [matches_byte_iff, ih]
    constructor
    · rintro ⟨k, ⟨hb, rfl⟩, hbs, rfl⟩
      obtain ⟨hi, rfl⟩ := List.getElem?_eq_some_iff.1 hb
      rw [List.drop_eq_getElem_cons hi, List.length_cons]
      exact ⟨List.cons_prefix_cons.2 ⟨rfl, hbs⟩, by omega⟩
    · rintro ⟨hbs, rfl⟩
      obtain ⟨rest, hdrop, hbs⟩ := List.cons_prefix_iff.1 hbs
      have hget : s[i]? = some b := by
        rw [← List.head?_drop, hdrop]
        rfl
      refine ⟨i + 1, ⟨hget, rfl⟩, ?_, by rw [List.length_cons]; omega⟩
      rwa [← List.tail_drop, hdrop]

theorem takes_literals_iff :
    Takes s (t.map literal) i j ↔ t.utf8 <+: s.drop i ∧ j = i + t.utf8.length := by
  induction t generalizing i with
  | nil => exact ⟨fun h => ⟨List.nil_prefix, Eq.symm h⟩, fun h => h.2.symm⟩
  | cons c t ih =>
    have hutf8 : Text.utf8 (c :: t) = String.utf8EncodeChar c ++ Text.utf8 t := rfl
    rw [List.map_cons, takes_cons, hutf8]
    simp only [expr, matches_bytes_iff, ih, List.length_append]
    constructor
    · rintro ⟨k, ⟨⟨rest, hc⟩, rfl⟩, ht, rfl⟩
      rw [← List.drop_drop, ← hc, List.drop_left] at ht
      rw [← hc]
      exact ⟨(List.prefix_append_right_inj _).2 ht, by omega⟩
    · rintro ⟨⟨rest, hct⟩, rfl⟩
      refine ⟨_, ⟨⟨_, (List.append_assoc ..).symm.trans hct⟩, rfl⟩, ⟨rest, ?_⟩, by omega⟩
      rw [← List.drop_drop, ← hct, List.append_assoc, List.drop_left]

/-- Characters at the end of a glob stand at the end of the name. -/
theorem takes_append_literals_iff : Takes s (items ++ t.map literal) 0 s.length ↔
    ∃ front, s = front ++ t.utf8 ∧ Takes s items 0 front.length := by
  rw [takes_append]
  simp only [takes_literals_iff]
  constructor
  · rintro ⟨k, hfront, ht, hlength⟩
    have hdrop : t.utf8 = s.drop k := ht.eq_of_length (by rw [List.length_drop]; omega)
    refine ⟨s.take k, ?_, ?_⟩
    · rw [hdrop, List.take_append_drop]
    · rwa [List.length_take, Nat.min_eq_left (by omega)]
  · rintro ⟨front, rfl, hfront⟩
    refine ⟨front.length, hfront, ?_, List.length_append⟩
    simp only [List.drop_left, List.prefix_refl]

/-- Characters at the beginning of a glob stand at the beginning of the name. -/
theorem takes_literals_append_iff : Takes s (t.map literal ++ items) 0 s.length ↔
    t.utf8 <+: s ∧ Takes s items t.utf8.length s.length := by
  rw [takes_append]
  simp only [takes_literals_iff, List.drop_zero, Nat.zero_add]
  constructor
  · rintro ⟨k, ⟨ht, rfl⟩, h⟩
    exact ⟨ht, h⟩
  · exact fun ⟨ht, h⟩ => ⟨_, ⟨ht, rfl⟩, h⟩

theorem takes_anyBytes_iff (hi : i ≤ s.length) :
    Takes s [anyBytes] i j ↔ i ≤ j ∧ j ≤ s.length := Expr.matches_many_any_iff hi

theorem takes_descendants_iff : Takes s [descendants] i s.length ↔ s[i]? = some 47 := by
  rw [takes_singleton]
  simp only [expr, Expr.Matches, slash, matches_byte_iff]
  constructor
  · rintro ⟨k, ⟨hslash, rfl⟩, _⟩
    exact hslash
  · intro hslash
    obtain ⟨hi, _⟩ := List.getElem?_eq_some_iff.1 hslash
    exact ⟨i + 1, ⟨hslash, rfl⟩, (Expr.matches_many_any_iff hi).2 ⟨hi, le_rfl⟩⟩

/-- Folders in front are nothing, or they end in a slash. -/
theorem takes_leadingFolders_iff :
    Takes s [leadingFolders] 0 j ↔ j = 0 ∨ ∃ k, s[k]? = some 47 ∧ j = k + 1 := by
  rw [takes_singleton]
  simp only [expr, Expr.Matches, slash, matches_byte_iff]
  constructor
  · rintro (⟨n, _, hn, h⟩ | ⟨k, _, hslash, rfl⟩)
    · obtain rfl | rfl : n = 0 ∨ n = 1 := by
        have := hn 1 rfl
        omega
      · exact .inl (Eq.symm h)
      · exact .inr ⟨0, matches_byte_iff.1 (Rounds.one_iff.1 h)⟩
    · exact .inr ⟨k, hslash, rfl⟩
  · rintro (rfl | ⟨k, hslash, rfl⟩)
    · exact .inl ⟨0, le_rfl, fun m hm => Nat.zero_le _, rfl⟩
    · obtain ⟨hk, _⟩ := List.getElem?_eq_some_iff.1 hslash
      exact .inr ⟨k, (Expr.matches_many_any_iff (Nat.zero_le _)).2 ⟨Nat.zero_le _, hk.le⟩,
        hslash, rfl⟩

end GlobItem

namespace Glob

/-- A glob matches a name if its items take the whole of it. -/
theorem matchesName_iff {g : Glob} {name : Text} (h : g.items ≠ [.leadingFolders]) :
    g.matchesName name = true ↔ GlobItem.Takes name.utf8 g.items 0 name.utf8.length := by
  have hexpr : g.expr = GlobItem.exprAll g.items := by
    unfold expr
    split
    · next hitems => exact absurd hitems h
    · rfl
  rw [matchesName, Expr.matchesWhole_iff, hexpr]
  rfl

end Glob

end PathTemplates
