import PathTemplates.Text

namespace PathTemplates

namespace Text

variable {α β : Type} {isSeparator : α → Bool}

theorem splitBy_append_separator {x : α} (h : isSeparator x = true) (xs ys : List α) :
    splitBy isSeparator (xs ++ x :: ys) = splitBy isSeparator xs ++ splitBy isSeparator ys := by
  induction xs with
  | nil => simp [splitBy, h]
  | cons y xs ih =>
    cases hy : isSeparator y with
    | true => simp [splitBy, hy, ih]
    | false =>
      obtain ⟨p, ps, hp⟩ := List.exists_cons_of_ne_nil (splitBy_ne_nil isSeparator xs)
      simp [splitBy, hy, ih, hp]

theorem splitBy_append {xs : List α} (h : ∀ x ∈ xs, isSeparator x = false) {ys p : List α}
    {ps : List (List α)} (hys : splitBy isSeparator ys = p :: ps) :
    splitBy isSeparator (xs ++ ys) = (xs ++ p) :: ps := by
  induction xs with
  | nil => exact hys
  | cons x xs ih =>
    obtain ⟨hx, hxs⟩ := List.forall_mem_cons.1 h
    simp [splitBy, hx, ih hxs]

theorem splitBy_replicate_append {x : α} (h : isSeparator x = true) (n : Nat) (xs : List α) :
    splitBy isSeparator (List.replicate n x ++ xs) =
      List.replicate n [] ++ splitBy isSeparator xs := by
  induction n with
  | zero => rfl
  | succ n ih => simp [List.replicate_succ, splitBy, h, ih]

theorem splitBy_eq_singleton {xs : List α} (h : ∀ x ∈ xs, isSeparator x = false) :
    splitBy isSeparator xs = [xs] := by
  have hnil : splitBy isSeparator [] = [[]] := rfl
  simpa using splitBy_append h hnil

/-- Separators stay what they are, and nothing else becomes one. -/
theorem splitBy_flatMap {isSeparator' : β → Bool} {f : α → List β} {xs : List α}
    (hseparator : ∀ x ∈ xs, isSeparator x = true → ∃ y, f x = [y] ∧ isSeparator' y = true)
    (hother : ∀ x ∈ xs, isSeparator x = false → ∀ y ∈ f x, isSeparator' y = false) :
    splitBy isSeparator' (xs.flatMap f) = (splitBy isSeparator xs).map (List.flatMap f) := by
  induction xs with
  | nil => rfl
  | cons x xs ih =>
    obtain ⟨hsx, hsxs⟩ := List.forall_mem_cons.1 hseparator
    obtain ⟨hox, hoxs⟩ := List.forall_mem_cons.1 hother
    have ih := ih hsxs hoxs
    rw [List.flatMap_cons]
    cases hx : isSeparator x with
    | true =>
      obtain ⟨y, hy, hsep⟩ := hsx hx
      simp [hy, splitBy, hsep, hx, ih]
    | false =>
      obtain ⟨p, ps, hp⟩ := List.exists_cons_of_ne_nil (splitBy_ne_nil isSeparator xs)
      rw [hp, List.map_cons] at ih
      simp [splitBy_append (hox hx) ih, splitBy, hx, hp]

/-- A text that holds a character is cut at its last place. -/
theorem exists_cut_last {x : α} {l : List α} (h : x ∈ l) : ∃ a r, l = a ++ x :: r ∧ x ∉ r := by
  obtain ⟨r, a, hl, hr⟩ := List.eq_append_cons_of_mem (List.mem_reverse.2 h)
  refine ⟨a.reverse, r.reverse, ?_, by simpa using hr⟩
  rw [← List.reverse_reverse l, hl, List.reverse_append, List.reverse_cons, List.append_assoc]
  rfl

theorem join_cons_cons (sep p q : Text) (ps : List Text) :
    join sep (p :: q :: ps) = p ++ sep ++ join sep (q :: ps) := rfl

theorem join_append (sep : Text) {ps qs : List Text} (hp : ps ≠ []) (hq : qs ≠ []) :
    join sep (ps ++ qs) = join sep ps ++ sep ++ join sep qs := by
  induction ps with
  | nil => exact absurd rfl hp
  | cons p ps ih =>
    cases ps with
    | nil =>
      obtain ⟨q, qs, rfl⟩ := List.exists_cons_of_ne_nil hq
      rfl
    | cons r ps =>
      rw [List.cons_append, List.cons_append, join_cons_cons, ← List.cons_append,
        ih (List.cons_ne_nil _ _), join_cons_cons]
      simp only [List.append_assoc]

theorem join_append_singleton (sep : Text) {ps : List Text} (h : ps ≠ []) (t : Text) :
    join sep (ps ++ [t]) = join sep ps ++ sep ++ t :=
  join_append sep h (List.cons_ne_nil t [])

theorem join_cons_replicate (sep : Char) (t : Text) (n : Nat) :
    join [sep] (t :: List.replicate n []) = t ++ List.replicate n sep := by
  induction n generalizing t with
  | zero => exact (List.append_nil t).symm
  | succ n ih => simp [List.replicate_succ, join_cons_cons, ih]

/-- Joining the pieces between separators, with what stands in for their members. -/
theorem join_map_splitBy {sep : Text} {f : α → Text} {xs : List α}
    (h : ∀ x ∈ xs, isSeparator x = true → f x = sep) :
    join sep ((splitBy isSeparator xs).map (List.flatMap f)) = xs.flatMap f := by
  induction xs with
  | nil => rfl
  | cons x xs ih =>
    obtain ⟨hx, hxs⟩ := List.forall_mem_cons.1 h
    have ih := ih hxs
    obtain ⟨p, ps, hp⟩ := List.exists_cons_of_ne_nil (splitBy_ne_nil isSeparator xs)
    rw [hp] at ih
    cases hsep : isSeparator x with
    | true =>
      simp only [splitBy, hsep, if_true, hp, List.map_cons, join_cons_cons, List.flatMap_nil,
        List.nil_append, List.flatMap_cons, hx hsep]
      rw [← ih, List.map_cons]
    | false =>
      cases ps with
      | nil => simpa [splitBy, hsep, hp, join] using ih
      | cons q ps => simpa [splitBy, hsep, hp, join_cons_cons] using ih

theorem split_append_separator (sep : Char) (t u : Text) :
    split sep (t ++ sep :: u) = split sep t ++ split sep u :=
  splitBy_append_separator (by simp) t u

theorem split_eq_singleton {sep : Char} {t : Text} (h : sep ∉ t) : split sep t = [t] :=
  splitBy_eq_singleton fun _ hc => decide_eq_false fun e => h (e ▸ hc)

theorem split_join {sep : Char} {ps : List Text} (hne : ps ≠ []) (h : ∀ p ∈ ps, sep ∉ p) :
    split sep (join [sep] ps) = ps := by
  induction ps with
  | nil => exact absurd rfl hne
  | cons p ps ih =>
    obtain ⟨hp, hps⟩ := List.forall_mem_cons.1 h
    cases ps with
    | nil => exact split_eq_singleton hp
    | cons q ps =>
      rw [join_cons_cons, List.append_assoc, List.singleton_append, split_append_separator,
        split_eq_singleton hp, ih (List.cons_ne_nil _ _) hps]
      rfl

/-- The text is made of the pieces, with a separator between neighbours and nowhere else. -/
structure Separated (sep : Char) (ps : List Text) (t : Text) : Prop where
  ne_nil : ps ≠ []
  free : ∀ p ∈ ps, sep ∉ p
  joined : t = join [sep] ps

theorem separated_iff {sep : Char} {ps : List Text} {t : Text} :
    Separated sep ps t ↔ split sep t = ps := by
  constructor
  · rintro ⟨hne, hfree, rfl⟩
    exact split_join hne hfree
  · rintro rfl
    exact ⟨splitBy_ne_nil _ t, fun _ => not_mem_of_mem_split, (join_split sep t).symm⟩

theorem join_inj {sep : Char} {ps qs : List Text} (hp : ps ≠ []) (hq : qs ≠ [])
    (hps : ∀ p ∈ ps, sep ∉ p) (hqs : ∀ q ∈ qs, sep ∉ q) (h : join [sep] ps = join [sep] qs) :
    ps = qs := by
  rw [← split_join hp hps, h, split_join hq hqs]

theorem mem_join {sep : Text} {c : Char} {ps : List Text} (hc : c ∉ sep) :
    c ∈ join sep ps ↔ ∃ p ∈ ps, c ∈ p := by
  induction ps with
  | nil => simp [join]
  | cons p ps ih =>
    cases ps with
    | nil => simp [join]
    | cons q ps => simp [join_cons_cons, ih, hc]

theorem cut_eq_none {sep : Char} {t : Text} (h : sep ∉ t) : cut sep t = none := by
  induction t with
  | nil => rfl
  | cons c t ih =>
    simp only [List.mem_cons, not_or] at h
    rw [cut, if_neg (Ne.symm h.1), ih h.2]
    rfl

theorem cut_append {sep : Char} {t : Text} (h : sep ∉ t) (u : Text) :
    cut sep (t ++ sep :: u) = some (t, u) := by
  induction t with
  | nil => simp [cut]
  | cons c t ih =>
    simp only [List.mem_cons, not_or] at h
    rw [List.cons_append, cut, if_neg (Ne.symm h.1), ih h.2]
    rfl

theorem cut_eq_takeWhile (sep : Char) (t : Text) :
    cut sep t = match t.dropWhile fun c => c ≠ sep with
      | [] => none
      | _ :: rest => some (t.takeWhile fun c => c ≠ sep, rest) := by
  induction t with
  | nil => rfl
  | cons c t ih =>
    by_cases hc : c = sep
    · simp [cut, hc]
    · rw [cut, if_neg hc, ih, List.dropWhile_cons_of_pos (by simpa using hc),
        List.takeWhile_cons_of_pos (by simpa using hc)]
      cases t.dropWhile fun c => c ≠ sep <;> rfl

theorem cut_eq_some_iff {sep : Char} {t before after : Text} :
    cut sep t = some (before, after) ↔ sep ∉ before ∧ t = before ++ sep :: after := by
  constructor
  · intro h
    induction t generalizing before with
    | nil => cases h
    | cons c t ih =>
      unfold cut at h
      split at h
      · next hc =>
        cases h
        exact ⟨List.not_mem_nil, by rw [hc]; rfl⟩
      · next hc =>
        obtain ⟨⟨b, a⟩, hcut, e⟩ := Option.map_eq_some_iff.1 h
        cases e
        obtain ⟨hfree, rfl⟩ := ih hcut
        exact ⟨fun hmem => (List.mem_cons.1 hmem).elim (Ne.symm hc) hfree, rfl⟩
  · rintro ⟨hfree, rfl⟩
    exact cut_append hfree after

theorem cut_suffix {sep : Char} {t before after : Text} (h : cut sep t = some (before, after)) :
    after <:+ t := by
  obtain ⟨-, rfl⟩ := cut_eq_some_iff.1 h
  exact (List.suffix_cons sep after).trans (List.suffix_append before _)

/-- A character behind the text that is no separator stays behind it. -/
theorem cut_concat {sep c : Char} (hc : c ≠ sep) (t : Text) :
    cut sep (t ++ [c]) = (cut sep t).map fun p => (p.1, p.2 ++ [c]) := by
  induction t with
  | nil => simp [cut, hc]
  | cons d t ih =>
    rw [List.cons_append, cut, cut, ih]
    split
    · rfl
    · rw [Option.map_map, Option.map_map]
      rfl

theorem utf8Length_append (t u : Text) : (t ++ u).utf8Length = t.utf8Length + u.utf8Length := by
  simp [utf8Length, utf8]

theorem utf8Length_replicate (n : Nat) (c : Char) :
    Text.utf8Length (List.replicate n c) = n * (String.utf8EncodeChar c).length := by
  simp [utf8Length, utf8, List.flatMap_replicate]

end Text

end PathTemplates
