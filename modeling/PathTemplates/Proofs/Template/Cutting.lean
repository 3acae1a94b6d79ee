import PathTemplates.Proofs.Template.Reading

namespace PathTemplates

namespace Balanced

variable {p q r : Text}

theorem count_eq (h : Balanced p) : p.count '{' = p.count '}' := by
  induction h with
  | nil => rfl
  | @char c rest hopen hclose _ ih =>
    rw [List.count_cons_of_ne hopen, List.count_cons_of_ne hclose, ih]
  | @group inner rest _ _ ihinner ih =>
    simp only [List.cons_append, List.count_cons, List.count_append, ihinner, ih]
    simp
    omega

/-- No more braces are closed than have been opened. -/
theorem count_le_of_append (h : Balanced (q ++ r)) : q.count '}' ≤ q.count '{' := by
  generalize hp : q ++ r = p at h
  induction h generalizing q r with
  | nil =>
    rw [(List.append_eq_nil_iff.1 hp).1]
    exact Nat.le_refl _
  | @char c rest hopen hclose _ ih =>
    cases q with
    | nil => exact Nat.le_refl _
    | cons d q =>
      obtain ⟨rfl, hrest⟩ := List.cons_eq_cons.1 hp
      rw [List.count_cons_of_ne hopen, List.count_cons_of_ne hclose]
      exact ih hrest
  | @group inner rest hinner _ ihinner ih =>
    cases q with
    | nil => exact Nat.le_refl _
    | cons d q =>
      obtain ⟨rfl, hrest⟩ := List.cons_eq_cons.1 hp
      have hopened : List.count '{' ('{' :: q) = q.count '{' + 1 := List.count_cons_self
      have hclosed : List.count '}' ('{' :: q) = q.count '}' :=
        List.count_cons_of_ne (by decide)
      rw [hopened, hclosed]
      -- The cut is inside the group or behind it.
      obtain ⟨x, hx, _⟩ | ⟨x, rfl, hx⟩ := List.append_eq_append_iff.1 hrest
      · have hle := ihinner hx.symm
        omega
      · have hcount := hinner.count_eq
        rw [List.count_append, List.count_append]
        cases x with
        | nil => simp; omega
        | cons e x =>
          obtain ⟨rfl, hbehind⟩ := List.cons_eq_cons.1 hx
          have hle := ih hbehind.symm
          have hopen : List.count '{' ('}' :: x) = x.count '{' := List.count_cons_of_ne (by decide)
          have hclose : List.count '}' ('}' :: x) = x.count '}' + 1 := List.count_cons_self
          omega

/-- A brace that is closed in one text is not closed in another one. -/
theorem not_balanced_of_append (h : Balanced (p ++ q)) : ¬Balanced (q ++ '}' :: r) := by
  intro h'
  have hp := count_le_of_append h
  have htotal := h.count_eq
  rw [show q ++ '}' :: r = (q ++ ['}']) ++ r by simp] at h'
  have hq := count_le_of_append h'
  simp only [List.count_append, List.count_singleton] at htotal hq
  simp at hq
  omega

theorem of_not_mem (hopen : '{' ∉ p) (hclose : '}' ∉ p) : Balanced p := by
  induction p with
  | nil => exact .nil
  | cons c p ih =>
    rw [List.mem_cons, not_or] at hopen hclose
    exact .char (Ne.symm hopen.1) (Ne.symm hclose.1) (ih hopen.2 hclose.2)

end Balanced

namespace Unclosed

variable {depth : Nat} {p q : Text}

/-- The braces that are left open can be counted as long as no more are closed than are open. -/
theorem exists_append (hp : Unclosed depth p)
    (h : ∀ w, w <+: q → w.count '}' ≤ w.count '{' + depth) :
    ∃ left, Unclosed left (p ++ q) ∧ left + q.count '}' = depth + q.count '{' := by
  induction q generalizing p depth with
  | nil => exact ⟨depth, by rwa [List.append_nil], rfl⟩
  | cons c q ih =>
    have hrest : ∀ w, w <+: q → (c :: w).count '}' ≤ (c :: w).count '{' + depth :=
      fun w hw => h _ ((List.prefix_cons_inj c).2 hw)
    rw [show p ++ c :: q = (p ++ [c]) ++ q by simp]
    by_cases hopen : c = '{'
    · subst hopen
      have hne : '{' ≠ '}' := by decide
      simp only [List.count_cons_self, List.count_cons_of_ne hne] at hrest ⊢
      obtain ⟨left, hleft, hcount⟩ := ih hp.opened fun w hw => by
        have := hrest w hw
        omega
      exact ⟨left, hleft, by omega⟩
    by_cases hclose : c = '}'
    · subst hclose
      have hne : '}' ≠ '{' := by decide
      simp only [List.count_cons_self, List.count_cons_of_ne hne] at hrest ⊢
      cases depth with
      | zero => exact absurd (hrest [] List.nil_prefix) (by decide)
      | succ depth =>
        obtain ⟨left, hleft, hcount⟩ := ih hp.closed fun w hw => by
          have := hrest w hw
          omega
        exact ⟨left, hleft, by omega⟩
    · simp only [List.count_cons_of_ne hopen, List.count_cons_of_ne hclose] at hrest ⊢
      exact ih (hp.append (.single hopen hclose)) hrest

end Unclosed

/-- The braces of a text balance if, read from the start, never more are closed than have been
opened, and in the end as many. -/
theorem balanced_iff_count {p : Text} : Balanced p ↔
    (∀ w, w <+: p → w.count '}' ≤ w.count '{') ∧ p.count '{' = p.count '}' := by
  constructor
  · intro h
    refine ⟨?_, h.count_eq⟩
    rintro w ⟨rest, rfl⟩
    exact Balanced.count_le_of_append h
  · intro ⟨hle, htotal⟩
    obtain ⟨left, hleft, hcount⟩ := (Unclosed.zero .nil).exists_append hle
    obtain rfl : left = 0 := by omega
    exact hleft.balanced

/-- Between the braces of an argument the braces balance. -/
theorem Placeholder.Allowed.exists_balanced {p : Placeholder} (h : p.Allowed) :
    ∃ body, p.text = '{' :: body ++ ['}'] ∧ Balanced body := by
  have hname : Balanced p.name := by
    refine .of_not_mem (fun hmem => ?_) fun hmem => ?_
    · cases h.name _ hmem
    · cases h.name _ hmem
  cases hpattern : p.pattern with
  | none => exact ⟨p.name, by rw [text, hpattern], hname⟩
  | some t =>
    refine ⟨p.name ++ ':' :: t, by simp [text, hpattern], hname.append ?_⟩
    exact .char (by decide) (by decide) (h.pattern t hpattern)

namespace Template

variable {p : Placeholder} {gs hs : List Segment} {w : Text}

theorem balanced_text (h : ∀ g ∈ gs, g.Allowed) : Balanced (text ⟨gs⟩) := by
  induction gs with
  | nil => exact .nil
  | cons g gs ih =>
    obtain ⟨hg, hgs⟩ := List.forall_mem_cons.1 h
    rw [text_cons]
    refine Balanced.append ?_ (ih hgs)
    cases g with
    | literal t => exact .of_not_mem hg.1 hg.2
    | argument p =>
      obtain ⟨body, hbody, hbalanced⟩ := Placeholder.Allowed.exists_balanced hg
      rw [Segment.render, Option.getD_none, hbody]
      exact .group hbalanced .nil

/-- An argument does not reach into a text in which braces balance. -/
theorem append_eq_text_argument {x : Text} (hp : p.Allowed) (hcut : p.text = w ++ x)
    (hx : Balanced (x ++ text ⟨gs⟩)) : w = [] ∨ x = [] := by
  obtain ⟨body, hbody, hbalanced⟩ := hp.exists_balanced
  rw [hbody] at hcut
  cases w with
  | nil => exact .inl rfl
  | cons c w =>
    rw [List.cons_append, List.cons_append] at hcut
    obtain ⟨_, hbehind⟩ := List.cons_eq_cons.1 hcut
    obtain rfl | ⟨x, e, rfl⟩ := List.eq_nil_or_concat x
    · exact .inr rfl
    -- The last brace of the argument would be closed by the text behind the border.
    · rw [List.concat_eq_append, ← List.append_assoc] at hbehind
      obtain ⟨rfl, hlast⟩ := List.append_inj' hbehind rfl
      cases hlast
      rw [List.concat_eq_append, List.append_assoc] at hx
      exact absurd hx hbalanced.not_balanced_of_append

theorem exists_spells_of_append (hgs : ∀ g ∈ gs, g.Allowed) (hhs : ∀ g ∈ hs, g.Allowed)
    (h : text ⟨gs⟩ = w ++ text ⟨hs⟩) : ∃ us, Spells ⟨us⟩ w := by
  induction gs generalizing w with
  | nil =>
    obtain ⟨rfl, _⟩ := List.append_eq_nil_iff.1 h.symm
    exact ⟨[], nofun, rfl⟩
  | cons g gs ih =>
    obtain ⟨hg, hgs'⟩ := List.forall_mem_cons.1 hgs
    rw [text_cons] at h
    obtain ⟨x, rfl, hrest⟩ | ⟨x, hcut, hrest⟩ := List.append_eq_append_iff.1 h
    · obtain ⟨us, hus⟩ := ih hgs' hrest
      exact ⟨g :: us, List.forall_mem_cons.2 ⟨hg, hus.allowed⟩,
        congrArg (g.render (fun _ => none) ++ ·) hus.text_eq⟩
    · cases g with
      | literal t =>
        have hcut : t = w ++ x := hcut
        have hsub : ∀ c ∈ w, c ∈ t := fun c hc => hcut ▸ List.mem_append_left x hc
        refine ⟨[.literal w], List.forall_mem_singleton.2 ⟨?_, ?_⟩, List.append_nil w⟩
        · exact fun hmem => hg.1 (hsub _ hmem)
        · exact fun hmem => hg.2 (hsub _ hmem)
      | argument p =>
        have hx : Balanced (x ++ text ⟨gs⟩) := hrest ▸ balanced_text hhs
        obtain rfl | rfl := append_eq_text_argument hg hcut hx
        · exact ⟨[], nofun, rfl⟩
        · rw [List.append_nil] at hcut
          exact ⟨[.argument p], List.forall_mem_singleton.2 hg, (List.append_nil _).trans hcut⟩

end Template

end PathTemplates
