import Mathlib.Data.List.Nodup
import PathTemplates.Proofs.Template.RoundTrip

namespace PathTemplates

namespace Template

variable {t : Template} {gs : List Segment} {name n : Text} {pattern : Option Text}

/-- The text that constrains an argument, if there is one. -/
def constraint? (t : Template) (name : Text) : Option Text :=
  (t.placeholder? name).bind Placeholder.constraint

/-- Names and patterns of the arguments tell what they are constrained by. -/
theorem constraint?_eq (t : Template) (name : Text) : t.constraint? name =
    (t.arguments.find? fun a => a.1 = name).bind fun a => a.2.filter fun text => text ≠ [] := by
  rw [constraint?, placeholder?, arguments, List.find?_map, Option.bind_map]
  rfl

/-- What constrains an argument stays the same if others are left out. -/
theorem constraint?_of_filter {s : Template} (kept : Text → Bool)
    (h : t.arguments = s.arguments.filter fun a => kept a.1) (hn : kept n = true) :
    t.constraint? n = s.constraint? n := by
  rw [constraint?_eq, constraint?_eq, h, List.find?_filter]
  refine congrArg (Option.bind · _) (congrArg (List.find? · _) (funext fun a => ?_))
  by_cases ha : a.1 = n <;> simp [ha, hn]

theorem placeholder?_eq_none_iff : t.placeholder? name = none ↔ t.mentions name = false := by
  simp [placeholder?, mentions, names]

theorem placeholder?_of_mem {p : Placeholder} (h : t.names.Nodup) (hp : p ∈ t.placeholders) :
    t.placeholder? p.name = some p := by
  obtain ⟨q, hq⟩ : ∃ q, t.placeholder? p.name = some q := by
    rw [← Option.isSome_iff_exists, placeholder?, List.find?_isSome]
    exact ⟨p, hp, by simp⟩
  have hname : q.name = p.name := by simpa using List.find?_some hq
  rw [hq, List.inj_on_of_nodup_map h (List.mem_of_find?_eq_some hq) hp hname]

theorem isChain_apart_iff : gs.IsChain Segment.Apart ↔
    (gs.map Segment.IsLiteral).IsChain fun a b => ¬(a ∧ b) :=
  (List.isChain_map (R := fun a b : Prop => ¬(a ∧ b)) Segment.IsLiteral).symm

theorem map_isLiteral_setPatternIn (name : Text) (pattern : Option Text) (gs : List Segment) :
    (setPatternIn name pattern gs).map Segment.IsLiteral = gs.map Segment.IsLiteral := by
  induction gs with
  | nil => rfl
  | cons g gs ih =>
    cases g with
    | literal t => exact congrArg (True :: ·) ih
    | argument p =>
      rw [setPatternIn]
      split
      · rfl
      · exact congrArg (False :: ·) ih

theorem isChain_apart_setPattern (h : t.segments.IsChain Segment.Apart) (name : Text)
    (pattern : Option Text) : (t.setPattern name pattern).segments.IsChain Segment.Apart := by
  rw [isChain_apart_iff] at h ⊢
  exact (map_isLiteral_setPatternIn name pattern t.segments).symm ▸ h

theorem map_isLiteral_shift (k : Nat) (gs : List Segment) :
    (gs.map (Segment.shift k)).map Segment.IsLiteral = gs.map Segment.IsLiteral := by
  rw [List.map_map]
  refine List.map_congr_left fun g _ => ?_
  cases g <;> rfl

theorem literal_mem_setPatternIn {text : Text} :
    .literal text ∈ setPatternIn name pattern gs ↔ .literal text ∈ gs := by
  induction gs with
  | nil => rfl
  | cons g gs ih =>
    cases g with
    | literal t => rw [setPatternIn, List.mem_cons, List.mem_cons, ih]
    | argument p =>
      rw [setPatternIn]
      split
      · simp
      · simpa using ih

theorem literal_mem_map_shift {text : Text} {k : Nat} :
    .literal text ∈ gs.map (Segment.shift k) ↔ .literal text ∈ gs := by
  rw [List.mem_map]
  constructor
  · intro ⟨g, hg, h⟩
    cases g with
    | literal t => exact h ▸ hg
    | argument p => cases h
  · intro h
    exact ⟨_, h, rfl⟩

/-- The argument that gets a new pattern keeps its name and place, the others stay as they are. -/
theorem placeholder?_setPattern (t : Template) (name : Text) (pattern : Option Text) (n : Text) :
    (t.setPattern name pattern).placeholder? n =
      (t.placeholder? n).map fun p => if p.name = name then { p with pattern } else p := by
  obtain ⟨gs⟩ := t
  rw [setPattern, placeholder?, placeholder?, placeholders, placeholders]
  induction gs with
  | nil => rfl
  | cons g gs ih =>
    cases g with
    | literal t => exact ih
    | argument p =>
      by_cases hp : p.name = name
      · subst hp
        rw [setPatternIn, if_pos rfl, Segment.filterMap_placeholder?_argument,
          Segment.filterMap_placeholder?_argument, List.find?_cons, List.find?_cons]
        by_cases hn : p.name = n
        · simp [hn]
        · simp only [hn, decide_false]
          refine Option.map_id'.symm.trans (Option.map_congr fun q hq => ?_)
          have hq : q.name = n := by simpa using List.find?_some hq
          rw [if_neg fun e => hn (e.symm.trans hq)]
      · rw [setPatternIn, if_neg hp, Segment.filterMap_placeholder?_argument,
          Segment.filterMap_placeholder?_argument, List.find?_cons, List.find?_cons]
        by_cases hn : p.name = n
        · subst hn
          simp [hp]
        · simpa [hn] using ih

theorem constraint?_setPattern (h : t.mentions name = true) (pattern : Option Text) (n : Text) :
    (t.setPattern name pattern).constraint? n =
      if name = n then pattern.filter fun text => text ≠ [] else t.constraint? n := by
  rw [constraint?, placeholder?_setPattern, constraint?]
  cases hn : t.placeholder? n with
  | none =>
    have hne : name ≠ n := by
      rintro rfl
      rw [placeholder?_eq_none_iff.1 hn] at h
      cases h
    rw [if_neg hne]
    rfl
  | some p =>
    have hp : p.name = n := by simpa using List.find?_some hn
    by_cases hne : name = n
    · simp [hp, hne, Placeholder.constraint]
    · simp [hp, hne, Ne.symm hne]

theorem arguments_shift (k : Nat) (gs : List Segment) :
    arguments ⟨gs.map (Segment.shift k)⟩ = arguments ⟨gs⟩ := by
  induction gs with
  | nil => rfl
  | cons g gs ih =>
    cases g with
    | literal t => exact ih
    | argument p => exact congrArg ((p.name, p.pattern) :: ·) ih

theorem prepend_eq (front : Text) (t : Template) :
    (∃ first rest, t.segments = .literal first :: rest ∧
      t.prepend front = ⟨.literal (front ++ first) :: rest.map (Segment.shift front.length)⟩) ∨
    (∀ g ∈ t.segments.head?, ¬g.IsLiteral) ∧
      t.prepend front = ⟨.literal front :: t.segments.map (Segment.shift front.length)⟩ := by
  obtain ⟨gs⟩ := t
  cases gs with
  | nil => exact .inr ⟨nofun, rfl⟩
  | cons g gs =>
    cases g with
    | literal first => exact .inl ⟨first, gs, rfl, rfl⟩
    | argument p => exact .inr ⟨fun g hg => Option.some.inj hg ▸ id, rfl⟩

theorem arguments_prepend (front : Text) (t : Template) :
    (t.prepend front).arguments = t.arguments := by
  obtain ⟨gs⟩ := t
  obtain ⟨first, rest, rfl, h⟩ | ⟨_, h⟩ := prepend_eq front ⟨gs⟩
  · rw [h]
    exact arguments_shift front.length rest
  · rw [h]
    exact arguments_shift front.length gs

theorem literal_of_mem_prepend {front text : Text}
    (h : .literal text ∈ (t.prepend front).segments) :
    (∃ first, text = front ++ first) ∨ .literal text ∈ t.segments := by
  obtain ⟨first, rest, hsegments, hprepend⟩ | ⟨_, hprepend⟩ := prepend_eq front t
  · rw [hprepend] at h
    obtain h | h := List.mem_cons.1 h
    · exact .inl ⟨first, Segment.literal.inj h⟩
    · rw [hsegments]
      exact .inr (List.mem_cons_of_mem _ (literal_mem_map_shift.1 h))
  · rw [hprepend] at h
    obtain h | h := List.mem_cons.1 h
    · exact .inl ⟨[], (Segment.literal.inj h).trans (List.append_nil _).symm⟩
    · exact .inr (literal_mem_map_shift.1 h)

theorem isChain_apart_prepend (front : Text) (h : t.segments.IsChain Segment.Apart) :
    (t.prepend front).segments.IsChain Segment.Apart := by
  obtain ⟨first, rest, hsegments, hprepend⟩ | ⟨hhead, hprepend⟩ := prepend_eq front t
  · rw [hprepend, isChain_apart_iff, List.map_cons, map_isLiteral_shift]
    rw [hsegments, isChain_apart_iff] at h
    exact h
  · have hshift : (t.segments.map (Segment.shift front.length)).IsChain Segment.Apart := by
      rwa [isChain_apart_iff, map_isLiteral_shift, ← isChain_apart_iff]
    rw [hprepend]
    refine hshift.cons fun g hg => ?_
    rw [List.head?_map] at hg
    obtain ⟨g', hg', rfl⟩ := Option.map_eq_some_iff.1 hg
    have hnot := hhead g' hg'
    cases g' with
    | literal t => exact absurd trivial hnot
    | argument p => exact fun hliteral => hliteral.2

end Template

end PathTemplates
