import PathTemplates.Proofs.State.Consistency

namespace PathTemplates

namespace Segment

/-- The segment without what a new pattern would change. -/
def unpatterned : Segment → Segment
  | literal t => literal t
  | argument p => argument { p with pattern := none }

/-- The segment with another placeholder of the same name, where there is one. -/
def refill (placeholder? : Text → Option Placeholder) : Segment → Segment
  | literal t => literal t
  | argument p => argument ((placeholder? p.name).getD p)

end Segment

namespace Template

variable {s t : Template}

theorem map_unpatterned_setPatternIn (name : Text) (pattern : Option Text) (gs : List Segment) :
    (setPatternIn name pattern gs).map Segment.unpatterned = gs.map Segment.unpatterned := by
  induction gs with
  | nil => rfl
  | cons g gs ih =>
    cases g with
    | literal t => exact congrArg (.literal t :: ·) ih
    | argument p =>
      rw [setPatternIn]
      split
      · rfl
      · exact congrArg (_ :: ·) ih

theorem names_map_unpatterned (gs : List Segment) :
    names ⟨gs.map Segment.unpatterned⟩ = names ⟨gs⟩ := by
  induction gs with
  | nil => rfl
  | cons g gs ih =>
    cases g with
    | literal t => exact ih
    | argument p => exact congrArg (p.name :: ·) ih

theorem map_refill (h : t.names.Nodup) :
    (t.segments.map Segment.unpatterned).map (Segment.refill t.placeholder?) = t.segments := by
  rw [List.map_map]
  refine (List.map_congr_left fun g hg => ?_).trans (List.map_id _)
  cases g with
  | literal text => rfl
  | argument p =>
    have hp : p ∈ t.placeholders := List.mem_filterMap.2 ⟨_, hg, rfl⟩
    show Segment.argument ((t.placeholder? p.name).getD _) = _
    rw [placeholder?_of_mem h hp]
    rfl

/-- Two templates are the same if their segments are the same but for patterns, and each name has
the same placeholder. -/
theorem eq_of_placeholder?_eq (hs : s.names.Nodup) (ht : t.names.Nodup)
    (hsegments : s.segments.map Segment.unpatterned = t.segments.map Segment.unpatterned)
    (hplaceholder : ∀ n, s.placeholder? n = t.placeholder? n) : s = t := by
  have hsegments' : s.segments = t.segments := by
    rw [← map_refill hs, ← map_refill ht, hsegments, funext hplaceholder]
  cases s
  cases t
  exact congrArg Template.mk hsegments'

end Template

namespace Crumb

variable {c d d' e : Crumb} {n : Text}

/-- The second crumb is the first one with other values and patterns. Where `values n` is `some v?`,
the argument `n` has been given the value `v?`, or has been opened if that is `none`; where it is
`none`, the value is what it was. It is the same with `patterns` and the texts of patterns. -/
structure Rewrites (values patterns : Text → Option (Option Text)) (c d : Crumb) : Prop where
  value : ∀ n, d.values.get? n = (values n).getD (c.values.get? n)
  placeholder : ∀ n, d.template.placeholder? n =
    (c.template.placeholder? n).map fun p => { p with pattern := (patterns n).getD p.pattern }
  compiled : ∀ n pattern, patterns n = some pattern →
    d.patterns.Holds n (pattern.filter fun text => text ≠ [])
  kept : ∀ n, patterns n = none → d.patterns.get? n = c.patterns.get? n
  segments : d.template.segments.map Segment.unpatterned =
    c.template.segments.map Segment.unpatterned
  mode : d.mode = c.mode
  ignore : d.ignore = c.ignore
  checkExists : d.checkExists = c.checkExists

namespace Rewrites

variable {values patterns values' patterns' : Text → Option (Option Text)}

theorem refl (c : Crumb) : Rewrites (fun _ => none) (fun _ => none) c c where
  value _ := rfl
  placeholder _ := Option.map_id'.symm
  compiled _ _ := nofun
  kept _ _ := rfl
  segments := rfl
  mode := rfl
  ignore := rfl
  checkExists := rfl

/-- What is done later counts. -/
theorem trans (h : Rewrites values patterns c d) (h' : Rewrites values' patterns' d e) :
    Rewrites (fun n => (values' n).or (values n)) (fun n => (patterns' n).or (patterns n)) c e where
  value n := by
    rw [h'.value, h.value]
    cases values' n <;> rfl
  placeholder n := by
    rw [h'.placeholder, h.placeholder, Option.map_map]
    refine Option.map_congr fun p _ => ?_
    cases patterns' n <;> rfl
  compiled n pattern hn := by
    cases hlater : patterns' n with
    | some later =>
      rw [hlater, Option.some_or] at hn
      exact h'.compiled n pattern (hlater.trans hn)
    | none =>
      rw [hlater, Option.none_or] at hn
      exact (h.compiled n pattern hn).congr h'.mode (h'.kept n hlater)
  kept n hn := by
    obtain ⟨hlater, hearlier⟩ := Option.or_eq_none_iff.1 hn
    exact (h'.kept n hlater).trans (h.kept n hearlier)
  segments := h'.segments.trans h.segments
  mode := h'.mode.trans h.mode
  ignore := h'.ignore.trans h.ignore
  checkExists := h'.checkExists.trans h.checkExists

theorem names (h : Rewrites values patterns c d) : d.names = c.names := by
  show Template.names ⟨d.template.segments⟩ = Template.names ⟨c.template.segments⟩
  rw [← Template.names_map_unpatterned, h.segments, Template.names_map_unpatterned]

theorem get?_patterns (h : Rewrites values patterns c d) (h' : Rewrites values patterns c d')
    (n : Text) : d.patterns.get? n = d'.patterns.get? n := by
  cases hn : patterns n with
  | none => rw [h.kept n hn, h'.kept n hn]
  | some pattern =>
    exact (h'.compiled n pattern hn).get?_eq (h.compiled n pattern hn) (h.mode.trans h'.mode.symm)

/-- Nothing is left open. -/
theorem unique (h : Rewrites values patterns c d) (h' : Rewrites values patterns c d') :
    d = d' := by
  have hvalues : d.values = d'.values := NameMap.ext fun n => by rw [h.value, h'.value]
  have htemplate : d.template = d'.template :=
    Template.eq_of_placeholder?_eq d.distinct d'.distinct (h.segments.trans h'.segments.symm)
      fun n => by rw [h.placeholder, h'.placeholder]
  have hcompiled : d.patterns.compiled = d'.patterns.compiled := NameMap.ext (get?_patterns h h')
  have hmode : d.patterns.mode = d'.patterns.mode := h.mode.trans h'.mode.symm
  have hignore : d.ignore = d'.ignore := h.ignore.trans h'.ignore.symm
  have hexists : d.checkExists = d'.checkExists := h.checkExists.trans h'.checkExists.symm
  obtain ⟨_, _, ⟨_, _⟩, _, _, _⟩ := d
  obtain ⟨_, _, ⟨_, _⟩, _, _, _⟩ := d'
  cases hvalues
  cases htemplate
  cases hcompiled
  cases hmode
  cases hignore
  cases hexists
  rfl

theorem of_values {values' : NameMap Text}
    (h : ∀ n, values'.get? n = (values n).getD (c.values.get? n)) :
    Rewrites values (fun _ => none) c { c with values := values' } :=
  { refl c with value := h }

theorem of_pattern {name : Text} {pattern : Option Text} {table : PatternTable}
    (hmode : table.mode = c.patterns.mode)
    (hnew : table.Holds name (pattern.filter fun text => text ≠ []))
    (hother : ∀ n, name ≠ n → table.get? n = c.patterns.get? n) :
    Rewrites (fun _ => none) (fun n => if name = n then some pattern else none) c
      (withTemplate { c with patterns := table } (c.template.setPattern name pattern)
        (c.template.names_setPattern ..)) where
  value _ := rfl
  placeholder n := by
    show (c.template.setPattern name pattern).placeholder? n = _
    rw [Template.placeholder?_setPattern]
    refine Option.map_congr fun p hp => ?_
    have hp : p.name = n := by simpa using List.find?_some hp
    by_cases hn : name = n
    · rw [if_pos (hp.trans hn.symm), if_pos hn]
      rfl
    · rw [if_neg fun hname => hn (hname.symm.trans hp), if_neg hn]
      rfl
  compiled n text hn := by
    obtain ⟨rfl, hpattern⟩ := Option.ite_none_right_eq_some.1 hn
    cases hpattern
    exact hnew
  kept n hn := by
    by_cases hname : name = n
    · rw [if_pos hname] at hn
      cases hn
    · exact hother n hname
  segments := Template.map_unpatterned_setPatternIn name pattern c.template.segments
  mode := hmode
  ignore := rfl
  checkExists := rfl

end Rewrites

end Crumb

end PathTemplates
