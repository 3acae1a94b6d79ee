import PathTemplates.Proofs.State.Consistency
import PathTemplates.Proofs.Template.Fronts
import PathTemplates.Proofs.Template.Rendering

namespace PathTemplates

namespace Crumb

open Template (arrange Exceeds)

variable {a b c d : Crumb} {permitted : Operation → Prop}

theorem Reachable.fronted (h : Reachable permitted c) : c.template.Fronted := by
  refine h.invariant (fun text options c hread => Template.fronted_of_read (read_eq_ok hread).1)
    fun c d hc hchange => ?_
  cases hchange with
  | ignore | mode | checkExists | bind | unbind => exact hc
  | setPattern | clearPattern => exact hc.setPattern ..
  | rootedAt => exact hc.prepend _

theorem same_eq_true_iff : a.same b = true ↔ a.template.text = b.template.text ∧
    a.values = b.values ∧ a.ignore.texts = b.ignore.texts ∧ a.mode = b.mode ∧
      a.checkExists = b.checkExists := by
  simp [same, and_assoc]

/-- Arguments that only one of the crumbs has cannot have a value. -/
theorem path_eq_of_exceeds {extra : List (Text × Option Text)} (hb : b.Consistent)
    (h : Exceeds a.template b.template extra) (hvalues : a.values = b.values) :
    a.path = b.path := by
  have hnames : a.names = extra.map Prod.fst ++ b.names := by
    rw [names, Template.names_eq_map_arguments, h.arguments, List.map_append, names,
      Template.names_eq_map_arguments]
  have hnodup : a.names.Nodup := a.distinct
  rw [hnames] at hnodup
  -- Only arguments of `b` have values in `b`, and these are other names.
  have hdisjoint := (List.nodup_append.1 hnodup).2.2
  rw [path, path, hvalues]
  refine h.render _ fun e he => Option.eq_none_iff_forall_ne_some.2 fun v hv => ?_
  exact hdisjoint e.1 (List.mem_map_of_mem he) e.1 (mem_names.2 (hb.bound e.1 v hv)) rfl

theorem arrange_eq_of_exceeds {extra : List (Text × Option Text)}
    (h : Exceeds a.template b.template extra) (hlength : a.names.length = b.names.length) :
    arrange [] 0 a.template.segments = arrange [] 0 b.template.segments := by
  refine h.arranged (List.eq_nil_of_length_eq_zero ?_)
  have harguments := congrArg List.length h.arguments
  have hnames (c : Crumb) : c.names.length = c.template.arguments.length := by
    rw [names, Template.names_eq_map_arguments, List.length_map]
  rw [List.length_append, ← hnames, ← hnames, hlength] at harguments
  omega

theorem ignore_eq_of_texts_eq (ha : a.Consistent) (hb : b.Consistent)
    (h : a.ignore.texts = b.ignore.texts) : a.ignore = b.ignore := by
  have hread := ha.excluded
  rw [h, hb.excluded] at hread
  exact (Except.ok.inj hread).symm

/-- Whatever moves only borders of literals and places of arguments makes no difference. -/
theorem resembles_of_arrange_eq (ha : a.Consistent) (hb : b.Consistent)
    (h : arrange [] 0 a.template.segments = arrange [] 0 b.template.segments)
    (hvalues : a.values = b.values) (hignore : a.ignore.texts = b.ignore.texts)
    (hmode : a.mode = b.mode) : a.names = b.names ∧
      (∀ n, a.patterns.get? n = b.patterns.get? n) ∧ Resembles b a := by
  have harguments : a.template.arguments = b.template.arguments := by
    rw [← Template.arguments_arrange [] 0 a.template.segments, h, Template.arguments_arrange]
  have hget (n : Text) : a.patterns.get? n = b.patterns.get? n := by
    have hconstraint : a.template.constraint? n = b.template.constraint? n := by
      rw [Template.constraint?_eq, Template.constraint?_eq, harguments]
    exact (hb.compiled n).get?_eq (hconstraint ▸ ha.compiled n) hmode
  refine ⟨?_, hget, ?_, ignore_eq_of_texts_eq ha hb hignore, fun n _ v => ?_⟩
  · rw [names, Template.names_eq_map_arguments, harguments, ← Template.names_eq_map_arguments]
    rfl
  · have hrelabel (c : Crumb) : Component.relabel Placeholder.bare
        (c.template.segments.flatMap (Segment.atoms c.values)) = Component.relabel Placeholder.bare
          ((arrange [] 0 c.template.segments).flatMap (Segment.atoms c.values)) :=
      (Template.relabel_arrange (fun _ _ => rfl) c.values [] 0 c.template.segments).symm
    rw [shape, shape, components, components, Component.map_relabel_ofTemplate,
      Component.map_relabel_ofTemplate, hrelabel, hrelabel, h, hvalues]
  · rw [PatternTable.allows, PatternTable.allows, hget]

theorem spells_text {t : Template} (h : t.Fronted) (hpatterns : t.PatternsBalanced)
    (hliterals : t.BraceFree) : t.Spells t.text :=
  ⟨Template.allowed_of_fronted h hpatterns (fun _ hg => hg) hliterals, rfl⟩

/-- Equal crumbs have one path and the same values. If they have as many arguments as each other, or
no braces in literal text, they have the same arguments and patterns and list the same on disk. -/
theorem Reachable.interchangeable (ha : Reachable permitted a) (hb : Reachable permitted b)
    (hap : a.template.PatternsBalanced) (hbp : b.template.PatternsBalanced)
    (h : a.same b = true) :
    a.path = b.path ∧ (∀ n, a.values.get? n = b.values.get? n) ∧
      (a.names.length = b.names.length ∨ a.template.BraceFree ∧ b.template.BraceFree →
        a.names = b.names ∧ a.openNames = b.openNames ∧
          (∀ n, a.patterns.get? n = b.patterns.get? n) ∧
            ∀ fs, a.unfoldValues fs = b.unfoldValues fs) := by
  obtain ⟨htext, hvalues, hignore, hmode, hexists⟩ := same_eq_true_iff.1 h
  obtain ⟨extra, hexceeds⟩ := Template.exists_exceeds ha.fronted hb.fronted hap hbp htext
  refine ⟨?_, fun n => by rw [hvalues], fun hlike => ?_⟩
  · obtain hexceeds | hexceeds := hexceeds
    · exact path_eq_of_exceeds hb.consistent hexceeds hvalues
    · exact (path_eq_of_exceeds ha.consistent hexceeds hvalues.symm).symm
  · have harrange : arrange [] 0 a.template.segments = arrange [] 0 b.template.segments := by
      obtain hlength | ⟨hafree, hbfree⟩ := hlike
      · obtain hexceeds | hexceeds := hexceeds
        · exact arrange_eq_of_exceeds hexceeds hlength
        · exact (arrange_eq_of_exceeds hexceeds hlength.symm).symm
      · have hspells := spells_text ha.fronted hap hafree
        exact Template.arrange_eq_of_spells (htext ▸ hspells) (spells_text hb.fronted hbp hbfree)
    obtain ⟨hnames, hget, hresembles⟩ :=
      resembles_of_arrange_eq ha.consistent hb.consistent harrange hvalues hignore hmode
    exact ⟨hnames, hresembles.openNames, hget, hresembles.unfoldValues_eq hexists⟩

/-- The template `{x}/b` with the pattern `a*` set for `x`, seen from the folder `/r`, and what is
read from `/r/{x:a*}/b`. -/
theorem Reachable.interchangeable_sample : ∃ a b, Reachable (fun _ => True) a ∧
    Reachable (fun _ => True) b ∧ a.same b = true ∧ a.names.length = b.names.length ∧
    a.template.placeholders ≠ b.template.placeholders ∧ a.names = b.names ∧
    ∀ fs, a.unfoldValues fs = b.unfoldValues fs := by
  have hone {d : Crumb} : d ∈ [d] := List.mem_singleton_self d
  have hbalanced {c : Crumb} {span : Span}
      (h : c.template.placeholders = [⟨['x'], some ['a', '*'], span⟩]) :
      c.template.PatternsBalanced := by
    intro p hp text htext
    rw [h] at hp
    cases List.mem_singleton.1 hp
    cases htext
    exact .of_not_mem (by decide) (by decide)
  obtain ⟨a, b, ha, hb, hsame, hapattern, hbpattern⟩ : ∃ a b, Reachable (fun _ => True) a ∧
      Reachable (fun _ => True) b ∧ a.same b = true ∧
      a.template.placeholders = [⟨['x'], some ['a', '*'], ⟨3, 6⟩⟩] ∧
      b.template.placeholders = [⟨['x'], some ['a', '*'], ⟨3, 9⟩⟩] :=
    ⟨_, _, .step gapFiles (.rootedAt [47, 114])
      (.step gapFiles (.setPattern ['x'] ['a', '*'])
        (.start ['{', 'x', '}', '/', 'b'] {} rfl) trivial hone)
      trivial hone,
      .start ['/', 'r', '/', '{', 'x', ':', 'a', '*', '}', '/', 'b'] {} rfl, rfl, rfl, rfl⟩
  have hlength : a.names.length = b.names.length := by
    rw [names, names, Template.names, Template.names, hapattern, hbpattern]
    rfl
  obtain ⟨_, _, hlike⟩ :=
    Reachable.interchangeable ha hb (hbalanced hapattern) (hbalanced hbpattern) hsame
  obtain ⟨hnames, _, _, hunfold⟩ := hlike (.inl hlength)
  refine ⟨a, b, ha, hb, hsame, hlength, ?_, hnames, hunfold⟩
  rw [hapattern, hbpattern]
  decide

/-- The template `a` seen from the folder with the name `{x}` has the text of `{x}/a`, but no
argument. -/
theorem exists_same_of_fewer_names : ∃ a b, Reachable (fun _ => True) a ∧
    Reachable (fun _ => True) b ∧ a.template.PatternsBalanced ∧ b.template.PatternsBalanced ∧
    a.same b = true ∧ a.names = [] ∧ b.names = [['x']] := by
  have hone {d : Crumb} : d ∈ [d] := List.mem_singleton_self d
  obtain ⟨a, b, ha, hb, hsame, hanone, hbone⟩ : ∃ a b, Reachable (fun _ => True) a ∧
      Reachable (fun _ => True) b ∧ a.same b = true ∧ a.template.placeholders = [] ∧
      b.template.placeholders = [⟨['x'], none, ⟨0, 3⟩⟩] :=
    ⟨_, _, .step gapFiles (.rootedAt [123, 120, 125]) (.start ['a'] {} rfl) trivial hone,
      .start ['{', 'x', '}', '/', 'a'] {} rfl, rfl, rfl, rfl⟩
  refine ⟨a, b, ha, hb, fun p hp => ?_, fun p hp text htext => ?_, hsame, ?_, ?_⟩
  · rw [hanone] at hp
    cases hp
  · rw [hbone] at hp
    cases List.mem_singleton.1 hp
    cases htext
  · rw [names, Template.names, hanone]
    rfl
  · rw [names, Template.names, hbone]
    rfl

end Crumb

end PathTemplates
