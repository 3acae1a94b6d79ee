import PathTemplates.Proofs.State.Consistency
import PathTemplates.Proofs.Template.Rendering

namespace PathTemplates

namespace Crumb

variable {c d : Crumb} {fs : FileSystem} {permitted : Operation → Prop}

theorem shape_of_unplaced (h : d.components.map (Component.relabel Placeholder.unplaced) =
    c.components.map (Component.relabel Placeholder.unplaced)) : d.shape = c.shape := by
  have hbare (c : Crumb) : c.shape =
      (c.components.map (Component.relabel Placeholder.unplaced)).map
        (Component.relabel Placeholder.bare) := by
    rw [shape, List.map_map]
    refine List.map_congr_left fun k _ => ?_
    rw [Function.comp_apply, Component.relabel_relabel]
    rfl
  rw [hbare, hbare, h]

theorem map_text_relabel (ks : List Component) :
    (ks.map (Component.relabel Placeholder.unplaced)).map Component.text =
      ks.map Component.text := by
  rw [List.map_map]
  exact List.map_congr_left fun k _ => Component.text_relabel Placeholder.text_unplaced k

theorem split_of_unplaced (h : d.components.map (Component.relabel Placeholder.unplaced) =
    c.components.map (Component.relabel Placeholder.unplaced)) : d.split = c.split := by
  have hback := map_relabel_back_eq Placeholder.name_unplaced h
  have hjoined : Component.joined d.back = Component.joined c.back := by
    rw [joined_eq_ofPieces, joined_eq_ofPieces, ← map_text_relabel, hback, map_text_relabel]
  have hrest (c : Crumb) : c.split.2 = if c.back = [] then [] else Component.joined c.back := by
    rw [split, ← back]
    cases hnil : c.back <;> rfl
  refine Prod.ext (start_of_shape (shape_of_unplaced h)) ?_
  rw [hrest, hrest, hjoined]
  refine if_congr ?_ rfl rfl
  rw [← List.map_eq_nil_iff (f := Component.relabel Placeholder.unplaced), hback,
    List.map_eq_nil_iff]

theorem exists_addPatterns (table : PatternTable) {ps : List Placeholder}
    (h : ∀ p ∈ ps, ∀ text, p.constraint = some text →
      ∃ q, Pattern.compile table.mode text = .ok q) :
    ∃ table', addPatterns table ps = .ok table' := by
  induction ps generalizing table with
  | nil => exact ⟨table, rfl⟩
  | cons p ps ih =>
    obtain ⟨hp, hps⟩ := List.forall_mem_cons.1 h
    cases hconstraint : p.constraint with
    | none =>
      obtain ⟨table', htable⟩ := ih table hps
      exact ⟨table', by rw [addPatterns, hconstraint]; exact htable⟩
    | some text =>
      obtain ⟨q, hq⟩ := hp text hconstraint
      obtain ⟨middle, hset⟩ : ∃ middle, table.set p.name text = .ok middle := exists_set hq
      rw [← mode_of_set hset] at hps
      obtain ⟨table', htable⟩ := ih middle hps
      exact ⟨table', by rw [addPatterns, hconstraint]; dsimp only; rw [hset]; exact htable⟩

theorem exists_read {text : Text} (options : CrumbSettings) {t : Template} {ignore : Exclusions}
    (htemplate : Template.read text = .ok t)
    (hpatterns : ∀ p ∈ t.placeholders, ∀ pattern, p.constraint = some pattern →
      ∃ q, Pattern.compile options.mode pattern = .ok q)
    (hignore : Exclusions.read options.ignore = .ok ignore) :
    ∃ d, read text options = .ok d ∧ d.template = t ∧ d.ignore = ignore := by
  obtain ⟨table, htable⟩ := exists_addPatterns (.empty options.mode) hpatterns
  unfold read
  split
  · next e herror =>
    rw [htemplate] at herror
    cases herror
  · next t' ht' =>
    rw [htemplate] at ht'
    cases ht'
    rw [readPatterns, htable, readIgnore, hignore]
    exact ⟨_, rfl, rfl, rfl⟩

theorem Reachable.allowed (h : Reachable Operation.IsBinding c) :
    ∀ g ∈ c.template.segments, g.Allowed := by
  induction h with
  | start text options reads =>
    exact (Template.wellFormed_of_read (read_eq_ok reads).1).allowed
  | step fs op source kind result ih =>
    obtain ⟨values, rfl⟩ := exists_values_of_isBinding kind result
    exact ih

theorem Consistent.exists_compile {name text : Text} {pattern : Option Text} (h : c.Consistent)
    (ha : (name, pattern) ∈ c.template.arguments)
    (htext : pattern.filter (fun t => t ≠ []) = some text) :
    ∃ q, Pattern.compile c.mode text = .ok q := by
  obtain ⟨p, hp, hpair⟩ := List.mem_map.1 ha
  cases hpair
  have hholds := h.holds_of_mem hp
  rw [Placeholder.constraint, htext] at hholds
  obtain ⟨q, hq, _⟩ := hholds
  exact ⟨q, hq⟩

/-- Without values that have braces there is a crumb to be read from the path. -/
theorem Reachable.exists_read_path (h : Reachable Operation.IsBinding c)
    (hvalues : ∀ n v, c.values.get? n = some v → '{' ∉ v ∧ '}' ∉ v) :
    ∃ d, read c.path c.options = .ok d ∧ d.template = c.template.fix c.values.get? ∧
      d.ignore = c.ignore := by
  have hc := h.consistent
  refine exists_read c.options (Template.read_render h.allowed hc.named hvalues) ?_ hc.excluded
  intro p hp text htext
  have hmem : (p.name, p.pattern) ∈ (c.template.fix c.values.get?).arguments :=
    List.mem_map_of_mem hp
  rw [Template.arguments_fix] at hmem
  exact hc.exists_compile (List.mem_filter.1 hmem).1 htext

theorem unplaced_of_fix (htemplate : d.template = c.template.fix c.values.get?)
    (hempty : d.values = .empty) : d.components.map (Component.relabel Placeholder.unplaced) =
      c.components.map (Component.relabel Placeholder.unplaced) := by
  rw [components, components, Component.map_relabel_ofTemplate, Component.map_relabel_ofTemplate,
    htemplate, hempty, Template.relabel_fix fun _ _ => rfl]

theorem Consistent.get?_of_fix (hc : c.Consistent) (hd : d.Consistent)
    (htemplate : d.template = c.template.fix c.values.get?)
    (hmode : d.patterns.mode = c.patterns.mode) :
    ∀ n ∈ c.openNames, d.patterns.get? n = c.patterns.get? n := by
  intro n hn
  have hconstraint : d.template.constraint? n = c.template.constraint? n :=
    Template.constraint?_of_filter (fun n => (c.values.get? n).isNone)
      (htemplate ▸ Template.arguments_fix ..)
      (by rw [get?_of_mem_openNames hn]; rfl)
  exact (hc.compiled n).get?_eq (hconstraint ▸ hd.compiled n) hmode

/-- Without values that have braces, the path and the settings of a crumb are read as a crumb with
just its open arguments, which has the same path and finds the same on disk. -/
theorem Reachable.read_path (h : Reachable Operation.IsBinding c)
    (hvalues : ∀ n v, c.values.get? n = some v → '{' ∉ v ∧ '}' ∉ v) :
    ∃ d, read c.path c.options = .ok d ∧
      d.template.arguments = (c.template.arguments.filter fun a => !c.values.contains a.1) ∧
      d.names = c.openNames ∧ (∀ n ∈ c.openNames, d.patterns.get? n = c.patterns.get? n) ∧
      d.path = c.path ∧ d.split = c.split ∧
      ∀ fs, d.pathExists fs = c.pathExists fs ∧ d.unfoldValues fs = c.unfoldValues fs := by
  have hc := h.consistent
  obtain ⟨d, hread, htemplate, hignore⟩ := h.exists_read_path hvalues
  obtain ⟨_, hempty, hpatterns, _, hexists⟩ := read_eq_ok hread
  have hmode : d.patterns.mode = c.patterns.mode := (holds_readPatterns hpatterns d.distinct).1
  have harguments : d.template.arguments =
      c.template.arguments.filter fun a => !c.values.contains a.1 := by
    rw [htemplate, Template.arguments_fix]
    exact List.filter_congr fun a _ => by rw [NameMap.contains, Option.not_isSome]
  -- Components that differ in places only make the same path, the same cut and the same walk.
  have hcomponents := unplaced_of_fix htemplate hempty
  have hshape := shape_of_unplaced hcomponents
  have hnames : d.names = d.openNames := by
    simp [openNames, hempty, NameMap.contains, NameMap.get?_empty]
  have hget := hc.get?_of_fix (consistent_of_read hread) htemplate hmode
  have hpath : d.path = c.path := by
    rw [path_eq_join, path_eq_join, ← map_text_relabel, hcomponents, map_text_relabel]
  have hresembles : Resembles c d :=
    ⟨hshape, hignore, fun n hn v => by rw [PatternTable.allows, PatternTable.allows, hget n hn]⟩
  refine ⟨d, hread, harguments, hnames.trans (openNames_of_shape hshape), hget, hpath,
    split_of_unplaced hcomponents, fun fs => ⟨hresembles.pathExists_eq fs, ?_⟩⟩
  exact hresembles.unfoldValues_eq hexists fs

/-- The template `{x}/{y:b*}` with a value for `x` that has separators, leads up and ends in one. -/
theorem Reachable.read_path_sample : ∃ c d, Reachable Operation.IsBinding c ∧
    c.path = ['s', '/', '.', '.', '/', '/', '{', 'y', ':', 'b', '*', '}'] ∧
    (∀ n v, c.values.get? n = some v → '{' ∉ v ∧ '}' ∉ v) ∧ read c.path c.options = .ok d ∧
    d.names = [['y']] ∧ d.split = c.split := by
  have hone {d : Crumb} : d ∈ [d] := List.mem_singleton_self d
  obtain ⟨c, h, hvalues, hpath, hopen⟩ : ∃ c, Reachable Operation.IsBinding c ∧
      c.values = NameMap.empty.insert ['x'] ['s', '/', '.', '.', '/'] ∧
      c.path = ['s', '/', '.', '.', '/', '/', '{', 'y', ':', 'b', '*', '}'] ∧
      c.openNames = [['y']] :=
    ⟨_, .step gapFiles (.bind ['x'] ['s', '/', '.', '.', '/'])
      (.start ['{', 'x', '}', '/', '{', 'y', ':', 'b', '*', '}'] {} rfl) trivial hone,
      rfl, rfl, rfl⟩
  have hbraces : ∀ n v, c.values.get? n = some v → '{' ∉ v ∧ '}' ∉ v := by
    intro n v hv
    rw [hvalues, NameMap.get?_insert, NameMap.get?_empty] at hv
    obtain ⟨_, hv⟩ := Option.ite_none_right_eq_some.1 hv
    cases hv
    decide
  obtain ⟨d, hread, _, hnames, _, _, hsplit, _⟩ := Reachable.read_path h hbraces
  exact ⟨c, d, h, hpath, hbraces, hread, hnames.trans hopen, hsplit⟩

end Crumb

end PathTemplates
