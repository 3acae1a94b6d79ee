import PathTemplates.Proofs.Glob.Braces
import PathTemplates.Proofs.State.Equality
import PathTemplates.Proofs.State.Rereading
import PathTemplates.Proofs.Template.Places

namespace PathTemplates

namespace Crumb

variable {fs : FileSystem} {c d : Crumb} {name text value : Text}

namespace Operation

/-- Values, patterns and the match mode are changed, and nothing else. -/
def IsEdit : Operation → Prop
  | bind .. | unbind .. | replace .. | setPattern .. | clearPattern .. | withMode .. => True
  | _ => False

end Operation

/-- Edits do not change literals. -/
theorem literal_mem_of_isEdit {op : Operation} (kind : op.IsEdit) (h : d ∈ op.results fs c)
    (hliteral : .literal text ∈ d.template.segments) : .literal text ∈ c.template.segments := by
  unfold Operation.results at h
  split at h
  · next ds hrun =>
    cases op with
    | bind name value =>
      obtain ⟨d', hd, rfl⟩ := exists_of_map_eq_ok (Failure.returning_eq_ok_iff.1 hrun)
      obtain rfl := List.mem_singleton.1 h
      obtain ⟨_, rfl⟩ := bind_eq_ok hd
      exact hliteral
    | unbind name =>
      obtain ⟨r, hr, rfl⟩ := exists_of_map_eq_ok (Failure.returning_eq_ok_iff.1 hrun)
      obtain rfl := List.mem_singleton.1 h
      rwa [unbind_eq_ok hr] at hliteral
    | replace t =>
      obtain ⟨d', hd, rfl⟩ := exists_of_map_eq_ok (Failure.returning_eq_ok_iff.1 hrun)
      obtain rfl := List.mem_singleton.1 h
      obtain ⟨_, rfl⟩ := replace_eq_ok hd
      exact hliteral
    | setPattern name text =>
      obtain ⟨d', hd, rfl⟩ := exists_of_map_eq_ok hrun
      obtain rfl := List.mem_singleton.1 h
      obtain ⟨_, _, _, rfl⟩ := setPattern_eq_ok hd
      exact Template.literal_mem_setPatternIn.1 hliteral
    | clearPattern name =>
      obtain ⟨d', hd, rfl⟩ := exists_of_map_eq_ok (Failure.returning_eq_ok_iff.1 hrun)
      obtain rfl := List.mem_singleton.1 h
      obtain ⟨_, rfl⟩ := clearPattern_eq_ok hd
      exact Template.literal_mem_setPatternIn.1 hliteral
    | withMode mode =>
      obtain ⟨d', hd, rfl⟩ := exists_of_map_eq_ok hrun
      obtain rfl := List.mem_singleton.1 h
      obtain ⟨_, _, rfl⟩ := exists_of_map_eq_ok hd
      exact hliteral
    | _ => cases kind
  · obtain rfl := List.mem_singleton.1 h
    exact hliteral

theorem Reachable.braceFree (h : Reachable Operation.IsEdit c) : c.template.BraceFree := by
  induction h with
  | start text options reads => exact Template.braceFree_of_read (read_eq_ok reads).1
  | step fs op source kind result ih =>
    exact fun text hliteral => ih text (literal_mem_of_isEdit kind result hliteral)

/-- After edits, the text of the template is read as the same segments, but for their places,
exactly if the braces of all patterns balance. For globs this can only fail where a pattern has a
backslash or a class. -/
theorem Reachable.read_text_iff (h : Reachable Operation.IsEdit c) :
    ((∃ t, Template.read c.template.text = .ok t ∧
        t.segments.map Segment.unplaced = c.template.segments.map Segment.unplaced) ↔
      c.template.PatternsBalanced) ∧
    (c.mode = .glob →
      (∀ p ∈ c.template.placeholders, ∀ text, p.pattern = some text → '\\' ∉ text ∧ '[' ∉ text) →
        c.template.PatternsBalanced) := by
  have hc := h.consistent
  refine ⟨⟨?_, fun hbalanced => ?_⟩, fun hmode hpatterns p hp text htext => ?_⟩
  · rintro ⟨t, hread, hsegments⟩
    exact Template.patternsBalanced_of_unplaced (Template.wellFormed_of_read hread) hsegments
  · have hspells : c.template.Spells c.template.text :=
      spells_text h.fronted hbalanced h.braceFree
    exact ⟨_, Template.read_of_named hspells hc.named,
      Template.unplaced_arrange hc.nonempty hc.apart 0⟩
  · by_cases hempty : text = []
    · rw [hempty]
      exact .nil
    · have hmem : (p.name, p.pattern) ∈ c.template.arguments := List.mem_map_of_mem hp
      obtain ⟨q, hq⟩ := hc.exists_compile hmem
        (by rw [htext, Option.filter_some, if_pos (by simpa using hempty)])
      rw [hmode] at hq
      obtain ⟨hescape, hclass⟩ := hpatterns p hp text htext
      exact Pattern.balanced_of_compile hq hescape hclass

/-- The template `v{x}` with the glob `{a,b}*` set for `x`. -/
theorem Reachable.read_text_iff_sample : ∃ c t, Reachable Operation.IsEdit c ∧
    c.template.text = ['v', '{', 'x', ':', '{', 'a', ',', 'b', '}', '*', '}'] ∧
    Template.read c.template.text = .ok t ∧
    t.segments.map Segment.unplaced = c.template.segments.map Segment.unplaced := by
  have hone {d : Crumb} : d ∈ [d] := List.mem_singleton_self d
  obtain ⟨c, h, htext, hmode, hplaceholders⟩ : ∃ c, Reachable Operation.IsEdit c ∧
      c.template.text = ['v', '{', 'x', ':', '{', 'a', ',', 'b', '}', '*', '}'] ∧
      c.mode = .glob ∧
      c.template.placeholders = [⟨['x'], some ['{', 'a', ',', 'b', '}', '*'], ⟨1, 4⟩⟩] :=
    ⟨_, .step gapFiles (.setPattern ['x'] ['{', 'a', ',', 'b', '}', '*'])
      (.start ['v', '{', 'x', '}'] {} rfl) trivial hone, rfl, rfl, rfl⟩
  obtain ⟨hiff, hglob⟩ := Reachable.read_text_iff h
  have hbalanced : c.template.PatternsBalanced := by
    refine hglob hmode fun p hp text hpattern => ?_
    rw [hplaceholders] at hp
    cases List.mem_singleton.1 hp
    cases hpattern
    decide
  obtain ⟨t, hread, hsegments⟩ := hiff.2 hbalanced
  exact ⟨c, t, h, htext, hread, hsegments⟩

/-- The glob `[}]` stands for a closing brace and can be set for the argument of `{x}`, but then the
text of the template is refused. -/
theorem exists_refused_text : ∃ c, Reachable Operation.IsEdit c ∧
    c.template.text = ['{', 'x', ':', '[', '}', ']', '}'] ∧
    Template.read c.template.text = .error (.malformed 6) := by
  have hone {d : Crumb} : d ∈ [d] := List.mem_singleton_self d
  exact ⟨_, .step gapFiles (.setPattern ['x'] ['[', '}', ']']) (.start ['{', 'x', '}'] {} rfl)
    trivial hone, rfl, rfl⟩

end Crumb

end PathTemplates
