import PathTemplates.Proofs.State.Operations
import PathTemplates.Proofs.Template.Edits

namespace PathTemplates

namespace PatternTable

variable {table table' : PatternTable} {name text : Text}

/-- The entry of a name is what its text is compiled to, and without a text there is no entry. -/
def Holds (table : PatternTable) (name : Text) : Option Text → Prop
  | none => table.get? name = none
  | some text => ∃ p, Pattern.compile table.mode text = .ok p ∧ table.get? name = some p

theorem Holds.congr {text? : Option Text} (h : table.Holds name text?)
    (hmode : table'.mode = table.mode) (hget : table'.get? name = table.get? name) :
    table'.Holds name text? := by
  cases text? with
  | none => exact hget.trans h
  | some text =>
    obtain ⟨p, hp, hname⟩ := h
    exact ⟨p, hmode ▸ hp, hget.trans hname⟩

theorem Holds.get?_eq {text? : Option Text} (h : table.Holds name text?)
    (h' : table'.Holds name text?) (hmode : table'.mode = table.mode) :
    table'.get? name = table.get? name := by
  cases text? with
  | none => exact Eq.trans h' h.symm
  | some text =>
    obtain ⟨p, hp, hname⟩ := h
    obtain ⟨p', hp', hname'⟩ := h'
    rw [hmode, hp] at hp'
    rw [hname, hname', Except.ok.inj hp']

theorem holds_of_set (h : table.set name text = .ok table') :
    table'.Holds name ((some text).filter fun text => text ≠ []) := by
  obtain ⟨p, hp, hget⟩ := get?_of_set h
  by_cases hempty : text = []
  · rw [Option.filter_some, if_neg (by simpa using hempty)]
    exact (hget name).trans (by rw [if_pos rfl, if_pos hempty])
  · rw [Option.filter_some, if_pos (by simpa using hempty)]
    exact ⟨p, Crumb.mode_of_set h ▸ hp, (hget name).trans (by rw [if_pos rfl, if_neg hempty])⟩

theorem get?_clear (table : PatternTable) (name n : Text) :
    (table.clear name).get? n = if name = n then none else table.get? n :=
  NameMap.get?_erase ..

end PatternTable

namespace Crumb

variable {c d : Crumb} {permitted : Operation → Prop}

/-- The arguments have names of their own, and only they have values; the patterns are those of the
template, compiled in the present mode; literals are neither empty nor next to each other. -/
structure Consistent (c : Crumb) : Prop where
  named : c.template.Named
  bound : ∀ n v, c.values.get? n = some v → c.mentions n = true
  compiled : ∀ n, c.patterns.Holds n (c.template.constraint? n)
  nonempty : ∀ text, .literal text ∈ c.template.segments → text ≠ []
  apart : c.template.segments.IsChain Segment.Apart
  excluded : Exclusions.read c.ignore.texts = .ok c.ignore

theorem holds_addPatterns {table table' : PatternTable} {ps : List Placeholder}
    (h : addPatterns table ps = .ok table') (hnodup : (ps.map (·.name)).Nodup)
    (hnone : ∀ p ∈ ps, table.get? p.name = none) :
    table'.mode = table.mode ∧ (∀ p ∈ ps, table'.Holds p.name p.constraint) ∧
      ∀ n, n ∉ ps.map (·.name) → table'.get? n = table.get? n := by
  induction ps generalizing table with
  | nil =>
    cases h
    exact ⟨rfl, nofun, fun n _ => rfl⟩
  | cons p ps ih =>
    obtain ⟨hp, hps⟩ := List.nodup_cons.1 hnodup
    obtain ⟨hpnone, hpsnone⟩ := List.forall_mem_cons.1 hnone
    have hother {q : Placeholder} (hq : q ∈ ps) : p.name ≠ q.name := fun e =>
      hp (List.mem_map.2 ⟨q, hq, e.symm⟩)
    rw [addPatterns] at h
    split at h
    · next hconstraint =>
      obtain ⟨hmode, hheld, hrest⟩ := ih h hps hpsnone
      refine ⟨hmode, List.forall_mem_cons.2 ⟨?_, hheld⟩, fun n hn => ?_⟩
      · rw [hconstraint]
        exact (hrest _ hp).trans hpnone
      · exact hrest n fun hmem => hn (List.mem_cons_of_mem _ hmem)
    · next text hconstraint =>
      split at h
      · cases h
      · next middle hset =>
        obtain ⟨_, _, hget⟩ := PatternTable.get?_of_set hset
        obtain ⟨hmode, hheld, hrest⟩ := ih h hps fun q hq =>
          (hget _).trans ((if_neg (hother hq)).trans (hpsnone q hq))
        refine ⟨hmode.trans (mode_of_set hset), List.forall_mem_cons.2 ⟨?_, hheld⟩, fun n hn => ?_⟩
        -- No later placeholder has this name, so that the entry is not written again.
        · have hholds := PatternTable.holds_of_set hset
          have htext : (some text).filter (fun text => text ≠ []) = p.constraint := by
            rw [Placeholder.constraint] at hconstraint ⊢
            rw [← hconstraint, Option.filter_filter]
            simp
          rw [htext] at hholds
          exact hholds.congr hmode (hrest _ hp)
        · have hne : p.name ≠ n := fun e => hn (e ▸ List.mem_cons_self ..)
          exact (hrest n fun hmem => hn (List.mem_cons_of_mem _ hmem)).trans
            ((hget n).trans (if_neg hne))

theorem holds_readPatterns {mode : PatternMode} {t : Template} {table : PatternTable}
    (h : readPatterns mode t.placeholders = .ok table) (hnodup : t.names.Nodup) :
    table.mode = mode ∧ ∀ n, table.Holds n (t.constraint? n) := by
  have hadd : addPatterns (.empty mode) t.placeholders = .ok table := by
    rw [readPatterns] at h
    cases hadd : addPatterns (.empty mode) t.placeholders with
    | error e =>
      rw [hadd] at h
      cases h
    | ok table' =>
      rw [hadd] at h
      cases h
      rfl
  obtain ⟨hmode, hheld, hrest⟩ := holds_addPatterns hadd hnodup fun _ _ => rfl
  refine ⟨hmode, fun n => ?_⟩
  rw [Template.constraint?]
  cases hn : t.placeholder? n with
  | none =>
    have hnot : n ∉ t.names := by
      simpa [Template.mentions] using Template.placeholder?_eq_none_iff.1 hn
    exact hrest n hnot
  | some p =>
    have hp : p.name = n := by simpa using List.find?_some hn
    exact hp ▸ hheld p (List.mem_of_find?_eq_some hn)

theorem texts_of_read {texts : List Text} {ignore : Exclusions}
    (h : Exclusions.read texts = .ok ignore) : ignore.texts = texts := by
  have hglobs {texts : List Text} {globs : List Glob}
      (h : Exclusions.readGlobs texts = .ok globs) : globs.map (·.text) = texts := by
    induction texts generalizing globs with
    | nil =>
      cases h
      rfl
    | cons text texts ih =>
      rw [Exclusions.readGlobs] at h
      split at h
      · cases h
      · next g hg =>
        obtain ⟨items, _, rfl⟩ := exists_of_map_eq_ok hg
        obtain ⟨globs, hrest, rfl⟩ := exists_of_map_eq_ok h
        exact congrArg (text :: ·) (ih hrest)
  rw [Exclusions.read] at h
  split at h
  · cases h
  · next globs hread =>
    split at h
    · cases h
    · cases h
      exact hglobs hread

theorem excluded_of_read {texts : List Text} {ignore : Exclusions}
    (h : Exclusions.read texts = .ok ignore) : Exclusions.read ignore.texts = .ok ignore := by
  rw [texts_of_read h, h]

theorem read_eq_ok {text : Text} {options : CrumbSettings} (h : read text options = .ok c) :
    Template.read text = .ok c.template ∧ c.values = .empty ∧
      readPatterns options.mode c.template.placeholders = .ok c.patterns ∧
      Exclusions.read options.ignore = .ok c.ignore ∧ c.checkExists = options.checkExists := by
  unfold read at h
  split at h
  · cases h
  · next template htemplate =>
    obtain ⟨patterns, hpatterns, h⟩ := exists_of_bind_eq_ok h
    obtain ⟨ignore, hignore, h⟩ := exists_of_bind_eq_ok h
    cases h
    exact ⟨htemplate, rfl, hpatterns,
      read_of_readIgnore (Failure.returning_eq_ok_iff.1 hignore), rfl⟩

theorem consistent_of_read {text : Text} {options : CrumbSettings} (h : read text options = .ok c) :
    c.Consistent := by
  obtain ⟨htemplate, hvalues, hpatterns, hignore, _⟩ := read_eq_ok h
  have hformed := Template.wellFormed_of_read htemplate
  refine ⟨hformed.named, fun n v hv => ?_, (holds_readPatterns hpatterns c.distinct).2,
    hformed.nonempty, hformed.apart, excluded_of_read hignore⟩
  rw [hvalues] at hv
  cases hv

/-- A template with the same arguments takes the place of another one. -/
theorem Consistent.withTemplate {template : Template} {table : PatternTable} (h : c.Consistent)
    (hnames : template.names = c.template.names)
    (hcompiled : ∀ n, table.Holds n (template.constraint? n))
    (hnonempty : ∀ text, .literal text ∈ template.segments → text ≠ [])
    (hapart : template.segments.IsChain Segment.Apart) :
    (withTemplate { c with patterns := table } template hnames).Consistent where
  named := ⟨hnames ▸ h.named.nonempty, hnames ▸ h.named.distinct⟩
  bound n v hv := by
    show template.names.contains n = true
    rw [hnames]
    exact h.bound n v hv
  compiled := hcompiled
  nonempty := hnonempty
  apart := hapart
  excluded := h.excluded

/-- Other values for the arguments. -/
theorem Consistent.withValues {values : NameMap Text} (h : c.Consistent)
    (hbound : ∀ n v, values.get? n = some v → c.mentions n = true) :
    Consistent { c with values } :=
  ⟨h.named, hbound, h.compiled, h.nonempty, h.apart, h.excluded⟩

theorem holds_setPattern {name : Text} {pattern : Option Text} {table : PatternTable}
    (h : c.Consistent) (known : c.mentions name = true)
    (hnew : table.Holds name (pattern.filter fun text => text ≠ []))
    (hmode : table.mode = c.patterns.mode)
    (hother : ∀ n, name ≠ n → table.get? n = c.patterns.get? n) (n : Text) :
    table.Holds n ((c.template.setPattern name pattern).constraint? n) := by
  rw [Template.constraint?_setPattern known]
  by_cases hn : name = n
  · rw [if_pos hn]
    exact hn ▸ hnew
  · rw [if_neg hn]
    exact (h.compiled n).congr hmode (hother n hn)

theorem Consistent.rootedAt (h : c.Consistent) (folder : Text) :
    (c.rootedAt folder).Consistent := by
  have hfront : (if Path.endsInSlash folder then folder else folder ++ ['/']) ≠ [] := by
    split
    · next hslash =>
      rintro rfl
      cases hslash
    · simp
  refine h.withTemplate (c.template.names_prepend _) (fun n => ?_) (fun text hmem => ?_)
    (Template.isChain_apart_prepend _ h.apart)
  · rw [Template.constraint?_eq, Template.arguments_prepend, ← Template.constraint?_eq]
    exact h.compiled n
  · obtain ⟨first, rfl⟩ | hmem := Template.literal_of_mem_prepend hmem
    · exact fun e => hfront (List.append_eq_nil_iff.1 e).1
    · exact h.nonempty text hmem

theorem Consistent.change (h : c.Consistent) (hchange : Change c d) : d.Consistent := by
  cases hchange with
  | ignore compiled =>
    exact ⟨h.named, h.bound, h.compiled, h.nonempty, h.apart, excluded_of_read compiled⟩
  | mode compiled =>
    exact ⟨h.named, h.bound, (holds_readPatterns compiled c.distinct).2, h.nonempty, h.apart,
      h.excluded⟩
  | checkExists on => exact ⟨h.named, h.bound, h.compiled, h.nonempty, h.apart, h.excluded⟩
  | @bind t known =>
    refine h.withValues fun n v hv => ?_
    by_cases hn : n ∈ t.names
    · obtain ⟨b, hb, rfl⟩ := List.mem_map.1 hn
      exact known b hb
    · have hnone : Assignment.get? t.reverse n = none :=
        Assignment.get?_eq_none_iff.2 (by simpa [Assignment.names] using hn)
      rw [NameMap.get?_insertAll_eq_or, hnone] at hv
      exact h.bound n v hv
  | unbind name =>
    refine h.withValues fun n v hv => h.bound n v ?_
    rw [NameMap.get?_erase] at hv
    exact (Option.ite_none_left_eq_some.1 hv).2
  | @setPattern name text table known compiled =>
    refine h.withTemplate (c.template.names_setPattern ..) (holds_setPattern h known ?_ ?_ ?_)
      (fun text' hmem => h.nonempty text' (Template.literal_mem_setPatternIn.1 hmem))
      (Template.isChain_apart_setPattern h.apart ..)
    · exact PatternTable.holds_of_set compiled
    · exact mode_of_set compiled
    · intro n hn
      obtain ⟨_, _, hget⟩ := PatternTable.get?_of_set compiled
      rw [hget, if_neg hn]
  | @clearPattern name known =>
    refine h.withTemplate (c.template.names_setPattern ..) (holds_setPattern h known ?_ rfl ?_)
      (fun text' hmem => h.nonempty text' (Template.literal_mem_setPatternIn.1 hmem))
      (Template.isChain_apart_setPattern h.apart ..)
    · exact (PatternTable.get?_clear ..).trans (if_pos rfl)
    · exact fun n hn => (PatternTable.get?_clear ..).trans (if_neg hn)
  | rootedAt folder => exact h.rootedAt folder

theorem Reachable.consistent (h : Reachable permitted c) : c.Consistent :=
  h.invariant (fun _ _ _ => consistent_of_read) fun _ _ hc hchange => hc.change hchange

theorem Consistent.holds_of_mem {p : Placeholder} (h : c.Consistent)
    (hp : p ∈ c.template.placeholders) : c.patterns.Holds p.name p.constraint := by
  have hcompiled := h.compiled p.name
  rwa [Template.constraint?, Template.placeholder?_of_mem c.distinct hp] at hcompiled

/-- Whatever operations have been applied to a crumb since its template was read, and whether they
succeeded or not: its arguments have names of their own, only arguments have values, each argument
with a pattern text that is not empty has this text compiled in the present mode, and no other name
has a pattern, and no literal is empty or next to another one. -/
theorem Reachable.invariants (h : Reachable permitted c) :
    (∀ n ∈ c.names, n ≠ []) ∧ c.names.Nodup ∧
      (∀ n v, c.values.get? n = some v → n ∈ c.names) ∧
      (∀ n, (c.patterns.get? n).isSome = true ↔
        ∃ p ∈ c.template.placeholders, p.name = n ∧ ∃ text, p.pattern = some text ∧ text ≠ []) ∧
      (∀ p ∈ c.template.placeholders, ∀ text, p.pattern = some text → text ≠ [] →
        ∃ q, Pattern.compile c.mode text = .ok q ∧ c.patterns.get? p.name = some q) ∧
      (∀ text, .literal text ∈ c.template.segments → text ≠ []) ∧
      c.template.segments.IsChain Segment.Apart := by
  have hc := h.consistent
  have hcompiled : ∀ p ∈ c.template.placeholders, ∀ text, p.pattern = some text → text ≠ [] →
      ∃ q, Pattern.compile c.mode text = .ok q ∧ c.patterns.get? p.name = some q := by
    intro p hp text htext hne
    have hholds := hc.holds_of_mem hp
    rwa [Placeholder.constraint, htext, Option.filter_some, if_pos (by simpa using hne)] at hholds
  refine ⟨hc.named.nonempty, hc.named.distinct, fun n v hv => ?_, fun n => ⟨fun hn => ?_, ?_⟩,
    hcompiled, hc.nonempty, hc.apart⟩
  · exact mem_names.2 (hc.bound n v hv)
  · have hholds := hc.compiled n
    cases hconstraint : c.template.constraint? n with
    | none =>
      rw [hconstraint] at hholds
      rw [show c.patterns.get? n = none from hholds] at hn
      cases hn
    | some text =>
      obtain ⟨p, hp, htext⟩ := Option.bind_eq_some_iff.1 hconstraint
      obtain ⟨hpattern, hne⟩ := Option.filter_eq_some_iff.1 htext
      exact ⟨p, List.mem_of_find?_eq_some hp, by simpa using List.find?_some hp, text, hpattern,
        by simpa using hne⟩
  · rintro ⟨p, hp, rfl, text, htext, hne⟩
    obtain ⟨q, _, hq⟩ := hcompiled p hp text htext hne
    rw [hq]
    rfl

/-- The template `{a:x*}/{b}` with a pattern for `b`, after an attempt to bind a name that it does
not have, seen from the folder `/r`. -/
theorem Reachable.invariants_sample : ∃ c, Reachable (fun _ => True) c ∧
    c.template.text = ['/', 'r', '/', '{', 'a', ':', 'x', '*', '}', '/', '{', 'b', ':', 'y', '}'] ∧
    c.names.Nodup ∧ c.template.segments.IsChain Segment.Apart ∧
    (c.patterns.get? ['b']).isSome = true := by
  have hone {d : Crumb} : d ∈ [d] := List.mem_singleton_self d
  have hreach : ∃ c, Reachable (fun _ => True) c ∧ c.template.text =
      ['/', 'r', '/', '{', 'a', ':', 'x', '*', '}', '/', '{', 'b', ':', 'y', '}'] ∧
      ⟨['b'], some ['y'], ⟨10, 13⟩⟩ ∈ c.template.placeholders :=
    ⟨_, .step gapFiles (.rootedAt [47, 114])
      (.step gapFiles (.bind ['c'] ['v'])
        (.step gapFiles (.setPattern ['b'] ['y'])
          (.start ['{', 'a', ':', 'x', '*', '}', '/', '{', 'b', '}'] {} rfl) trivial hone)
        trivial hone)
      trivial hone, rfl, List.mem_cons_of_mem _ (List.mem_singleton.2 rfl)⟩
  obtain ⟨c, h, htext, hb⟩ := hreach
  obtain ⟨_, hnodup, _, hiff, _, _, hapart⟩ := Reachable.invariants h
  exact ⟨c, h, htext, hnodup, hapart, (hiff _).2 ⟨_, hb, rfl, _, rfl, by decide⟩⟩

end Crumb

end PathTemplates
