import PathTemplates.Proofs.Listing.Likeness

namespace PathTemplates

theorem Component.fill_relabel {f : Placeholder → Placeholder} {value : Text → Option Text}
    {k : Component} (hf : ∀ p, (f p).name = p.name) (hvalue : ∀ n ∈ k.names, value n ≠ none) :
    (k.relabel f).fill value = k.fill value := by
  induction k with
  | nil => rfl
  | cons a k ih =>
    cases a with
    | char c => exact congrArg (c :: ·) (ih hvalue)
    | argument p =>
      obtain ⟨hp, hk⟩ := List.forall_mem_cons.1 (show ∀ n ∈ p.name :: names k, _ from hvalue)
      obtain ⟨v, hv⟩ := Option.ne_none_iff_exists'.1 hp
      have hhead : Atom.fill value (.argument (f p)) = Atom.fill value (.argument p) := by
        rw [Atom.fill, Atom.fill, hf, hv]
        rfl
      exact (congrArg (· ++ fill value (relabel f k)) hhead).trans (congrArg (_ ++ ·) (ih hk))

/-- Patterns of arguments are no part of the shape of the components. -/
theorem Template.relabel_setPatternIn (values : NameMap Text) (name : Text)
    (pattern : Option Text) (gs : List Segment) :
    Component.relabel Placeholder.bare
        ((setPatternIn name pattern gs).flatMap (Segment.atoms values)) =
      Component.relabel Placeholder.bare (gs.flatMap (Segment.atoms values)) := by
  induction gs with
  | nil => rfl
  | cons g gs ih =>
    cases g with
    | literal t => simpa [setPatternIn, Component.relabel_append] using ih
    | argument p =>
      by_cases hp : p.name = name
      · have hhead : Component.relabel Placeholder.bare
            (Segment.atoms values (.argument { p with pattern })) =
              Component.relabel Placeholder.bare (Segment.atoms values (.argument p)) := by
          cases hv : values.get? p.name <;>
            simp [Segment.atoms, hv, Component.relabel, Atom.relabel, Placeholder.bare]
        rw [setPatternIn, if_pos hp, List.flatMap_cons, List.flatMap_cons, Component.relabel_append,
          Component.relabel_append, hhead]
      · simpa [setPatternIn, hp, Component.relabel_append] using ih

namespace Crumb

variable {fs : FileSystem} {c d e : Crumb} {more : Prop} {folder stop : Text}
  {ks : List Component} {u : Assignment} {value : Text → Option Text}

/-- Takes the patterns of all arguments away, one after another. -/
def clearPatterns (c : Crumb) : Except CrumbError Crumb := c.names.foldlM clearPattern c

theorem shape_setPattern (c : Crumb) (name : Text) (pattern : Option Text)
    (table : PatternTable) :
    shape (withTemplate { c with patterns := table } (c.template.setPattern name pattern)
      (c.template.names_setPattern ..)) = c.shape := by
  rw [shape, shape, components, components, Component.map_relabel_ofTemplate,
    Component.map_relabel_ofTemplate]
  exact congrArg (Text.splitBy _) (Template.relabel_setPatternIn c.values name pattern _)

theorem clearPattern_eq {name : Text} (h : c.mentions name = true) :
    c.clearPattern name = .ok (withTemplate { c with patterns := c.patterns.clear name }
      (c.template.setPattern name none) (c.template.names_setPattern ..)) := by
  rw [clearPattern, checkName, if_pos h]
  rfl

theorem foldlM_clearPattern (c : Crumb) (ns : List Text) (h : ∀ n ∈ ns, c.mentions n = true) :
    ∃ e, ns.foldlM clearPattern c = .ok e ∧ SameFrame c e ∧ e.shape = c.shape ∧
      ∀ n, e.patterns.get? n = if n ∈ ns then none else c.patterns.get? n := by
  induction ns generalizing c with
  | nil => exact ⟨c, rfl, .refl c, rfl, fun n => rfl⟩
  | cons m ns ih =>
    obtain ⟨hm, hns⟩ := List.forall_mem_cons.1 h
    have hstep := clearPattern_eq hm
    have hframe : SameFrame c (withTemplate { c with patterns := c.patterns.clear m }
        (c.template.setPattern m none) (c.template.names_setPattern ..)) :=
      ⟨c.template.names_setPattern .., rfl, rfl, rfl, rfl⟩
    obtain ⟨e, he, hrest, hshape, hget⟩ := ih _ fun n hn => (hframe.mentions n).trans (hns n hn)
    refine ⟨e, ?_, hframe.trans hrest, hshape.trans (shape_setPattern ..), fun n => ?_⟩
    · rw [List.foldlM_cons, hstep]
      exact he
    · have hclear : (c.patterns.clear m).get? n = if m = n then none else c.patterns.get? n :=
        NameMap.get?_erase ..
      rw [hget]
      show (if n ∈ ns then none else (c.patterns.clear m).get? n) = _
      rw [hclear]
      by_cases hn : n ∈ ns
      · simp [hn]
      · simp [hn, eq_comm]

/-- None of the names that the values give to the open components is ignored, and every value fits
the pattern of its argument. -/
def admits (c : Crumb) (u : Assignment) : Bool :=
  (c.components.all fun k => !k.isOpen || !c.ignore.ignores (k.fill u.get?)) &&
    u.all fun b => c.patterns.allows b.name b.value

theorem admits_eq_true_iff : c.admits u = true ↔
    (∀ k ∈ c.components, k.isOpen = true → c.ignore.ignores (k.fill u.get?) = false) ∧
      ∀ b ∈ u, c.patterns.allows b.name b.value = true := by
  have hor (k : Component) : (!k.isOpen || !c.ignore.ignores (k.fill u.get?)) = true ↔
      (k.isOpen = true → c.ignore.ignores (k.fill u.get?) = false) := by
    cases k.isOpen <;> simp
  simp only [admits, Bool.and_eq_true, List.all_eq_true, hor]

/-- A descent passes the names that its values give to the components. -/
theorem Descends.kept_fill (h : Descends fs c more folder ks u stop)
    (hvalue : ∀ b ∈ u, value b.name = some b.value) :
    ∀ k ∈ ks, k.isOpen = true → c.ignore.ignores (k.fill value) = false := by
  induction h with
  | stop => exact nofun
  | literal closed rest ih =>
    refine List.forall_mem_cons.2 ⟨fun hopen => ?_, ih hvalue⟩
    rw [hopen] at closed
    cases closed
  | entry isOpen there inside kept fits allowed rest ih =>
    obtain ⟨hbindings, hu⟩ := List.forall_mem_append.1 hvalue
    refine List.forall_mem_cons.2 ⟨fun _ => ?_, ih hu⟩
    rwa [Component.fill_of_matchEntry fits hbindings]

theorem Descends.allows (h : Descends fs c more folder ks u stop) :
    ∀ b ∈ u, c.patterns.allows b.name b.value = true := by
  induction h with
  | stop => exact nofun
  | literal closed rest ih => exact ih
  | entry isOpen there inside kept fits allowed rest ih =>
    exact List.forall_mem_append.2 ⟨allowed, ih⟩

theorem mem_back_of_isOpen {k : Component} (hk : k ∈ c.components) (hopen : k.isOpen = true) :
    k ∈ c.back := by
  rw [← front_append_back] at hk
  refine (List.mem_append.1 hk).resolve_left fun hfront => ?_
  rw [closed_of_mem_front k hfront] at hopen
  cases hopen

theorem get?_of_completes (h : c.Completes fs u) : ∀ b ∈ u, u.get? b.name = some b.value :=
  (opens_of_names_eq (names_of_completes h)).get?_of_mem

theorem Completes.admits (h : c.Completes fs u) : c.admits u = true := by
  have hget := get?_of_completes h
  obtain ⟨stop, hdescends, _⟩ := h
  exact admits_eq_true_iff.2
    ⟨fun k hk hopen => hdescends.kept_fill hget k (mem_back_of_isOpen hk hopen) hopen,
      hdescends.allows⟩

/-- What completes the crumb without exclusions and patterns completes it with them if it is let
through. -/
theorem Completes.of_admits (h : e.Completes fs u) (hshape : e.shape = c.shape)
    (hexists : e.checkExists = c.checkExists) (hadmits : c.admits u = true) : c.Completes fs u := by
  obtain ⟨hkept, hallows⟩ := admits_eq_true_iff.1 hadmits
  have hget := get?_of_completes h
  refine h.transfer hshape.symm hexists.symm (fun k hk hopen entry bindings hfits hsub _ => ?_)
    fun b hb _ => hallows b hb
  have hshaped : k.relabel Placeholder.bare ∈ c.shape :=
    hshape ▸ List.mem_map_of_mem (mem_components_of_mem_back hk)
  obtain ⟨l, hl, hrelabel⟩ := List.mem_map.1 hshaped
  have hlopen : l.isOpen = true := by
    rw [← Component.isOpen_relabel Placeholder.name_bare, hrelabel,
      Component.isOpen_relabel Placeholder.name_bare, hopen]
  -- The walk of `e` matched `k`; with all its names bound, the like component `l` of `c` is filled
  -- to the same entry.
  have hfill : l.fill u.get? = entry := by
    have hnames : ∀ n ∈ k.names, u.get? n ≠ none := by
      rw [← Component.names_of_matchEntry hfits]
      refine List.forall_mem_map.2 fun b hb => ?_
      rw [hget b (hsub b hb)]
      exact Option.some_ne_none _
    have hnames' : ∀ n ∈ l.names, u.get? n ≠ none := by
      rwa [← Component.names_relabel Placeholder.name_bare, hrelabel,
        Component.names_relabel Placeholder.name_bare]
    rw [← Component.fill_relabel Placeholder.name_bare hnames', hrelabel,
      Component.fill_relabel Placeholder.name_bare hnames]
    exact Component.fill_of_matchEntry hfits fun b hb => hget b (hsub b hb)
  rw [← hfill]
  exact hkept l hl hlopen

/-- A listing with exclusions and patterns answers with the completions that it would have without
them, in the same order, less those that go by an ignored name or have a value that does not fit its
pattern. -/
theorem unfoldValues_prunes (fs : FileSystem) (c : Crumb) :
    ∃ d e, c.withIgnore [] = .ok d ∧ d.clearPatterns = .ok e ∧
      e.ignore.texts = [] ∧ (∀ n ∈ c.names, e.patterns.get? n = none) ∧
      e.names = c.names ∧ e.values = c.values ∧ e.checkExists = c.checkExists ∧
      c.unfoldValues fs = (e.unfoldValues fs).filter c.admits := by
  let d : Crumb := { c with ignore := .empty }
  obtain ⟨e, he, hframe, hshape, hget⟩ := foldlM_clearPattern d d.names fun n hn => by
    simpa [Crumb.mentions, Template.mentions, Crumb.names] using hn
  have hshape : e.shape = c.shape := hshape
  have hexists : e.checkExists = c.checkExists := hframe.checkExists
  have hnone : ∀ n ∈ c.names, e.patterns.get? n = none := fun n hn => (hget n).trans (if_pos hn)
  refine ⟨d, e, rfl, he, congrArg Exclusions.texts hframe.ignore, hnone, hframe.names,
    hframe.values, hexists, ?_⟩
  refine SortedList.eq_of_mem_iff (ascending_completions ..)
    ((ascending_completions ..).filter _) fun u => ?_
  rw [List.mem_filter]
  show u ∈ c.unfoldValues fs ↔ u ∈ e.unfoldValues fs ∧ c.admits u = true
  rw [mem_unfoldValues, mem_unfoldValues]
  constructor
  · intro h
    refine ⟨h.transfer hshape hexists (fun _ _ _ _ _ _ _ _ => ?_) fun b hb _ => ?_, h.admits⟩
    · rw [hframe.ignore]
      rfl
    · have hname : b.name ∈ c.openNames := names_of_completes h ▸ List.mem_map_of_mem hb
      rw [PatternTable.allows, hnone _ (List.mem_filter.1 hname).1]
  · rintro ⟨h, hadmits⟩
    exact h.of_admits hshape hexists hadmits

end Crumb

end PathTemplates
