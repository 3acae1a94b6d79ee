import PathTemplates.Proofs.Listing.Spelling
import PathTemplates.Proofs.Listing.Targets

namespace PathTemplates

/-- The pattern of an argument is not part of its value. -/
theorem Template.atoms_setPatternIn {values : NameMap Text} {name : Text} {pattern : Option Text}
    {gs : List Segment} (h : values.contains name = true) :
    (setPatternIn name pattern gs).flatMap (Segment.atoms values) =
      gs.flatMap (Segment.atoms values) := by
  induction gs with
  | nil => rfl
  | cons g gs ih =>
    cases g with
    | literal t => rw [setPatternIn, List.flatMap_cons, List.flatMap_cons, ih]
    | argument p =>
      by_cases hp : p.name = name
      · obtain ⟨v, hv⟩ := Option.isSome_iff_exists.1 h
        simp [setPatternIn, Segment.atoms, hp, hv]
      · rw [setPatternIn, if_neg hp, List.flatMap_cons, List.flatMap_cons, ih]

theorem Pattern.compile_eq_any_iff {mode : PatternMode} {text : Text} :
    compile mode text = .ok .any ↔ text = [] := by
  constructor
  · intro h
    unfold compile at h
    split at h
    · next hempty => exact hempty
    · split at h <;> split at h
      · split at h <;> cases h
      all_goals cases h
  · rintro rfl
    rfl

theorem PatternTable.get?_of_set {table table' : PatternTable} {name text : Text}
    (h : table.set name text = .ok table') : ∃ p, Pattern.compile table.mode text = .ok p ∧
      ∀ n, table'.get? n =
        if name = n then if text = [] then none else some p else table.get? n := by
  unfold set at h
  split at h
  · cases h
  · next hp =>
    cases h
    refine ⟨_, hp, fun n => ?_⟩
    rw [if_pos (Pattern.compile_eq_any_iff.1 hp)]
    exact NameMap.get?_erase ..
  · next p hany hp =>
    cases h
    have hne : text ≠ [] := by
      rintro rfl
      exact hany (Except.ok.inj (hp.symm.trans (Pattern.compile_eq_any_iff.2 rfl)))
    refine ⟨p, hp, fun n => ?_⟩
    rw [if_neg hne]
    exact NameMap.get?_insert ..

theorem PatternTable.allows_of_set {table table' : PatternTable} {name text n : Text}
    (h : table.set name text = .ok table') (hne : name ≠ n) (v : Text) :
    table'.allows n v = table.allows n v := by
  obtain ⟨_, _, hget⟩ := get?_of_set h
  rw [allows, allows, hget, if_neg hne]

namespace Crumb

variable {fs : FileSystem} {c d e : Crumb} {more : Prop} {folder stop : Text}
  {ks : List Component} {t u : Assignment} {a : Text} {on : Bool}

/-- The components without what is written about their arguments beyond the names. -/
def shape (c : Crumb) : List Component := c.components.map (Component.relabel Placeholder.bare)

theorem front_eq_takeWhile_shape (c : Crumb) : c.front = c.shape.takeWhile fun k => !k.isOpen := by
  have hclosed : c.front.map (Component.relabel Placeholder.bare) = c.front :=
    List.map_congr_left (fun k hk => Component.relabel_of_closed (closed_of_mem_front k hk))
      |>.trans
      (List.map_id _)
  rw [shape, List.takeWhile_map, ← hclosed, front]
  simp only [Function.comp_def, Component.isOpen_relabel Placeholder.name_bare]

theorem map_relabel_back {f : Placeholder → Placeholder} (hf : ∀ p, (f p).name = p.name)
    (c : Crumb) : c.back.map (Component.relabel f) =
      (c.components.map (Component.relabel f)).dropWhile fun k => !k.isOpen := by
  rw [List.dropWhile_map, back]
  simp only [Function.comp_def, Component.isOpen_relabel hf]

theorem map_relabel_back_eq {f : Placeholder → Placeholder} (hf : ∀ p, (f p).name = p.name)
    (h : d.components.map (Component.relabel f) = c.components.map (Component.relabel f)) :
    d.back.map (Component.relabel f) = c.back.map (Component.relabel f) := by
  rw [map_relabel_back hf, map_relabel_back hf, h]

section

variable (h : d.shape = c.shape)
include h

theorem openNames_of_shape : d.openNames = c.openNames := by
  have hnames (c : Crumb) : c.shape.flatMap Component.names = c.openNames := by
    rw [← flatMap_names_components, shape, List.flatMap_map]
    simp only [Component.names_relabel Placeholder.name_bare]
  rw [← hnames, h, hnames]

/-- The walk starts at the same path. -/
theorem start_of_shape : d.split.1 = c.split.1 := by
  have hfront : d.front = c.front := by
    rw [front_eq_takeWhile_shape, h, ← front_eq_takeWhile_shape]
  have hback := map_relabel_back_eq Placeholder.name_bare h
  by_cases hnil : c.back = []
  · have hnil' : d.back = [] := List.map_eq_nil_iff.1 (hback.trans (List.map_eq_nil_iff.2 hnil))
    rw [split_of_back_eq_nil hnil', split_of_back_eq_nil hnil, ← front_of_back_eq_nil hnil',
      ← front_of_back_eq_nil hnil, hfront]
  · have hnil' : d.back ≠ [] := fun e =>
      hnil (List.map_eq_nil_iff.1 (hback.symm.trans (List.map_eq_nil_iff.2 e)))
    rw [split_of_back_ne_nil hnil', split_of_back_ne_nil hnil, hfront]

/-- What completes one crumb completes another one of the same shape, if the other one does not
ignore the entries on the way and takes the values. -/
theorem Completes.transfer (hu : c.Completes fs u) (hexists : d.checkExists = c.checkExists)
    (hkept : ∀ k ∈ c.back, k.isOpen = true → ∀ e bindings, k.matchEntry e = some bindings →
      (∀ b ∈ bindings, b ∈ u) → c.ignore.ignores e = false → d.ignore.ignores e = false)
    (hallowed : ∀ b ∈ u, c.patterns.allows b.name b.value = true →
      d.patterns.allows b.name b.value = true) : d.Completes fs u := by
  obtain ⟨stop, hdescends, hthere⟩ := hu
  refine ⟨stop, ?_, hexists ▸ hthere⟩
  rw [start_of_shape h]
  exact hdescends.transfer (map_relabel_back_eq Placeholder.name_bare h) hkept hallowed

end

/-- The crumbs may differ in everything that does not count for completing them. -/
structure Resembles (c d : Crumb) : Prop where
  shape : d.shape = c.shape
  ignore : d.ignore = c.ignore
  allows : ∀ n ∈ c.openNames, ∀ v, d.patterns.allows n v = c.patterns.allows n v

theorem Resembles.openNames (h : Resembles c d) : d.openNames = c.openNames :=
  openNames_of_shape h.shape

theorem Resembles.symm (h : Resembles c d) : Resembles d c :=
  ⟨h.shape.symm, h.ignore.symm, fun n hn v => (h.allows n (h.openNames ▸ hn) v).symm⟩

theorem Resembles.completes (h : Resembles c d) (hexists : d.checkExists = c.checkExists)
    (hu : c.Completes fs u) : d.Completes fs u := by
  refine hu.transfer h.shape hexists (fun _ _ _ _ _ _ _ hkept => h.ignore ▸ hkept)
    fun b hb hallowed => ?_
  have hname : b.name ∈ u.names := List.mem_map_of_mem hb
  rw [names_of_completes hu] at hname
  rw [h.allows _ hname, hallowed]

theorem Resembles.unfoldValues_eq (h : Resembles c d) (hexists : d.checkExists = c.checkExists)
    (fs : FileSystem) : d.unfoldValues fs = c.unfoldValues fs := by
  refine SortedList.eq_of_mem_iff (ascending_completions ..) (ascending_completions ..) fun u => ?_
  show u ∈ d.unfoldValues fs ↔ u ∈ c.unfoldValues fs
  rw [mem_unfoldValues, mem_unfoldValues]
  exact ⟨h.symm.completes hexists.symm, h.completes hexists⟩

/-- A crumb exists if there is a way to complete it to a path that is there. -/
theorem pathExists_eq_true_iff :
    c.pathExists fs = true ↔ ∃ u, u ∈ (c.withCheckExists true).unfoldValues fs := by
  cases hopen : c.hasOpenNames with
  | true =>
    rw [pathExists, hopen, if_pos rfl, Bool.not_eq_true', List.isEmpty_eq_false_iff_exists_mem]
  | false =>
    have hclosed : ∀ k ∈ (c.withCheckExists true).components, k.isOpen = false :=
      hasOpenNames_eq_false_iff.1 hopen
    have hpath : (c.withCheckExists true).split.1 = c.path := split_of_closed hclosed
    rw [pathExists, hopen, if_neg Bool.false_ne_true]
    simp only [mem_unfoldValues, completes_of_closed hclosed, hpath, exists_eq_left]
    exact ⟨fun h _ => h, fun h => h rfl⟩

theorem Resembles.pathExists_eq (h : Resembles c d) (fs : FileSystem) :
    d.pathExists fs = c.pathExists fs := by
  have hstrict : Resembles (c.withCheckExists true) (d.withCheckExists true) :=
    ⟨h.shape, h.ignore, h.allows⟩
  rw [Bool.eq_iff_iff, pathExists_eq_true_iff, pathExists_eq_true_iff,
    hstrict.unfoldValues_eq rfl]

/-- The crumbs may differ in what they are read from and in whether paths have to be there, but not
in what can complete them. -/
structure Alike (c d : Crumb) : Prop where
  components : d.components = c.components
  ignore : d.ignore = c.ignore
  allows : ∀ n ∈ c.openNames, ∀ v, d.patterns.allows n v = c.patterns.allows n v

theorem Alike.refl (c : Crumb) : Alike c c := ⟨rfl, rfl, fun _ _ _ => rfl⟩

theorem Alike.openNames (h : Alike c d) : d.openNames = c.openNames := by
  rw [← flatMap_names_components, h.components, flatMap_names_components]

theorem Alike.symm (h : Alike c d) : Alike d c :=
  ⟨h.components.symm, h.ignore.symm, fun n hn v => (h.allows n (h.openNames ▸ hn) v).symm⟩

theorem Alike.trans (h : Alike c d) (h' : Alike d e) : Alike c e :=
  ⟨h'.components.trans h.components, h'.ignore.trans h.ignore, fun n hn v =>
    (h'.allows n (h.openNames ▸ hn) v).trans (h.allows n hn v)⟩

theorem Alike.path (h : Alike c d) : d.path = c.path := by
  rw [path_eq_join, path_eq_join, h.components]

theorem Alike.split (h : Alike c d) : d.split = c.split := by
  rw [Crumb.split, Crumb.split, h.components, h.path]

theorem Alike.resembles (h : Alike c d) : Resembles c d :=
  ⟨congrArg (List.map _) h.components, h.ignore, h.allows⟩

theorem Alike.pathExists_eq (h : Alike c d) : d.pathExists fs = c.pathExists fs :=
  h.resembles.pathExists_eq fs

theorem withCheckExists_of_eq (h : c.checkExists = on) : c.withCheckExists on = c := by
  rw [withCheckExists, ← h]

theorem alike_withCheckExists (c : Crumb) (on : Bool) : Alike c (c.withCheckExists on) :=
  ⟨rfl, rfl, fun _ _ _ => rfl⟩

theorem setPattern_eq_ok {name text : Text} (h : c.setPattern name text = .ok d) :
    c.mentions name = true ∧ ∃ table, c.patterns.set name text = .ok table ∧
      d = withTemplate { c with patterns := table } (c.template.setPattern name (some text))
        (c.template.names_setPattern ..) := by
  cases hname : c.mentions name with
  | false =>
    rw [setPattern, checkName, hname] at h
    cases h
  | true =>
    cases htable : c.patterns.set name text with
    | error e =>
      rw [setPattern, checkName, if_pos hname, htable] at h
      cases h
    | ok table =>
      rw [setPattern_eq hname htable] at h
      exact ⟨rfl, table, rfl, (Except.ok.inj h).symm⟩

theorem setPattern_withCheckExists {name text : Text} (on : Bool)
    (h : c.setPattern name text = .ok d) :
    (c.withCheckExists on).setPattern name text = .ok (d.withCheckExists on) := by
  obtain ⟨hname, table, htable, rfl⟩ := setPattern_eq_ok h
  exact setPattern_eq (c := c.withCheckExists on) hname htable

theorem setPatterns_withCheckExists {ts : List Target} (on : Bool)
    (h : c.setPatterns ts = .ok e) :
    (c.withCheckExists on).setPatterns ts = .ok (e.withCheckExists on) := by
  induction ts generalizing c with
  | nil =>
    cases h
    rfl
  | cons t ts ih =>
    rw [setPatterns, List.foldlM_cons] at h ⊢
    cases hpattern : t.pattern with
    | none =>
      rw [hpattern] at h
      exact ih h
    | some text =>
      rw [hpattern] at h
      dsimp only at h ⊢
      cases hd : c.setPattern t.name text with
      | error e =>
        rw [hd] at h
        cases h
      | ok d =>
        rw [hd] at h
        rw [setPattern_withCheckExists on hd]
        exact ih h

/-- A pattern only counts as long as its argument is open. -/
theorem alike_bindAll_of_setPattern {text : Text} (h : c.setPattern a text = .ok d)
    (ha : (c.bindAll t).values.contains a = true) : Alike (c.bindAll t) (d.bindAll t) := by
  obtain ⟨_, table, htable, rfl⟩ := setPattern_eq_ok h
  refine ⟨congrArg (Text.splitBy Atom.isSlash) (Template.atoms_setPatternIn ha), rfl, ?_⟩
  intro n hn
  refine PatternTable.allows_of_set htable fun hname => ?_
  subst hname
  rw [(mem_openNames.1 hn).2] at ha
  cases ha

theorem alike_bindAll_of_setPatterns {target : Target} (h : c.setPatterns [target] = .ok d)
    (ha : (c.bindAll t).values.contains target.name = true) :
    Alike (c.bindAll t) (d.bindAll t) := by
  rw [setPatterns, List.foldlM_cons] at h
  cases hpattern : target.pattern with
  | none =>
    rw [hpattern] at h
    cases h
    exact .refl _
  | some text =>
    rw [hpattern] at h
    dsimp only at h
    cases hd : c.setPattern target.name text with
    | error e =>
      rw [hd] at h
      cases h
    | ok d' =>
      rw [hd] at h
      cases h
      exact alike_bindAll_of_setPattern hd ha

end Crumb

end PathTemplates
