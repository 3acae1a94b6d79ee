import PathTemplates.Proofs.Listing.Soundness

namespace PathTemplates

/-- A value with a line feed is all of the component. -/
def Component.FeedsAlone (value : Text → Option Text) (k : Component) : Prop :=
  ∀ n ∈ k.names, '\n' ∈ (value n).getD [] → k.length = 1

instance (value : Text → Option Text) (k : Component) : Decidable (k.FeedsAlone value) :=
  inferInstanceAs (Decidable (∀ n ∈ k.names, '\n' ∈ (value n).getD [] → k.length = 1))

/-- Values without slashes bring none in. -/
theorem Component.Unslashed.fill {value : Text → Option Text} {k : Component} (h : k.Unslashed)
    (hvalue : ∀ n ∈ k.names, ∃ v, value n = some v ∧ '/' ∉ v) : '/' ∉ k.fill value := by
  induction k with
  | nil => simp
  | cons a k ih =>
    obtain ⟨ha, hk⟩ := List.forall_mem_cons.1 h
    rw [fill_cons, List.mem_append, not_or]
    cases a with
    | char c =>
      refine ⟨fun hc => ?_, ih hk hvalue⟩
      cases List.mem_singleton.1 hc
      cases ha
    | argument p =>
      obtain ⟨⟨v, hv, hslash⟩, hrest⟩ :=
        List.forall_mem_cons.1 (show ∀ n ∈ p.name :: names k, _ from hvalue)
      rw [Atom.fill, hv]
      exact ⟨hslash, ih hk hrest⟩

theorem Component.fill_ne_nil {value : Text → Option Text} {k : Component} {n v : Text}
    (hn : n ∈ k.names) (hv : value n = some v) (hne : v ≠ []) : k.fill value ≠ [] := by
  induction k with
  | nil => cases hn
  | cons a k ih =>
    rw [fill_cons, ne_eq, List.append_eq_nil_iff, not_and_or]
    cases a with
    | char c => exact .inl (List.cons_ne_nil _ _)
    | argument p =>
      rcases List.mem_cons.1 (show n ∈ p.name :: names k from hn) with rfl | hn
      · refine .inl ?_
        rw [Atom.fill, hv]
        exact hne
      · exact .inr (ih hn)

namespace Crumb

variable {fs : FileSystem} {c : Crumb} {u w : Assignment} {ks : List Component} {ts : List Text}
  {k : Component} {value : Text → Option Text}

/-- With its values the component could be the name of an entry that a listing takes up. -/
structure Eligible (c : Crumb) (value : Text → Option Text) (k : Component) : Prop where
  name : FileName (k.fill value)
  kept : c.ignore.ignores (k.fill value) = false
  single : k.names.length ≤ 1
  bound : ∀ n ∈ k.names, ∃ v, value n = some v ∧ v ≠ [] ∧ c.patterns.allows n v = true

/-- The values of the arguments, in the order of the components. -/
def rowOf (value : Text → Option Text) (ks : List Component) : Assignment :=
  (ks.flatMap Component.names).map fun n => ⟨n, (value n).getD []⟩

theorem rowOf_cons (value : Text → Option Text) (k : Component) (ks : List Component) :
    rowOf value (k :: ks) = rowOf value [k] ++ rowOf value ks := by
  simp [rowOf]

theorem names_rowOf (value : Text → Option Text) (c : Crumb) :
    (rowOf value c.components).names = c.openNames := by
  rw [rowOf, flatMap_names_components, Assignment.names, List.map_map]
  exact List.map_id _

theorem rowOf_perm (h : u.names.Perm c.openNames) (hnodup : u.names.Nodup) :
    (rowOf u.get? c.components).Perm u := by
  have hperm := h.symm.map fun n => (⟨n, (u.get? n).getD []⟩ : Binding)
  rwa [Assignment.map_names hnodup, ← flatMap_names_components] at hperm

theorem Eligible.bindingsFor_iff {bindings : Assignment} (h : c.Eligible value k)
    (hopen : k.isOpen = true) :
    c.bindingsFor k (k.fill value) = some bindings ↔
      bindings = rowOf value [k] ∧ k.FeedsAlone value := by
  have hlength : k.names.length ≠ 0 := fun e => by
    simp [Component.isOpen, List.length_eq_zero_iff.1 e] at hopen
  obtain ⟨n, hn⟩ := List.length_eq_one_iff.1
    (Nat.le_antisymm h.single (Nat.one_le_iff_ne_zero.2 hlength))
  obtain ⟨v, hv, hne, hallowed⟩ := h.bound n (by rw [hn]; exact List.mem_singleton_self n)
  have hrow : rowOf value [k] = [⟨n, v⟩] := by simp [rowOf, hn, hv]
  rw [bindingsFor_eq_some, Component.matchEntry_fill_iff hn hv hne, hrow, Component.FeedsAlone, hn]
  constructor
  · rintro ⟨_, ⟨hbindings, halone⟩, _⟩
    refine ⟨hbindings, fun m hm => ?_⟩
    rw [List.mem_singleton.1 hm, hv]
    exact halone
  · rintro ⟨hbindings, halone⟩
    have hfeed := halone n (List.mem_singleton_self n)
    rw [hv] at hfeed
    refine ⟨h.kept, ⟨hbindings, hfeed⟩, ?_⟩
    rw [hbindings]
    simpa using hallowed

theorem fills_rowOf (h : ∀ k ∈ ks, k.isOpen = true → c.Eligible value k)
    (halone : ∀ k ∈ ks, k.FeedsAlone value) :
    Fills c ks (rowOf value ks) (ks.map (Component.fill value)) := by
  induction ks with
  | nil => exact .nil
  | cons k ks ih =>
    obtain ⟨hk, hks⟩ := List.forall_mem_cons.1 h
    obtain ⟨hfeed, hfeeds⟩ := List.forall_mem_cons.1 halone
    have hrest := ih hks hfeeds
    rw [List.map_cons, rowOf_cons]
    cases hopen : k.isOpen with
    | true =>
      have eligible := hk hopen
      exact .entry hopen eligible.name ((eligible.bindingsFor_iff hopen).2 ⟨rfl, hfeed⟩) hrest
    | false =>
      have hrow : rowOf value [k] = [] := by simp [rowOf, Component.isOpen_eq_false_iff.1 hopen]
      rw [hrow, Component.fill_of_closed hopen]
      exact .literal hopen hrest

theorem feedsAlone_of_fills (h : ∀ k ∈ ks, k.isOpen = true → c.Eligible value k)
    (hfills : Fills c ks w (ks.map (Component.fill value))) : ∀ k ∈ ks, k.FeedsAlone value := by
  induction ks generalizing w with
  | nil => simp
  | cons k ks ih =>
    obtain ⟨hk, hks⟩ := List.forall_mem_cons.1 h
    generalize hts : (k :: ks).map (Component.fill value) = ts at hfills
    cases hfills with
    | literal closed rest =>
      obtain ⟨_, rfl⟩ := List.cons_eq_cons.1 hts
      refine List.forall_mem_cons.2 ⟨?_, ih hks rest⟩
      intro n hn
      rw [Component.isOpen_eq_false_iff.1 closed] at hn
      cases hn
    | entry isOpen name fits rest =>
      obtain ⟨rfl, rfl⟩ := List.cons_eq_cons.1 hts
      exact List.forall_mem_cons.2 ⟨(((hk isOpen).bindingsFor_iff isOpen).1 fits).2, ih hks rest⟩

/-- A path that is there has no piece with a NUL in it, so that each piece that is filled in could
be the name of an entry. -/
theorem fileName_of_pathExists (hslash : ∀ t ∈ ts, '/' ∉ t)
    (hthere : fs.pathExists (Text.join ['/'] ts) = true) :
    ∀ t ∈ ts, t ≠ [] → t ≠ ['.'] → t ≠ ['.', '.'] → FileName t := by
  intro t ht hne hdot hdots
  have hfollows := Path.follows_join hslash (FileSystem.ne_nil_of_pathExists hthere)
  obtain ⟨_, _, _, leads⟩ := (FileSystem.pathExists_iff hfollows (List.ne_nil_of_mem ht)).1 hthere
  exact ⟨hne, hslash t ht, leads.no_nul t ht, hdot, hdots⟩

/-- A path from the template that is there can be walked to. -/
theorem Fills.pathExists_reached (h : Fills c c.components u ts)
    (hthere : fs.pathExists (Text.join ['/'] ts) = true) : fs.pathExists (c.reached ts) = true :=
  FileSystem.pathExists_of_join (follows_reached h (FileSystem.ne_nil_of_pathExists hthere))
    (h.no_slash unslashed_components) hthere

theorem exists_mem_of_openNames_subset (h : c.openNames ⊆ u.names) {n : Text}
    (hk : k ∈ c.components) (hn : n ∈ k.names) : ∃ b ∈ u, b.name = n := by
  refine List.mem_map.1 (h ?_)
  rw [← flatMap_names_components]
  exact List.mem_flatMap.2 ⟨k, hk, hn⟩

theorem no_slash_fill (hopens : c.Opens u) (hall : c.openNames ⊆ u.names)
    (hslash : ∀ b ∈ u, '/' ∉ b.value) :
    ∀ t ∈ c.components.map (Component.fill u.get?), '/' ∉ t := by
  refine List.forall_mem_map.2 fun k hk => (unslashed_components k hk).fill fun n hn => ?_
  obtain ⟨b, hb, rfl⟩ := exists_mem_of_openNames_subset hall hk hn
  exact ⟨b.value, hopens.get?_of_mem b hb, hslash b hb⟩

/-- What is filled in on a path that is there could be the name of an entry, dots apart. -/
theorem eligible_of_pathExists (hopens : c.Opens u) (hall : c.openNames ⊆ u.names)
    (hvalue : ∀ b ∈ u, b.value ≠ [] ∧ '/' ∉ b.value ∧ c.patterns.allows b.name b.value = true)
    (hthere : fs.pathExists
      (Text.join ['/'] (c.components.map (Component.fill u.get?))) = true)
    (hk : k ∈ c.components) (hopen : k.isOpen = true) (hsingle : k.names.length ≤ 1)
    (hname : k.fill u.get? ≠ ['.'] ∧ k.fill u.get? ≠ ['.', '.'] ∧
      c.ignore.ignores (k.fill u.get?) = false) : c.Eligible u.get? k := by
  obtain ⟨hdot, hdots, hkept⟩ := hname
  have hbound : ∀ n ∈ k.names, ∃ v, u.get? n = some v ∧ v ≠ [] ∧ c.patterns.allows n v = true := by
    intro n hn
    obtain ⟨b, hb, rfl⟩ := exists_mem_of_openNames_subset hall hk hn
    obtain ⟨hne, _, hallowed⟩ := hvalue b hb
    exact ⟨b.value, hopens.get?_of_mem b hb, hne, hallowed⟩
  have hnil : k.fill u.get? ≠ [] := by
    obtain ⟨n, hn⟩ := List.exists_mem_of_ne_nil k.names (by simpa [Component.isOpen] using hopen)
    obtain ⟨v, hv, hne, _⟩ := hbound n hn
    exact Component.fill_ne_nil hn hv hne
  have hslash := no_slash_fill hopens hall fun b hb => (hvalue b hb).2.1
  exact ⟨fileName_of_pathExists hslash hthere _ (List.mem_map_of_mem hk) hnil hdot hdots, hkept,
    hsingle, hbound⟩

/-- Where paths have to be there and no component has more than one open argument, values whose
path is there are listed, in the order of the template, just if none of them has a line feed next to
other text. -/
theorem mem_unfoldValues_iff_feedsAlone (fs : FileSystem) (hexists : c.checkExists = true)
    (hsingle : ∀ k ∈ c.components, k.names.length ≤ 1) (hnames : u.names.Perm c.openNames)
    (hvalue : ∀ b ∈ u, b.value ≠ [] ∧ '/' ∉ b.value ∧ c.patterns.allows b.name b.value = true)
    (hname : ∀ k ∈ c.components, k.isOpen = true → k.fill u.get? ≠ ['.'] ∧
      k.fill u.get? ≠ ['.', '.'] ∧ c.ignore.ignores (k.fill u.get?) = false)
    (hthere : ∃ d, c.replace u = .ok d ∧ d.pathExists fs = true) :
    ∃ row, row.names = c.openNames ∧ row.Perm u ∧
      (row ∈ c.unfoldValues fs ↔ ∀ k ∈ c.components, k.FeedsAlone u.get?) := by
  have hopens : c.Opens u :=
    ⟨hnames.nodup_iff.2 (c.distinct.filter _),
      fun b hb => hnames.subset (List.mem_map_of_mem hb)⟩
  have hall := hnames.symm.subset
  have hpath := (pathExists_replace_iff hopens hall).1 hthere
  have heligible : ∀ k ∈ c.components, k.isOpen = true → c.Eligible u.get? k :=
    fun k hk hopen => eligible_of_pathExists hopens hall hvalue hpath hk hopen (hsingle k hk)
      (hname k hk hopen)
  have hrow := rowOf_perm hnames hopens.nodup
  refine ⟨rowOf u.get? c.components, names_rowOf .., hrow, ?_⟩
  rw [mem_unfoldValues_iff_fills hexists]
  constructor
  · intro ⟨ts, hts, _⟩
    have htexts : ts = c.components.map (Component.fill u.get?) :=
      hts.eq_map_fill fun b hb => hopens.get?_of_mem b (hrow.mem_iff.1 hb)
    exact feedsAlone_of_fills heligible (htexts ▸ hts)
  · intro halone
    have hfills := fills_rowOf heligible halone
    exact ⟨_, hfills, hfills.pathExists_reached hpath⟩

/-- `x{a}` -/
def tagged : Crumb where
  template := ⟨[.literal ['x'], .argument ⟨['a'], none, ⟨1, 4⟩⟩]⟩
  values := .empty
  patterns := .empty .glob
  ignore := .empty
  checkExists := true
  distinct := by decide

/-- Two files, one with a line feed in its name. -/
def taggedFiles : FileSystem where
  nodes := [([.text ['x', '1']], .file), ([.text ['x', '1', '\n', '2']], .file)]
  current := []
  distinct := by decide
  named := by decide
  grounded := by decide

theorem components_tagged :
    tagged.components = [[.char 'x', .argument ⟨['a'], none, ⟨1, 4⟩⟩]] := rfl

theorem length_names_tagged : ∀ k ∈ tagged.components, k.names.length ≤ 1 := by
  rw [components_tagged]
  decide

theorem mem_unfoldValues_tagged :
    (∀ k ∈ tagged.components, k.names.length ≤ 1) ∧
      [⟨['a'], ['1']⟩] ∈ tagged.unfoldValues taggedFiles := by
  have hnames : Assignment.names [⟨['a'], ['1']⟩] = tagged.openNames := rfl
  obtain ⟨row, _, hperm, hiff⟩ := mem_unfoldValues_iff_feedsAlone taggedFiles
    (u := [⟨['a'], ['1']⟩]) (c := tagged) rfl length_names_tagged (hnames ▸ List.Perm.refl _)
    (by decide) (by rw [components_tagged]; decide) ⟨_, rfl, rfl⟩
  rw [List.perm_singleton.1 hperm] at hiff
  refine ⟨length_names_tagged, hiff.2 ?_⟩
  rw [components_tagged]
  decide

/-- The other file is there, and its name reads as the component with the value in it, but it is not
listed. -/
theorem exists_unlisted_tagged : ∃ u : Assignment,
    tagged.checkExists = true ∧
      (∀ k ∈ tagged.components, k.names.length ≤ 1) ∧ u.names = tagged.openNames ∧
      (∀ b ∈ u, b.value ≠ [] ∧ '/' ∉ b.value ∧ tagged.patterns.allows b.name b.value = true) ∧
      (∀ k ∈ tagged.components, k.isOpen = true → k.fill u.get? ≠ ['.'] ∧
        k.fill u.get? ≠ ['.', '.'] ∧ tagged.ignore.ignores (k.fill u.get?) = false) ∧
      (∃ d, tagged.replace u = .ok d ∧ d.pathExists taggedFiles = true) ∧
      u ∉ tagged.unfoldValues taggedFiles := by
  let u : Assignment := [⟨['a'], ['1', '\n', '2']⟩]
  refine ⟨u, rfl, length_names_tagged, rfl, by decide,
    by rw [components_tagged]; decide, ⟨_, rfl, rfl⟩, fun hmem => ?_⟩
  obtain ⟨ts, hts, _⟩ := (mem_unfoldValues_iff_fills rfl).1 hmem
  have heligible : ∀ k ∈ tagged.components, k.isOpen = true → tagged.Eligible u.get? k := by
    rw [components_tagged]
    refine List.forall_mem_singleton.2 fun _ => ⟨by decide, rfl, by decide, fun n hn => ?_⟩
    cases List.mem_singleton.1 (show n ∈ [['a']] from hn)
    exact ⟨_, rfl, by decide, rfl⟩
  have htexts := hts.eq_map_fill hts.opens.get?_of_mem
  have halone := feedsAlone_of_fills heligible (htexts ▸ hts)
  rw [components_tagged] at halone
  revert halone
  decide

end Crumb

end PathTemplates
