import PathTemplates.Proofs.Crumb.Creation
import PathTemplates.Proofs.FileSystem.Trees
import PathTemplates.Proofs.Listing.Completeness

namespace PathTemplates

namespace Crumb

open FileSystem (Made)

variable {fs fs' : FileSystem} {c : Crumb} {u row : Assignment} {rows : List Assignment}
  {ks : List Component} {ts names made : List Text} {absolute : Bool} {p : Text} {loc : Location}

/-- The components, but for the empty one in front of a slash at the start. -/
def named (c : Crumb) : List Component :=
  match c.components with
  | [] :: k :: ks => k :: ks
  | ks => ks

/-- No component has more than one open argument, and those that have none could be the names of
entries. -/
structure Ordinary (c : Crumb) : Prop where
  single : ∀ k ∈ c.components, k.names.length ≤ 1
  literal : ∀ k ∈ c.named, k.isOpen = false →
    k.text ≠ [] ∧ k.text ≠ ['.'] ∧ k.text ≠ ['.', '.']

/-- A row has values for just the open arguments, such that what is filled in could be the names of
entries that a listing takes up. -/
structure Suits (c : Crumb) (row : Assignment) : Prop where
  names : row.names.Perm c.openNames
  values : ∀ b ∈ row, b.value ≠ [] ∧ '/' ∉ b.value ∧ '\n' ∉ b.value ∧
    c.patterns.allows b.name b.value = true
  entries : ∀ k ∈ c.components, k.isOpen = true → k.fill row.get? ≠ ['.'] ∧
    k.fill row.get? ≠ ['.', '.'] ∧ c.ignore.ignores (k.fill row.get?) = false

theorem exists_components_eq (c : Crumb) :
    ∃ absolute : Bool, c.components = if absolute then [] :: c.named else c.named := by
  unfold named
  split
  · next hcomponents => exact ⟨true, hcomponents⟩
  · exact ⟨false, rfl⟩

theorem Fills.exists_pieces (h : Fills c c.components u ts)
    (hcomponents : c.components = if absolute then [] :: c.named else c.named) :
    ∃ names, ts = Path.pieces absolute names ∧ Fills c c.named u names := by
  rw [hcomponents] at h
  cases absolute with
  | false => exact ⟨ts, rfl, h⟩
  | true =>
    cases h with
    | literal _ rest => exact ⟨_, rfl, rest⟩
    | entry isOpen => cases isOpen

theorem Fills.length_eq (h : Fills c ks u ts) : ts.length = ks.length := by
  induction h with
  | nil => rfl
  | literal _ _ ih | entry _ _ _ _ ih => exact congrArg (· + 1) ih

theorem Fills.fileNames (h : Fills c ks u ts)
    (hks : ∀ k ∈ ks, k.isOpen = false → k.text ≠ [] ∧ k.text ≠ ['.'] ∧ k.text ≠ ['.', '.'])
    (hslash : ∀ t ∈ ts, '/' ∉ t) (hnul : ∀ t ∈ ts, '\x00' ∉ t) : ∀ t ∈ ts, FileName t := by
  induction h with
  | nil => nofun
  | literal closed _ ih =>
    obtain ⟨hk, hks⟩ := List.forall_mem_cons.1 hks
    obtain ⟨hslash, hslashes⟩ := List.forall_mem_cons.1 hslash
    obtain ⟨hnul, hnuls⟩ := List.forall_mem_cons.1 hnul
    obtain ⟨hne, hdot, hdots⟩ := hk closed
    exact List.forall_mem_cons.2 ⟨⟨hne, hslash, hnul, hdot, hdots⟩, ih hks hslashes hnuls⟩
  | entry _ name _ _ ih =>
    exact List.forall_mem_cons.2 ⟨name, ih (List.forall_mem_cons.1 hks).2
      (List.forall_mem_cons.1 hslash).2 (List.forall_mem_cons.1 hnul).2⟩

theorem named_ne_nil (c : Crumb) : c.named ≠ [] := by
  have hne : c.components ≠ [] := Text.splitBy_ne_nil _ _
  unfold named
  split
  · exact List.cons_ne_nil _ _
  · exact hne

/-- A path that is there goes along names, one for each component. -/
theorem Fills.exists_names (h : Fills c c.components u ts) (ordinary : c.Ordinary)
    (hcomponents : c.components = if absolute then [] :: c.named else c.named)
    (hthere : fs.pathExists (c.reached ts) = true) :
    ∃ names, ts = Path.pieces absolute names ∧ names.length = c.named.length ∧
      (∀ t ∈ names, FileName t) ∧
      ∃ follow loc, fs.Leads follow (Path.pieces absolute names) loc := by
  have hfollows := follows_reached h (h.join_ne_nil hthere)
  obtain ⟨_, follow, loc, hleads⟩ :=
    (FileSystem.pathExists_iff hfollows h.components_ne_nil).1 hthere
  obtain ⟨names, rfl, hnamed⟩ := h.exists_pieces hcomponents
  have hsub : ∀ t ∈ names, t ∈ Path.pieces absolute names := by
    cases absolute with
    | false => exact fun t ht => ht
    | true => exact fun t ht => List.mem_cons_of_mem _ ht
  have hslash := h.no_slash unslashed_components
  exact ⟨names, rfl, hnamed.length_eq, hnamed.fileNames ordinary.literal
    (fun t ht => hslash t (hsub t ht)) (fun t ht => hleads.no_nul t (hsub t ht)), follow, loc,
    hleads⟩

namespace Suits

theorem opens (h : c.Suits row) : c.Opens row :=
  ⟨h.names.nodup_iff.2 (c.distinct.filter _), fun _ hb => h.names.subset (List.mem_map_of_mem hb)⟩

theorem project_eq (h : c.Suits row) :
    row.project c.openNames = some (rowOf row.get? c.components) := by
  have hrow := rowOf_perm h.names h.opens.nodup
  exact Assignment.project_eq_some_iff.2
    ⟨names_rowOf .., fun b hb => h.opens.get?_of_mem b (hrow.mem_iff.1 hb)⟩

theorem split_eq (h : c.Suits row) : (c.bindAll row).split.1 =
    Text.join ['/'] (c.components.map (Component.fill row.get?)) := by
  have hclosed := hasOpenNames_bindAll h.opens h.names.symm.subset
  rw [split_of_closed (hasOpenNames_eq_false_iff.1 hclosed), path_bindAll h.opens]

theorem join_ne_nil (h : c.Suits row) (ordinary : c.Ordinary) :
    Text.join ['/'] (c.components.map (Component.fill row.get?)) ≠ [] := by
  rw [ne_eq, Path.join_eq_nil_iff, List.map_eq_nil_iff, not_or]
  refine ⟨Text.splitBy_ne_nil _ _, fun hroot => ?_⟩
  obtain ⟨k, hk, hfill⟩ := List.map_eq_singleton_iff.1 hroot
  have hmem : k ∈ c.components := hk ▸ List.mem_singleton_self k
  cases hopen : k.isOpen with
  | false =>
    have hnamed : k ∈ c.named := by
      simp [named, hk]
    rw [Component.fill_of_closed hopen] at hfill
    exact (ordinary.literal k hnamed hopen).1 hfill
  | true =>
    obtain ⟨n, hn⟩ := List.exists_mem_of_ne_nil k.names (by simpa [Component.isOpen] using hopen)
    obtain ⟨b, hb, rfl⟩ := exists_mem_of_openNames_subset h.names.symm.subset hmem hn
    exact Component.fill_ne_nil hn (h.opens.get?_of_mem b hb) (h.values b hb).1 hfill

/-- The row fills the components if its folder is there. -/
theorem fills (h : c.Suits row) (ordinary : c.Ordinary)
    (hthere : fs.pathExists (Text.join ['/'] (c.components.map (Component.fill row.get?))) = true) :
    Fills c c.components (rowOf row.get? c.components)
      (c.components.map (Component.fill row.get?)) := by
  have hvalues : ∀ b ∈ row, b.value ≠ [] ∧ '/' ∉ b.value ∧
      c.patterns.allows b.name b.value = true := fun b hb =>
    ⟨(h.values b hb).1, (h.values b hb).2.1, (h.values b hb).2.2.2⟩
  refine fills_rowOf (fun k hk hopen => ?_) fun k hk n hn hfeed => ?_
  · exact eligible_of_pathExists h.opens h.names.symm.subset hvalues hthere hk hopen
      (ordinary.single k hk) (h.entries k hk hopen)
  · obtain ⟨b, hb, rfl⟩ := exists_mem_of_openNames_subset h.names.symm.subset hk hn
    rw [h.opens.get?_of_mem b hb] at hfeed
    exact absurd hfeed (h.values b hb).2.2.1

end Suits

theorem pathExists_of_isFolder (h : fs.isFolder p = true) : fs.pathExists p = true := by
  unfold FileSystem.isFolder at h
  split at h
  · next loc hloc => simp [FileSystem.pathExists, FileSystem.isOk_iff, hloc]
  · cases h

/-- To make folders for rows that are in order is to make them one after another. -/
theorem makeTree_eq_touchAll (hsuits : ∀ row ∈ rows, c.Suits row) (hrows : rows ≠ [])
    (h : c.makeTree fs rows = (fs', .ok made)) :
    touchAll fs (rows.map c.bindAll) = (fs', .ok made) := by
  obtain ⟨e, htree⟩ | ⟨cs, htree, hbound⟩ := makeTree_eq_or c rows
  · rw [htree] at h
    cases h
  · have hreplace := hbound hrows
    rw [replaceEach_eq fun row hrow => (hsuits row hrow).opens] at hreplace
    cases hreplace
    rw [← h, htree]

theorem mem_unfoldValues_of_makeTree (hexists : c.checkExists = true) (ordinary : c.Ordinary)
    (hsuits : c.Suits row) (hfolder : fs'.isFolder (c.bindAll row).split.1 = true) :
    rowOf row.get? c.components ∈ c.unfoldValues fs' := by
  rw [hsuits.split_eq] at hfolder
  have hthere := pathExists_of_isFolder hfolder
  have hfills := hsuits.fills ordinary hthere
  exact (mem_unfoldValues_iff_fills hexists).2 ⟨_, hfills, hfills.pathExists_reached hthere⟩

/-- The folders that are asked for go along beginnings of the names that the row gives. -/
theorem exists_prefix_of_mem_wanted (hsuits : c.Suits row) (ordinary : c.Ordinary)
    (hnames : ∀ t ∈ names, FileName t)
    (hrow : c.components.map (Component.fill row.get?) = Path.pieces absolute names)
    (hp : p ∈ (c.bindAll row).wanted) :
    ∃ before, before <+: names ∧ p = Path.ofPieces (Path.pieces absolute before) := by
  have hjoin := hsuits.join_ne_nil ordinary
  rw [wanted, hsuits.split_eq, ← Path.ofPieces_eq_join hjoin, hrow] at hp
  obtain rfl | hp := List.mem_cons.1 hp
  · exact ⟨names, List.prefix_refl _, rfl⟩
  · exact Path.exists_of_mem_above hnames hp

theorem location_injective {names names' : List Text} {loc : Location}
    (h : (names.map EntryName.text).reverse ++ loc = (names'.map EntryName.text).reverse ++ loc) :
    names = names' := by
  have hmap := List.reverse_injective (List.append_cancel_right h)
  exact List.map_injective_iff.2 (fun _ _ e => EntryName.text.inj e) hmap

/-- What leads to a new folder with one name for each component is one of the rows. -/
theorem eq_of_new (hsuits : c.Suits row) (ordinary : c.Ordinary)
    (hcomponents : c.components = if absolute then [] :: c.named else c.named)
    (hfolder : fs'.isFolder (c.bindAll row).split.1 = true) (linkless : fs'.Linkless)
    (hfills : Fills c c.components u (Path.pieces absolute names))
    (hlength : names.length = c.named.length)
    (hp : p ∈ (c.bindAll row).wanted)
    (hresolve : fs'.resolve true p =
      .ok ((names.map .text).reverse ++ fs'.start absolute)) :
    rowOf row.get? c.components = u := by
  rw [hsuits.split_eq] at hfolder
  have hthere := pathExists_of_isFolder hfolder
  have hrow := hsuits.fills ordinary hthere
  obtain ⟨names', hpieces, hlength', hnames', _⟩ :=
    hrow.exists_names ordinary hcomponents (hrow.pathExists_reached hthere)
  obtain ⟨before, hbegins, rfl⟩ :=
    exists_prefix_of_mem_wanted hsuits ordinary hnames' hpieces hp
  have hbefore : ∀ t ∈ before, FileName t := fun t ht => hnames' t (hbegins.subset ht)
  -- An empty path leads nowhere.
  have hne : Path.pieces absolute before ≠ [] := by
    intro hnil
    rw [hnil] at hresolve
    cases hresolve
  obtain ⟨_, hleads⟩ := (FileSystem.resolve_eq_ok_iff
    (Path.follows_ofPieces (Path.no_slash_pieces hbefore)) hne).1 hresolve
  have hbefore : names = before := location_injective (linkless.eq_of_leads hbefore hleads)
  subst hbefore
  have hall : names = names' := hbegins.eq_of_length (hlength.trans hlength'.symm)
  rw [hpieces, ← hall] at hrow
  exact hrow.unique hfills

/-- In a tree without links, after folders have been made for some rows, a listing holds what it
held before and the rows, in the order of the template. -/
theorem unfoldValues_makeTree (linkless : fs.Linkless) (hexists : c.checkExists = true)
    (ordinary : c.Ordinary) (hrows : rows ≠ []) (hsuits : ∀ row ∈ rows, c.Suits row)
    (h : c.makeTree fs rows = (fs', .ok made)) :
    c.unfoldValues fs' =
      SortedList.ofList (c.unfoldValues fs ++ rows.filterMap (·.project c.openNames)) := by
  have htouch := makeTree_eq_touchAll hsuits hrows h
  have hmade : Made ((rows.map c.bindAll).flatMap wanted) fs fs' := by
    have hall := made_touchAll fs (rows.map c.bindAll)
    rwa [htouch] at hall
  obtain ⟨rfl, hfolders⟩ := touchAll_eq_ok htouch
  have hfolder : ∀ row ∈ rows, fs'.isFolder (c.bindAll row).split.1 = true := by
    intro row hrow
    refine hfolders _ (List.mem_map_of_mem (List.mem_map_of_mem hrow)) ?_
    rw [(hsuits row hrow).split_eq]
    exact (hsuits row hrow).join_ne_nil ordinary
  refine SortedList.eq_of_mem_iff (ascending_completions fs' c .all) SortedList.ascending_ofList
    fun u => ?_
  rw [SortedList.mem_ofList, List.mem_append, List.mem_filterMap]
  constructor
  · intro hu
    obtain ⟨ts, hfills, hthere⟩ := (mem_unfoldValues_iff_fills hexists).1 hu
    obtain ⟨absolute, hcomponents⟩ := exists_components_eq c
    obtain ⟨names, rfl, hlength, hnames, follow, loc, hleads⟩ :=
      hfills.exists_names ordinary hcomponents hthere
    have hloc := (linkless.made hmade).eq_of_leads hnames hleads
    have hne : names ≠ [] := List.ne_nil_of_length_pos
      (hlength ▸ List.length_pos_iff.2 (named_ne_nil c))
    obtain ⟨n, hn⟩ := (linkless.made hmade).exists_node hnames hne hleads
    -- What the path leads to was there before, or it has been made for a row.
    obtain hold | ⟨_, p, hp, hresolve⟩ := hmade.node?_or hn
    · refine .inl ((mem_unfoldValues_iff_fills hexists).2 ⟨_, hfills, ?_⟩)
      have hfollows := follows_reached hfills (hfills.join_ne_nil hthere)
      have hlength := ((FileSystem.pathExists_iff hfollows hfills.components_ne_nil).1 hthere).1
      have hstart : fs'.start absolute = fs.start absolute := by
        rw [FileSystem.start, hmade.includedIn.current, FileSystem.start]
      rw [hloc, hstart] at hold
      exact (FileSystem.pathExists_iff hfollows hfills.components_ne_nil).2
        ⟨hlength, follow, _, FileSystem.leads_of_node? linkless hnames hleads hold⟩
    · obtain ⟨d, hd, hp⟩ := List.mem_flatMap.1 hp
      obtain ⟨row, hrow, rfl⟩ := List.mem_map.1 hd
      rw [hloc] at hresolve
      have heq := eq_of_new (hsuits row hrow) ordinary hcomponents (hfolder row hrow)
        (linkless.made hmade) hfills hlength hp hresolve
      exact .inr ⟨row, hrow, heq ▸ (hsuits row hrow).project_eq⟩
  · rintro (hu | ⟨row, hrow, hu⟩)
    · obtain ⟨ts, hfills, hthere⟩ := (mem_unfoldValues_iff_fills hexists).1 hu
      exact (mem_unfoldValues_iff_fills hexists).2
        ⟨ts, hfills, hmade.includedIn.pathExists hthere⟩
    · rw [(hsuits row hrow).project_eq] at hu
      cases hu
      exact mem_unfoldValues_of_makeTree hexists ordinary (hsuits row hrow)
        (hfolder row hrow)

/-- To `s/f` the folders `s/g` and `r/h` are added, but neither `s/h` nor `r/f`. -/
theorem unfoldValues_makeTree_gap : ∃ fs' made,
    (gap 0).makeTree gapFiles [[⟨['x'], ['s']⟩, ⟨['y'], ['g']⟩], [⟨['y'], ['h']⟩, ⟨['x'], ['r']⟩]] =
      (fs', .ok made) ∧
    (gap 0).unfoldValues fs' = SortedList.ofList ((gap 0).unfoldValues gapFiles ++
      [[⟨['x'], ['s']⟩, ⟨['y'], ['g']⟩], [⟨['x'], ['r']⟩, ⟨['y'], ['h']⟩]]) := by
  have linkless : gapFiles.Linkless := FileSystem.linkless_of_nodes (by decide)
  have hcomponents : (gap 0).components =
      [[.argument ⟨['x'], none, ⟨0, 3⟩⟩], [.argument ⟨['y'], none, ⟨4, 7⟩⟩]] := components_gap 0
  have ordinary : (gap 0).Ordinary :=
    ⟨by rw [hcomponents]; decide, by rw [named, hcomponents]; decide⟩
  have hsuits : ∀ row ∈ ([[⟨['x'], ['s']⟩, ⟨['y'], ['g']⟩],
      [⟨['y'], ['h']⟩, ⟨['x'], ['r']⟩]] : List Assignment), (gap 0).Suits row := by
    refine List.forall_mem_cons.2 ⟨?_, List.forall_mem_singleton.2 ?_⟩
    · exact ⟨by decide, by decide, by rw [hcomponents]; decide⟩
    · exact ⟨by decide, by decide, by rw [hcomponents]; decide⟩
  exact ⟨_, _, rfl, unfoldValues_makeTree linkless rfl ordinary
    (List.cons_ne_nil _ _) hsuits rfl⟩

end Crumb

end PathTemplates
