import Mathlib.Data.List.Flatten
import Mathlib.Data.List.Sort
import PathTemplates.Proofs.Crumb.Rooting
import PathTemplates.Proofs.FileSystem.Current
import PathTemplates.Proofs.Listing.Beneath
import PathTemplates.Proofs.Listing.Pruning

namespace PathTemplates

namespace Crumb

open PathTemplates.Path (Beneath trunk)

variable {fs : FileSystem} {c e : Crumb} {more : Prop} {folder p stop : Text}
  {ks : List Component} {t u row : Assignment} {loc : Location}

theorem front_rootedAt (c : Crumb) (folder : Text) :
    (c.rootedAt folder).front = trunkOf folder ++ c.front := by
  obtain ⟨n, hcomponents⟩ := components_rootedAt c folder
  have hfront : c.front.map (Component.relabel (Placeholder.moved n)) = c.front :=
    (List.map_congr_left fun k hk => Component.relabel_of_closed (closed_of_mem_front k hk)).trans
      (List.map_id _)
  rw [front_of_closed_append hcomponents (closed_of_mem_trunkOf folder), List.takeWhile_map]
  simp only [Function.comp_def, Component.isOpen_relabel (Placeholder.name_moved n)]
  exact congrArg (trunkOf folder ++ ·) hfront

theorem shape_rootedAt (c : Crumb) (folder : Text) : (c.rootedAt folder).shape =
    (trunkOf folder).map (Component.relabel Placeholder.bare) ++ c.shape := by
  obtain ⟨n, hcomponents⟩ := components_rootedAt c folder
  rw [shape, hcomponents, List.map_append, List.map_map, shape]
  simp only [Function.comp_def, Component.relabel_relabel]
  rfl

/-- Where there is a path at all, the walk starts at the joined components in front of the first
open one. -/
theorem split_eq_ofPieces (h : c.path ≠ []) :
    c.split.1 = Path.ofPieces (c.front.map Component.text) := by
  by_cases hback : c.back = []
  · rw [path_eq_join] at h
    rw [split_of_back_eq_nil hback, front_of_back_eq_nil hback, Path.ofPieces_eq_join h]
  · exact split_of_back_ne_nil hback

/-- The walk starts below the folder where it starts from there. -/
theorem beneath_split (hrelative : c.isAbsolute = false) (hpath : c.path ≠ []) (folder : Text) :
    Beneath folder (c.front.map Component.text) (c.rootedAt folder).split.1 c.split.1 := by
  have hrooted : (c.rootedAt folder).path ≠ [] := by
    rw [path_rootedAt, Path.below_eq]
    simp
  have hsplit := split_eq_ofPieces hpath
  rw [isAbsolute, hsplit, (Path.follows_ofPieces slashless_front).absolute] at hrelative
  rw [hsplit, split_eq_ofPieces hrooted, front_rootedAt, List.map_append, map_text_trunkOf]
  exact .ofPieces slashless_front (of_decide_eq_false hrelative)

/-- The path in front of the first open component, or one further on, with the values that the row
gives to open arguments. -/
def PathOf (c : Crumb) (row : Assignment) (p : Text) : Prop :=
  ∃ (value : Text → Text) (n : Nat), (∀ b ∈ row, b.name ∈ c.openNames → value b.name = b.value) ∧
    p = ((c.back.take n).map (Component.fill fun name => some (value name))).foldl Path.push
      c.split.1

/-- With the folder in front, all paths of the row that lead anywhere from there are in reach. -/
def InReach (fs : FileSystem) (folder : Text) (loc : Location) (c : Crumb) (row : Assignment) :
    Prop :=
  ∀ p, c.PathOf row p → (fs.movedTo loc).pathExists p = true → fs.InReach folder loc p

theorem ahead_eq_take_back {extent : Extent} {plan : Plan}
    (h : Plan.make? c.components c.checkExists extent = some plan) :
    plan.ahead (plan.nextOpen 0) = c.back.take (plan.stop - plan.nextOpen 0) := by
  obtain ⟨hcomponents, _⟩ := Plan.make?_eq_some h
  rw [Plan.ahead, List.drop_take, plan.drop_nextOpen_zero, hcomponents]
  rfl

theorem unslashed_ahead {extent : Extent} {plan : Plan}
    (h : Plan.make? c.components c.checkExists extent = some plan) :
    ∀ k ∈ plan.ahead (plan.nextOpen 0), k.Unslashed := fun k hk =>
  unslashed_back k (List.mem_of_mem_take (ahead_eq_take_back h ▸ hk))

theorem nodup_names_take_back (c : Crumb) (n : Nat) :
    ((c.back.take n).flatMap Component.names).Nodup := by
  have hsublist : (c.back.take n).Sublist c.components :=
    (List.take_sublist n _).trans (List.dropWhile_sublist _)
  have hopen : c.openNames.Nodup := c.distinct.filter _
  rw [← flatMap_names_components] at hopen
  exact hopen.sublist (hsublist.flatMap Component.names)

theorem front_ne_nil_of_back_eq_nil (h : c.back = []) : c.front.map Component.text ≠ [] := by
  rw [front_of_back_eq_nil h]
  exact mt List.map_eq_nil_iff.1 (Text.splitBy_ne_nil _ _)

theorem descends_rootedAt_iff {n : Nat} : Descends fs (c.rootedAt folder) more p
    (ks.map (Component.relabel (Placeholder.moved n))) u stop ↔ Descends fs c more p ks u stop := by
  have hshape : (ks.map (Component.relabel (Placeholder.moved n))).map
      (Component.relabel Placeholder.bare) = ks.map (Component.relabel Placeholder.bare) := by
    rw [List.map_map]
    simp only [Function.comp_def, Component.relabel_relabel]
    rfl
  constructor
  · intro h
    exact h.transfer hshape.symm (fun _ _ _ _ _ _ _ hkept => hkept) fun _ _ hallowed => hallowed
  · intro h
    exact h.transfer hshape (fun _ _ _ _ _ _ _ hkept => hkept) fun _ _ hallowed => hallowed

theorem make?_rootedAt (c : Crumb) (folder : Text) (extent : Extent) : ∃ n,
    Plan.make? (c.rootedAt folder).components (c.rootedAt folder).checkExists extent =
      (Plan.make? c.components c.checkExists extent).map
        (Plan.behind (trunkOf folder) (Placeholder.moved n)) := by
  obtain ⟨n, hcomponents⟩ := components_rootedAt c folder
  rw [hcomponents]
  exact ⟨n, Plan.make?_behind (closed_of_mem_trunkOf folder) (Placeholder.name_moved n) ..⟩

theorem make?_rootedAt_eq_none {extent : Extent}
    (h : Plan.make? c.components c.checkExists extent = none) (folder : Text) :
    Plan.make? (c.rootedAt folder).components (c.rootedAt folder).checkExists extent = none := by
  obtain ⟨n, hmake⟩ := make?_rootedAt c folder extent
  rw [hmake, h]
  rfl

/-- With a folder in front the walk goes down the same components as without it. -/
theorem mem_completions_rootedAt {extent : Extent} {plan : Plan}
    (h : Plan.make? c.components c.checkExists extent = some plan) :
    t ∈ (c.rootedAt folder).completions fs extent ↔ ∃ u stop,
      Descends fs c (plan.depth ≠ plan.last) (c.rootedAt folder).split.1
        (plan.ahead (plan.nextOpen 0)) u stop ∧
      (c.checkExists = true → fs.pathExists stop = true) ∧ t = u.take plan.kept := by
  obtain ⟨n, hmake⟩ := make?_rootedAt c folder extent
  rw [h, Option.map_some] at hmake
  have hahead := Plan.ahead_behind (f := Placeholder.moved n) (closed_of_mem_trunkOf folder)
    (Placeholder.name_moved n) plan
  have hmore : ((plan.behind (trunkOf folder) (Placeholder.moved n)).depth ≠
      (plan.behind (trunkOf folder) (Placeholder.moved n)).last) = (plan.depth ≠ plan.last) :=
    propext (not_congr Nat.add_left_cancel_iff)
  rw [mem_completions hmake, hahead, hmore]
  simp only [descends_rootedAt_iff]
  rfl

section

variable (hfolder : fs.FolderAt folder loc)
  (hb : Beneath folder (c.front.map Component.text) (c.rootedAt folder).split.1 c.split.1)
include hfolder hb

theorem completions_of_rootedAt {extent : Extent}
    (h : t ∈ (c.rootedAt folder).completions fs extent) :
    t ∈ c.completions (fs.movedTo loc) extent := by
  cases hplan : Plan.make? c.components c.checkExists extent with
  | none =>
    obtain ⟨ht, hexists⟩ := (mem_completions_of_none (make?_rootedAt_eq_none hplan folder)).1 h
    refine (mem_completions_of_none hplan).2 ⟨ht, fun hon => ?_⟩
    have hback := back_eq_nil_iff.2 (Plan.closed_of_make?_eq_none (hon ▸ hplan))
    exact FileSystem.pathExists_of_below hfolder hb (front_ne_nil_of_back_eq_nil hback)
      (hexists hon)
  | some plan =>
    obtain ⟨u, stop, hdescends, hexists, ht⟩ := (mem_completions_rootedAt hplan).1 h
    obtain ⟨stop', hdescends', hexists'⟩ := hdescends.of_below hfolder
      (unslashed_ahead hplan) hb (.inr (Plan.valid_of_make? hplan).exists_head_ahead)
    exact (mem_completions hplan).2 ⟨u, stop', hdescends', fun hon => hexists' (hexists hon), ht⟩

theorem completions_rootedAt {extent : Extent} (h : t ∈ c.completions (fs.movedTo loc) extent)
    (hreach : c.InReach fs folder loc t) : t ∈ (c.rootedAt folder).completions fs extent := by
  cases hplan : Plan.make? c.components c.checkExists extent with
  | none =>
    obtain ⟨rfl, hexists⟩ := (mem_completions_of_none hplan).1 h
    refine (mem_completions_of_none (make?_rootedAt_eq_none hplan folder)).2 ⟨rfl, fun hon => ?_⟩
    have hthere := hexists hon
    have hpath : c.PathOf [] c.split.1 := ⟨fun _ => [], 0, nofun, rfl⟩
    exact FileSystem.pathExists_below hfolder hb (hreach _ hpath hthere) hthere
  | some plan =>
    obtain ⟨u, stop, hdescends, hexists, rfl⟩ := (mem_completions hplan).1 h
    have hahead := ahead_eq_take_back hplan
    have hnodup : u.names.Nodup := by
      rw [names_of_descends hdescends, hahead]
      exact nodup_names_take_back c _
    let value : Text → Text := fun name => (u.get? name).getD []
    have hvalue : ∀ b ∈ u, value b.name = b.value := fun b hb => by
      show (u.get? b.name).getD [] = b.value
      rw [Assignment.get?_of_mem hnodup hb]
      rfl
    have hpaths (m : Nat) : c.PathOf (u.take plan.kept)
        ((((plan.ahead (plan.nextOpen 0)).take m).map
          (Component.fill fun name => some (value name))).foldl Path.push c.split.1) := by
      rw [hahead, List.take_take]
      exact ⟨value, _, fun b hb _ => hvalue b (List.mem_of_mem_take hb), rfl⟩
    obtain ⟨stop', hdescends', hexists'⟩ := hdescends.put_below hfolder
      (unslashed_ahead hplan) hb (.inr (Plan.valid_of_make? hplan).exists_head_ahead)
      (fun name => some (value name)) (fun b hb => congrArg some (hvalue b hb))
      fun m p hp => hreach p (hp ▸ hpaths m)
    exact (mem_completions_rootedAt hplan).2
      ⟨u, stop', hdescends', fun hon => hexists' (hexists hon), rfl⟩

end

theorem withTargets_eq_ok {ts : List Target} (h : c.withTargets ts = .ok e) :
    e.shape = c.shape ∧ e.values = c.values := by
  induction ts generalizing c with
  | nil =>
    cases h
    exact ⟨rfl, rfl⟩
  | cons target ts ih =>
    rw [withTargets] at h
    cases hname : c.checkName target.name with
    | error _ =>
      rw [hname] at h
      cases h
    | ok _ =>
      rw [hname] at h
      cases hpattern : target.pattern with
      | none =>
        rw [hpattern] at h
        exact ih h
      | some text =>
        rw [hpattern] at h
        dsimp only at h
        cases hd : c.setPattern target.name text with
        | error _ =>
          rw [hd] at h
          cases h
        | ok d =>
          rw [hd] at h
          obtain ⟨_, table, _, rfl⟩ := setPattern_eq_ok hd
          obtain ⟨hshape, hvalues⟩ := ih h
          exact ⟨hshape.trans (shape_setPattern ..), hvalues⟩

theorem PathOf.of_shape (h : e.shape = c.shape) (hp : e.PathOf row p) : c.PathOf row p := by
  obtain ⟨value, n, hvalue, rfl⟩ := hp
  have hfill (c : Crumb) :
      (c.back.take n).map (Component.fill fun name => some (value name)) =
        ((c.back.map (Component.relabel Placeholder.bare)).take n).map
          (Component.fill fun name => some (value name)) := by
    rw [← List.map_take, List.map_map]
    refine List.map_congr_left fun k _ => ?_
    exact (Component.fill_relabel Placeholder.name_bare fun _ _ => Option.some_ne_none _).symm
  rw [openNames_of_shape h] at hvalue
  refine ⟨value, n, hvalue, ?_⟩
  rw [start_of_shape h, hfill, hfill c, map_relabel_back_eq Placeholder.name_bare h]

theorem InReach.of_shape (h : e.shape = c.shape) (hreach : c.InReach fs folder loc row) :
    e.InReach fs folder loc row := fun p hp => hreach p (hp.of_shape h)

/-- A row is in reach only if the tuples are that it is read off. -/
theorem InReach.of_reads {names : List Text} (h : c.Reads t names row)
    (hreach : c.InReach fs folder loc row) : c.InReach fs folder loc t := by
  rintro p ⟨value, n, hvalue, hp⟩
  refine hreach p ⟨value, n, fun b hb hopen => ?_, hp⟩
  have hbound := get?_of_mem_openNames hopen
  have hread := h.2 b hb
  rw [hbound, Option.or_none] at hread
  exact hvalue ⟨b.name, b.value⟩ (Assignment.mem_of_get? hread) hopen

theorem beneath_of_shape (h : e.shape = c.shape)
    (hb : Beneath folder (c.front.map Component.text) (c.rootedAt folder).split.1 c.split.1) :
    Beneath folder (e.front.map Component.text) (e.rootedAt folder).split.1 e.split.1 := by
  have hrooted : (e.rootedAt folder).shape = (c.rootedAt folder).shape := by
    rw [shape_rootedAt, shape_rootedAt, h]
  rwa [front_eq_takeWhile_shape, h, ← front_eq_takeWhile_shape, start_of_shape hrooted,
    start_of_shape h]

/-- Of the second rows the first ones have all that are clear, and they have no others. -/
structure Keeps (clear : Assignment → Prop) (rows rows' : List Assignment) : Prop where
  sublist : rows.Sublist rows'
  kept : ∀ row ∈ rows', clear row → row ∈ rows
  same : (∀ row ∈ rows', clear row) → rows = rows'

theorem keeps_of_ascending {clear : Assignment → Prop} {rows rows' : List Assignment}
    (h : rows.Pairwise (· < ·)) (h' : rows'.Pairwise (· < ·)) (hsubset : rows ⊆ rows')
    (hkept : ∀ row ∈ rows', clear row → row ∈ rows) : Keeps clear rows rows' where
  sublist := sublist_of_subset h h' hsubset
  kept := hkept
  same hclear := SortedList.eq_of_mem_iff h h' fun row =>
    ⟨fun hrow => hsubset hrow, fun hrow => hkept row hrow (hclear row hrow)⟩

section

variable (hfolder : fs.FolderAt folder loc)
  (hb : Beneath folder (c.front.map Component.text) (c.rootedAt folder).split.1 c.split.1)
include hfolder hb

theorem keeps_unfoldValues : Keeps (c.InReach fs folder loc) ((c.rootedAt folder).unfoldValues fs)
    (c.unfoldValues (fs.movedTo loc)) :=
  keeps_of_ascending (ascending_completions ..) (ascending_completions ..)
    (fun _ => completions_of_rootedAt hfolder hb)
    fun _ => completions_rootedAt hfolder hb

theorem exists_find_rootedAt {targets names : List Text} {found : List Assignment}
    (h : c.find (fs.movedTo loc) targets = .ok (names, found)) :
    ∃ found', (c.rootedAt folder).find fs targets = .ok (names, found') ∧ found' ⊆ found ∧
      ∀ t ∈ found, c.InReach fs folder loc t → t ∈ found' := by
  by_cases hne : targets = []
  · rw [hne, find_nil] at h
    cases h
    refine ⟨_, by rw [hne, find_nil, openNames_rootedAt], ?_, ?_⟩
    · exact fun _ => completions_of_rootedAt hfolder hb
    · exact fun _ => completions_rootedAt hfolder hb
  · have hrooted := withTargets_rootedAt c folder (targets.map Target.read)
    cases hwith : c.withTargets (targets.map Target.read) with
    | error e =>
      rw [find_eq_map _ c hne, hwith] at h
      cases h
    | ok e =>
      rw [hwith] at hrooted
      have hshape := (withTargets_eq_ok hwith).1
      have hbe := beneath_of_shape hshape hb
      rw [find_eq hne hwith] at h
      cases h
      refine ⟨_, find_eq hne hrooted, ?_⟩
      have hrejects : (e.rootedAt folder).rejects = e.rejects := rfl
      rw [hrejects]
      split
      · exact ⟨List.Subset.refl _, fun t ht => absurd ht List.not_mem_nil⟩
      · exact ⟨fun _ => completions_of_rootedAt hfolder hbe,
          fun _ ht hreach => completions_rootedAt hfolder hbe ht (hreach.of_shape hshape)⟩

theorem keeps_listValues {targets : List Text} {rows : List Assignment}
    (h : c.listValues (fs.movedTo loc) targets = .ok rows) :
    ∃ rows', (c.rootedAt folder).listValues fs targets = .ok rows' ∧
      Keeps (c.InReach fs folder loc) rows' rows := by
  cases hfind : c.find (fs.movedTo loc) targets with
  | error e =>
    rw [listValues, hfind] at h
    cases h
  | ok r =>
    obtain ⟨names, found⟩ := r
    rw [listValues, hfind] at h
    cases h
    obtain ⟨found', hfind', hsubset, hkept⟩ := exists_find_rootedAt hfolder hb hfind
    refine ⟨c.selectAll found' names, by rw [listValues, hfind']; rfl, keeps_of_ascending
      SortedList.ascending_ofList SortedList.ascending_ofList (fun row hrow => ?_)
      fun row hrow hreach => ?_⟩
    · obtain ⟨t, ht, hreads⟩ := mem_selectAll.1 hrow
      exact mem_selectAll.2 ⟨t, hsubset ht, hreads⟩
    · obtain ⟨t, ht, hreads⟩ := mem_selectAll.1 hrow
      exact mem_selectAll.2 ⟨t, hkept t ht (hreach.of_reads hreads), hreads⟩

end

/-- Whether a target is refused does not depend on the folder. -/
theorem listValues_rootedAt_error {fs' : FileSystem} {targets : List Text}
    {failure : Failure CrumbError} (h : c.listValues fs' targets = .error failure)
    (fs : FileSystem) (folder : Text) :
    (c.rootedAt folder).listValues fs targets = .error (failure.map (.below folder)) := by
  by_cases hne : targets = []
  · rw [hne, listValues_nil] at h
    cases h
  · have hrooted := withTargets_rootedAt c folder (targets.map Target.read)
    cases hwith : c.withTargets (targets.map Target.read) with
    | ok e =>
      rw [listValues, find_eq hne hwith] at h
      cases h
    | error _ =>
      rw [listValues, find_eq_map fs' c hne, hwith] at h
      cases h
      rw [listValues, find_eq_map fs _ hne, hrooted, hwith]
      rfl

/-- What the crumb lists with the folder in front is what it lists from there, but for what is out
of reach; a target that is refused is refused in both cases, with the path of the crumb that is
asked. -/
structure ListsBelow (fs : FileSystem) (folder : Text) (loc : Location) (c : Crumb) : Prop where
  exists_there : (c.rootedAt folder).pathExists fs = true → c.pathExists (fs.movedTo loc) = true
  exists_below : ∀ u ∈ (c.withCheckExists true).unfoldValues (fs.movedTo loc),
    c.InReach fs folder loc u → (c.rootedAt folder).pathExists fs = true
  unfoldValues : Keeps (c.InReach fs folder loc) ((c.rootedAt folder).unfoldValues fs)
    (c.unfoldValues (fs.movedTo loc))
  listValues : ∀ targets rows, c.listValues (fs.movedTo loc) targets = .ok rows →
    ∃ rows', (c.rootedAt folder).listValues fs targets = .ok rows' ∧
      Keeps (c.InReach fs folder loc) rows' rows
  refused : ∀ targets failure, c.listValues (fs.movedTo loc) targets = .error failure →
    (c.rootedAt folder).listValues fs targets = .error (failure.map (.below folder))

theorem listsBelow (hfolder : fs.FolderAt folder loc) (hrelative : c.isAbsolute = false)
    (hpath : c.path ≠ []) : ListsBelow fs folder loc c := by
  have hb := beneath_split hrelative hpath folder
  have hstrict : Beneath folder ((c.withCheckExists true).front.map Component.text)
      ((c.withCheckExists true).rootedAt folder).split.1 (c.withCheckExists true).split.1 := hb
  have hkeeps := keeps_unfoldValues hfolder hstrict
  refine ⟨fun h => ?_, fun u hu hreach => ?_, keeps_unfoldValues hfolder hb,
    fun targets rows => keeps_listValues hfolder hb,
    fun targets failure h => listValues_rootedAt_error h fs folder⟩
  · obtain ⟨u, hu⟩ := pathExists_eq_true_iff.1 h
    exact pathExists_eq_true_iff.2 ⟨u, hkeeps.sublist.subset hu⟩
  · exact pathExists_eq_true_iff.2 ⟨u, hkeeps.kept u hu hreach⟩

/-- With a folder in front a relative crumb lists what it lists from there, as far as the limits for
paths allow; the path of the current folder, if that is still there, makes it absolute, once and for
all; and a crumb is absolute if its path starts with a slash. -/
theorem rootedAt_lists (fs : FileSystem) (c : Crumb) :
    (∀ folder loc, c.isAbsolute = false → c.path ≠ [] → fs.FolderAt folder loc →
      ListsBelow fs folder loc c) ∧
    (c.isAbsolute = true → c.absolute fs = .ok c) ∧
    (∀ folder, c.isAbsolute = false → fs.isFolderAt fs.current = true →
      Utf8.text? fs.currentPath = some folder →
      c.absolute fs = .ok (c.rootedAt folder) ∧ (c.rootedAt folder).isAbsolute = true ∧
      (c.rootedAt folder).absolute fs = .ok (c.rootedAt folder) ∧
      (c.path ≠ [] → fs.Settled → folder.utf8Length ≤ FileSystem.maxPathBytes →
        ListsBelow fs folder fs.current c ∧
          ∀ p, fs.InReach folder fs.current p ↔
            (Path.below folder p).utf8Length ≤ FileSystem.maxPathBytes)) ∧
    (c.isAbsolute = false → fs.isFolderAt fs.current = false →
      c.absolute fs = .error (.file ['.'] .notFound)) ∧
    c.isAbsolute = Path.isAbsolute c.path := by
  refine ⟨fun folder loc hrelative hpath hfolder => listsBelow hfolder hrelative hpath,
    absolute_of_isAbsolute fs, fun folder hrelative hthere hcurrent => ?_, absolute_of_gone,
    isAbsolute_eq c⟩
  have habsolute := isAbsolute_rootedAt (FileSystem.isAbsolute_currentText hcurrent) c
  refine ⟨absolute_eq_rootedAt hrelative hthere hcurrent, habsolute,
    absolute_of_isAbsolute fs habsolute,
    fun hpath settled hlength => ⟨?_, fun p => settled.inReach_iff hcurrent⟩⟩
  exact listsBelow (settled.folderAt hcurrent hlength) hrelative hpath

theorem short_below_gap (hshort : folder.utf8Length ≤ 1) (hp : (gap 0).PathOf gapValues p) :
    (Path.below folder p).utf8Length ≤ FileSystem.maxPathBytes := by
  obtain ⟨value, n, hvalue, rfl⟩ := hp
  have hx : value ['x'] = ['s'] := hvalue ⟨['x'], ['s']⟩ (by decide) (by decide)
  have hy : value ['y'] = ['f'] := hvalue ⟨['y'], ['f']⟩ (by decide) (by decide)
  have hback : (gap 0).back =
      [[.argument ⟨['x'], none, ⟨0, 3⟩⟩], [.argument ⟨['y'], none, ⟨4, 7⟩⟩]] := by
    rw [back, components_gap]
    rfl
  have hsplit : (gap 0).split.1 = [] := by
    rw [split_of_back_ne_nil (by rw [hback]; simp), front, components_gap]
    rfl
  have hstem := Path.length_stem_le folder
  have hlength : Text.utf8Length ((((gap 0).back.take n).map
      (Component.fill fun name => some (value name))).foldl Path.push (gap 0).split.1) ≤ 3 := by
    rw [hback, hsplit]
    obtain _ | _ | n := n
    · exact Nat.zero_le 3
    · simp only [List.take_succ_cons, List.take_zero, List.map_cons, List.map_nil, Component.fill,
        List.flatMap_singleton, Atom.fill, hx]
      decide
    · simp only [List.take_succ_cons, List.take_nil, List.map_cons, List.map_nil, Component.fill,
        List.flatMap_singleton, Atom.fill, hx, hy]
      decide
  rw [Path.length_below, FileSystem.maxPathBytes]
  omega

theorem rootedAt_lists_gap : (gap 0).isAbsolute = false ∧ (gap 0).path ≠ [] ∧
    gapFiles.FolderAt ['.'] [] ∧ gapValues ∈ ((gap 0).rootedAt ['.']).unfoldValues gapFiles ∧
    gapFiles.Settled ∧ (gap 0).absolute gapFiles = .ok ((gap 0).rootedAt ['/']) ∧
    gapValues ∈ ((gap 0).rootedAt ['/']).unfoldValues gapFiles := by
  have hrelative : (gap 0).isAbsolute = false := by decide
  have hpath : (gap 0).path ≠ [] := by decide
  have hdot : gapFiles.FolderAt ['.'] [] := ⟨by decide, rfl⟩
  have settled : gapFiles.Settled := ⟨rfl, by decide⟩
  obtain ⟨hbelow, _, habsolute, _⟩ := rootedAt_lists gapFiles (gap 0)
  obtain ⟨heq, _, _, hcurrent⟩ := habsolute ['/'] hrelative rfl (by decide)
  obtain ⟨hkeeps, hreach⟩ := hcurrent hpath settled (by decide)
  have hmem := mem_unfoldValues_gap 0
  refine ⟨hrelative, hpath, hdot,
    (hbelow _ _ hrelative hpath hdot).unfoldValues.kept _ hmem fun p hp _ => ?_, settled, heq,
    hkeeps.unfoldValues.kept _ hmem fun p hp _ => ?_⟩
  · exact ⟨short_below_gap (by decide) hp, 0, Nat.zero_le _, .here rfl .done, fun _ _ h => h⟩
  · exact (hreach p).2 (short_below_gap (by decide) hp)

theorem pathExists_gapValues_iff (n : Nat) :
    ((gap n).bindAll gapValues).pathExists gapFiles = true ↔ n + 3 ≤ FileSystem.maxPathBytes := by
  have hmem := mem_unfoldValues_gap n
  have hclosed := hasOpenNames_bindAll (opens_of_mem_unfoldValues hmem) (List.Subset.refl _)
  obtain ⟨ts, hts, hthere⟩ := (mem_unfoldValues_iff_fills rfl).1 hmem
  rw [pathExists_of_not_hasOpenNames hclosed, ← length_path_gap, hts.path_eq]
  exact hts.pathExists_join_iff hthere

/-- With 4093 slashes the path is as long as a path may be, and with `.` in front it is longer. What
is said about a target that is no argument tells the two crumbs apart too. -/
theorem exists_lost_below_gap :
    ((gap 4092).bindAll gapValues).isAbsolute = false ∧
    ((gap 4092).bindAll gapValues).path ≠ [] ∧ gapFiles.FolderAt ['.'] gapFiles.current ∧
    ((gap 4092).bindAll gapValues).pathExists (gapFiles.movedTo gapFiles.current) = true ∧
    (((gap 4092).bindAll gapValues).rootedAt ['.']).pathExists gapFiles = false ∧
    ((gap 4092).bindAll gapValues).listValues (gapFiles.movedTo gapFiles.current) [['z']] ≠
      (((gap 4092).bindAll gapValues).rootedAt ['.']).listValues gapFiles [['z']] := by
  let c := (gap 4092).bindAll gapValues
  have hlength : c.path.utf8Length = 4095 := length_path_gap 4092
  have hbelow : (c.rootedAt ['.']).path.utf8Length = 4097 := by
    rw [path_rootedAt, Path.length_below, hlength]
    rfl
  have hrefused : c.listValues gapFiles [['z']] =
      .error (.returned (.unknownArgument ['z'] c.path)) := rfl
  refine ⟨?_, ?_, ⟨by decide, rfl⟩, ?_, ?_, ?_⟩
  · rw [isAbsolute_eq]
    rfl
  · exact List.cons_ne_nil _ _
  · exact (pathExists_gapValues_iff 4092).2 (by decide)
  · have hclosed : (c.rootedAt ['.']).hasOpenNames = false := by
      rw [hasOpenNames, openNames_rootedAt]
      rfl
    rw [pathExists_of_not_hasOpenNames hclosed]
    refine FileSystem.pathExists_eq_false_of_long ?_
    rw [hbelow]
    decide
  · rw [FileSystem.movedTo_current, hrefused, listValues_rootedAt_error hrefused]
    intro h
    have herror := Failure.returned.inj (Except.error.inj h)
    have hpath := congrArg Text.utf8Length (CrumbError.unknownArgument.inj herror).2
    rw [← path_rootedAt, hbelow, hlength] at hpath
    cases hpath

end Crumb

end PathTemplates
