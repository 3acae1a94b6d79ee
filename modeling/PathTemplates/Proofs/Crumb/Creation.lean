import PathTemplates.Crumb.Creation
import PathTemplates.Proofs.FileSystem.Growth
import PathTemplates.Proofs.State.Operations

namespace PathTemplates

namespace Crumb

open FileSystem (Made)

variable {fs fs' : FileSystem} {c : Crumb} {cs : List Crumb} {p : Text} {made : List Text}
  {rows : List Assignment}

/-- The folder that a crumb asks for, and the folders above it. -/
def wanted (c : Crumb) : List Text := c.split.1 :: Path.above c.split.1

theorem made_touch (fs : FileSystem) (c : Crumb) : Made c.wanted fs (c.touch fs).1 := by
  have hmade := FileSystem.made_createFolders fs c.split.1
  unfold touch
  dsimp only
  split
  · exact .nothing
  · split
    · next e => rwa [e] at hmade
    · next e => rwa [e] at hmade

theorem touch_eq_ok (h : c.touch fs = (fs', .ok p)) :
    p = c.split.1 ∧ (p ≠ [] → fs'.isFolder p = true) := by
  unfold touch at h
  dsimp only at h
  split at h
  · next hnil =>
    cases h
    exact ⟨rfl, absurd hnil⟩
  · next hne =>
    split at h
    · next e =>
      cases h
      exact ⟨rfl, fun _ => FileSystem.isFolder_of_createFirst hne e⟩
    · cases h

theorem touch_eq_error {e : CrumbError} (h : c.touch fs = (fs', .error e)) :
    (∃ fault, e = .file c.split.1 fault) ∧ Made (Path.above c.split.1) fs fs' := by
  unfold touch at h
  dsimp only at h
  split at h
  · cases h
  · split at h
    · cases h
    · next fault hfirst =>
      cases h
      exact ⟨⟨fault, rfl⟩, FileSystem.made_of_createFirst_eq_error hfirst⟩

/-- Where the folder is there, nothing happens. -/
theorem touch_of_isFolder (h : c.split.1 ≠ [] → fs.isFolder c.split.1 = true) :
    c.touch fs = (fs, .ok c.split.1) := by
  unfold touch
  dsimp only
  split
  · rfl
  · next hne => rw [FileSystem.createFolders_of_isFolder hne (h hne)]

theorem made_touchAll (fs : FileSystem) (cs : List Crumb) :
    Made (cs.flatMap wanted) fs (touchAll fs cs).1 := by
  induction cs generalizing fs with
  | nil => exact .nothing
  | cons c cs ih =>
    have hc : Made ((c :: cs).flatMap wanted) fs (c.touch fs).1 :=
      (made_touch fs c).of_subset fun p hp => List.mem_append_left _ hp
    unfold touchAll
    split
    · next e => rwa [e] at hc
    · next mid p e =>
      rw [e] at hc
      exact hc.trans ((ih mid).of_subset fun q hq => List.mem_append_right _ hq)

theorem touchAll_eq_ok (h : touchAll fs cs = (fs', .ok made)) :
    (made = cs.map fun c => c.split.1) ∧ ∀ p ∈ made, p ≠ [] → fs'.isFolder p = true := by
  induction cs generalizing fs made with
  | nil =>
    cases h
    exact ⟨rfl, nofun⟩
  | cons c cs ih =>
    unfold touchAll at h
    split at h
    · cases h
    · next mid p hp =>
      obtain ⟨hfs, hmap⟩ := Prod.mk.inj h
      obtain ⟨rest, hrest, rfl⟩ := exists_of_map_eq_ok hmap
      obtain ⟨rfl, hfolders⟩ := ih (Prod.ext hfs hrest)
      obtain ⟨rfl, hfolder⟩ := touch_eq_ok hp
      have hlater : Made (cs.flatMap wanted) mid fs' := hfs ▸ made_touchAll mid cs
      have hkept (hne : c.split.1 ≠ []) := hlater.includedIn.isFolder (hfolder hne)
      exact ⟨rfl, List.forall_mem_cons.2 ⟨hkept, hfolders⟩⟩

/-- The first folder that cannot be made is the last one that is tried. -/
theorem touchAll_eq_error {e : CrumbError} (h : touchAll fs cs = (fs', .error e)) :
    ∃ earlier d later mid made, cs = earlier ++ d :: later ∧
      touchAll fs earlier = (mid, .ok made) ∧ d.touch mid = (fs', .error e) ∧
      ∀ others, touchAll fs (earlier ++ d :: others) = (fs', .error e) := by
  induction cs generalizing fs with
  | nil => cases h
  | cons c cs ih =>
    cases hc : c.touch fs with
    | mk next result =>
      cases result with
      | error fault =>
        have hstop : ∀ others, touchAll fs (c :: others) = (next, .error fault) := fun others => by
          rw [touchAll, hc]
        rw [hstop] at h
        cases h
        exact ⟨[], c, cs, fs, [], rfl, rfl, hc, hstop⟩
      | ok p =>
        have honward : ∀ others, touchAll fs (c :: others) =
            ((touchAll next others).1, (touchAll next others).2.map (p :: ·)) := fun others => by
          rw [touchAll, hc]
        rw [honward] at h
        obtain ⟨hfs, hmap⟩ := Prod.mk.inj h
        obtain ⟨earlier, d, later, mid, made, rfl, hearlier, hd, hothers⟩ :=
          ih (Prod.ext hfs (map_eq_error_iff.1 hmap))
        refine ⟨c :: earlier, d, later, mid, p :: made, rfl, ?_, hd, fun others => ?_⟩
        · rw [honward, hearlier]
          rfl
        · rw [List.cons_append, honward, hothers]
          rfl

theorem touchAll_of_isFolder
    (h : ∀ c ∈ cs, c.split.1 ≠ [] → fs.isFolder c.split.1 = true) :
    touchAll fs cs = (fs, .ok (cs.map fun c => c.split.1)) := by
  induction cs with
  | nil => rfl
  | cons c cs ih =>
    obtain ⟨hc, hcs⟩ := List.forall_mem_cons.1 h
    rw [touchAll, touch_of_isFolder hc]
    simp [ih hcs, Except.map]

theorem bindRows_eq_ok {first : Nat} (h : c.bindRows first rows = .ok cs) :
    c.replaceEach rows = .ok cs := by
  induction rows generalizing first cs with
  | nil =>
    cases h
    rfl
  | cons row rows ih =>
    unfold bindRows at h
    split at h
    · cases h
    · obtain ⟨d, hd, h⟩ := exists_of_bind_eq_ok h
      obtain ⟨ds, hds, h⟩ := exists_of_bind_eq_ok h
      cases h
      have hrest := ih hds
      rw [replaceEach] at hrest ⊢
      rw [List.mapM_cons, hd, hrest]
      rfl

theorem makeTree_eq_or (c : Crumb) (rows : List Assignment) :
    (∃ e, ∀ fs : FileSystem, c.makeTree fs rows = (fs, .error e)) ∨
      ∃ cs, (∀ fs : FileSystem, c.makeTree fs rows = touchAll fs cs) ∧
        (rows ≠ [] → c.replaceEach rows = .ok cs) := by
  by_cases hrows : rows = []
  · exact .inr ⟨[c], fun _ => if_pos hrows, absurd hrows⟩
  · cases hbind : c.bindRows 0 rows with
    | error e => exact .inl ⟨e, fun fs => by rw [makeTree, if_neg hrows, hbind]⟩
    | ok cs =>
      exact .inr ⟨cs, fun fs => by rw [makeTree, if_neg hrows, hbind],
        fun _ => bindRows_eq_ok hbind⟩

/-- Whether all folders can be made or not, folders are added where nothing was, and nothing else
changes. If there are rows and all folders can be made, there is one path for each row, it leads to
a folder, and to make all folders again has the same answer and no effect. -/
theorem makeTree_grows (fs : FileSystem) (c : Crumb) (rows : List Assignment) :
    (∃ added : List Location, (c.makeTree fs rows).1.nodes =
        fs.nodes ++ added.map (fun loc => (loc, .folder)) ∧
      (c.makeTree fs rows).1.current = fs.current ∧ added.Nodup ∧
      ∀ loc ∈ added, fs.node? loc = none) ∧
    ∀ fs' made, rows ≠ [] → c.makeTree fs rows = (fs', .ok made) →
      (∃ ds, c.replaceEach rows = .ok ds ∧ made = ds.map fun d => d.split.1) ∧
      (∀ p ∈ made, p ≠ [] → fs'.isFolder p = true) ∧
      c.makeTree fs' rows = (fs', .ok made) := by
  obtain ⟨e, htree⟩ | ⟨cs, htree, hbound⟩ := makeTree_eq_or c rows
  · refine ⟨?_, fun fs' made _ h => ?_⟩
    · have hnothing : Made [] fs fs := .nothing
      rw [htree]
      exact hnothing.exists_added
    · rw [htree] at h
      cases h
  · refine ⟨?_, fun fs' made hrows h => ?_⟩
    · rw [htree]
      exact (made_touchAll fs cs).exists_added
    · rw [htree] at h
      obtain ⟨rfl, hfolders⟩ := touchAll_eq_ok h
      refine ⟨⟨cs, hbound hrows, rfl⟩, hfolders, ?_⟩
      rw [htree]
      exact touchAll_of_isFolder fun d hd => hfolders _ (List.mem_map_of_mem hd)

/-- A folder `s`. -/
def oneFolder : FileSystem where
  nodes := [([.text ['s']], .folder)]
  current := []
  distinct := by decide
  named := by decide
  grounded := by decide

/-- Rows for `{a}/t` below the folder `s`, which is there, and `r`, which is not. -/
theorem makeTree_grows_sample : ∃ (c : Crumb) (fs' : FileSystem),
    read ['{', 'a', '}', '/', 't'] {} = .ok c ∧
    c.makeTree oneFolder [[⟨['a'], ['s']⟩], [⟨['a'], ['r']⟩]] =
      (fs', .ok [['s', '/', 't'], ['r', '/', 't']]) ∧
    fs'.isFolder ['r', '/', 't'] = true ∧
    c.makeTree fs' [[⟨['a'], ['s']⟩], [⟨['a'], ['r']⟩]] =
      (fs', .ok [['s', '/', 't'], ['r', '/', 't']]) := by
  obtain ⟨c, hread, fs', hmade⟩ : ∃ c : Crumb, read ['{', 'a', '}', '/', 't'] {} = .ok c ∧
      ∃ fs', c.makeTree oneFolder [[⟨['a'], ['s']⟩], [⟨['a'], ['r']⟩]] =
        (fs', .ok [['s', '/', 't'], ['r', '/', 't']]) := ⟨_, rfl, _, rfl⟩
  obtain ⟨_, hfolders, hagain⟩ := (makeTree_grows _ c _).2 fs' _ (List.cons_ne_nil _ _) hmade
  exact ⟨c, fs', hread, hmade, hfolders _ (List.mem_cons_of_mem _ (List.mem_singleton_self _))
    (List.cons_ne_nil _ _), hagain⟩

end Crumb

end PathTemplates
