import PathTemplates.Proofs.FileSystem.Inclusion

namespace PathTemplates

namespace FileSystem

open PathTemplates.Path (Step)

variable {fs mid fs' : FileSystem} {follow : Bool} {links : Nat} {loc : Location} {n : Node}
  {p name : Text} {paths more above : List Text}

theorem arrives_replicate_here (h : fs.isFolderAt loc = true) (k : Nat) :
    fs.Arrives follow links loc (List.replicate k .here) loc := by
  induction k with
  | zero => exact .done
  | succ k ih => exact .here h ih

/-- The slashes at the end of a path stay in place. -/
theorem exists_steps_of_partsOfNew (h : (partsOfNew p).getLast? = some name) :
    ∃ k, Path.steps p = (partsOfNew p).dropLast.map Path.step ++
      Path.step name :: List.replicate k .here := by
  obtain ⟨k, hk⟩ : ∃ k, Text.split '/' p = partsOfNew p ++ List.replicate k [] := by
    have hsplit := congrArg List.reverse
      (List.takeWhile_append_dropWhile (p := fun t => t = []) (l := (Text.split '/' p).reverse))
    rw [List.reverse_append, List.reverse_reverse] at hsplit
    refine ⟨_, hsplit.symm.trans (congrArg (partsOfNew p ++ ·) (List.eq_replicate_iff.2 ⟨rfl, ?_⟩))⟩
    intro t ht
    have hall := List.all_takeWhile (p := fun t : Text => t = []) (l := (Text.split '/' p).reverse)
    simpa using List.all_eq_true.1 hall t (List.mem_reverse.1 ht)
  refine ⟨k, ?_⟩
  rw [Path.steps, hk, ← List.dropLast_append_getLast? name h]
  simp [Path.step]

theorem NewEntry.parent_arrives (h : fs.NewEntry p name loc) :
    fs.Arrives true maxLinks (fs.startOf p) ((partsOfNew p).dropLast.map Path.step) loc := by
  obtain ⟨mid, hmid, left, _, hleft⟩ :=
    (resolveSteps_eq_ok_iff.1 h.parent).split (List.cons_ne_nil _ _)
  cases hleft with
  | here _ onward =>
    cases onward
    exact hmid

/-- A folder that has been made is where its path leads. -/
theorem NewEntry.resolve (h : fs.NewEntry p name loc) :
    (fs.add .folder h.room).resolve true p = .ok (.text name :: loc) := by
  obtain ⟨k, hsteps⟩ := exists_steps_of_partsOfNew h.last
  have hincluded := includedIn_add h.room .folder
  have hnode := node?_add_self (n := .folder) h.room
  have hend : (fs.add .folder h.room).Arrives true 0 loc
      (.enter name :: List.replicate k .here) (.text name :: loc) :=
    .enter (hincluded.isFolderAt h.room.folder) h.short hnode nofun
      (arrives_replicate_here (decide_eq_true hnode) k)
  rw [resolve_eq_ok_iff_arrives, hsteps, FileName.step_eq h.room.valid]
  exact ⟨h.path, (hincluded.arrives h.parent_arrives).append hend (List.cons_ne_nil _ _)⟩

/-- Where a path leads somewhere, nothing is made. -/
theorem create_of_resolve (h : fs.resolve follow p = .ok loc) (n : Node) :
    fs.create n p = .error .alreadyExists := by
  obtain ⟨hcheck, harrives⟩ := resolve_eq_ok_iff_arrives.1 h
  unfold create
  rw [hcheck]
  dsimp only
  cases hlast : (partsOfNew p).getLast? with
  | none => rfl
  | some name =>
    obtain ⟨k, hsteps⟩ := exists_steps_of_partsOfNew hlast
    rw [hsteps] at harrives
    obtain ⟨mid, hmid, left, _, hleft⟩ := harrives.split (List.cons_ne_nil _ _)
    have hhere : fs.Arrives true 0 mid [.here] mid :=
      .here (hleft.isFolderAt (List.cons_ne_nil _ _)) .done
    have hparent := resolveSteps_eq_ok_iff.2 (hmid.append hhere (List.cons_ne_nil _ _))
    simp only [Nat.add_zero] at hparent
    unfold addIn
    rw [hparent]
    dsimp only
    by_cases hdots : name = ['.'] ∨ name = ['.', '.']
    · obtain rfl | rfl := hdots <;> rfl
    · have hname : Path.step name = .enter name := by
        simp [Path.step, ne_nil_of_partsOfNew hlast, not_or.1 hdots]
      rw [hname] at hleft
      obtain ⟨hshort, n, hnode⟩ := hleft.exists_node
      have htaken : ¬fs.Room (.text name) mid := fun room => by
        rw [room.free] at hnode
        cases hnode
      rw [if_neg (Nat.not_lt.2 hshort), dif_neg htaken]

/-- Folders have been made, one after another, at some of these paths. -/
inductive Made (paths : List Text) : FileSystem → FileSystem → Prop
  | nothing {fs : FileSystem} : Made paths fs fs
  | folder {fs mid fs' : FileSystem} {p : Text} (asked : p ∈ paths)
      (created : fs.createFolder p = .ok mid) (later : Made paths mid fs') : Made paths fs fs'

namespace Made

theorem trans (h : Made paths fs mid) (h' : Made paths mid fs') : Made paths fs fs' := by
  induction h with
  | nothing => exact h'
  | folder asked created _ ih => exact .folder asked created (ih h')

theorem single (asked : p ∈ paths) (created : fs.createFolder p = .ok fs') : Made paths fs fs' :=
  .folder asked created .nothing

theorem of_subset (h : Made paths fs fs') (hpaths : ∀ p ∈ paths, p ∈ more) : Made more fs fs' := by
  induction h with
  | nothing => exact .nothing
  | folder asked created _ ih => exact .folder (hpaths _ asked) created ih

theorem includedIn (h : Made paths fs fs') : fs.IncludedIn fs' := by
  induction h with
  | nothing => exact .refl _
  | folder _ created _ ih => exact (includedIn_create created).trans ih

/-- Folders are added, in places where nothing was, and nothing else changes. -/
theorem exists_added (h : Made paths fs fs') : ∃ added : List Location,
    fs'.nodes = fs.nodes ++ added.map (fun loc => (loc, .folder)) ∧
      fs'.current = fs.current ∧ added.Nodup ∧ ∀ loc ∈ added, fs.node? loc = none := by
  induction h with
  | nothing => exact ⟨[], by simp, rfl, List.nodup_nil, nofun⟩
  | @folder fs _ _ _ _ created _ ih =>
    obtain ⟨name, loc, hnew, rfl⟩ := create_eq_ok created
    obtain ⟨added, hnodes, hcurrent, hnodup, hnone⟩ := ih
    have hother : ∀ l ∈ added, fs.node? l = none ∧ l ≠ .text name :: loc := by
      intro l hl
      have hl := hnone l hl
      rw [node?_add, Option.or_eq_none_iff] at hl
      exact ⟨hl.1, by simpa using hl.2⟩
    refine ⟨(.text name :: loc) :: added, by simp [hnodes, add], hcurrent,
      List.nodup_cons.2 ⟨fun hmem => (hother _ hmem).2 rfl, hnodup⟩, ?_⟩
    exact List.forall_mem_cons.2 ⟨hnew.room.free, fun l hl => (hother l hl).1⟩

/-- What is new is a folder, and the end of one of the paths. -/
theorem node?_or (h : Made paths fs fs') (hn : fs'.node? loc = some n) :
    fs.node? loc = some n ∨ n = .folder ∧ ∃ p ∈ paths, fs'.resolve true p = .ok loc := by
  induction h with
  | nothing => exact .inl hn
  | folder asked created later ih =>
    obtain ⟨name, parent, hnew, rfl⟩ := create_eq_ok created
    obtain hmid | hlater := ih hn
    · rw [node?_add] at hmid
      obtain hold | ⟨_, hmid⟩ := Option.or_eq_some_iff.1 hmid
      · exact .inl hold
      · obtain ⟨rfl, hfolder⟩ := Option.ite_none_right_eq_some.1 hmid
        exact .inr ⟨(Option.some.inj hfolder).symm, _, asked, later.includedIn.resolve hnew.resolve⟩
    · exact .inr hlater

end Made

theorem made_createFirst (fs : FileSystem) (ps : List Text) :
    Made ps fs (fs.createFirst ps).1 := by
  induction ps generalizing fs with
  | nil => exact .nothing
  | cons p above ih =>
    have hp : p ∈ p :: above := List.mem_cons_self ..
    unfold createFirst
    split
    · exact .nothing
    · split
      · next created => exact .single hp created
      · have habove : Made (p :: above) fs (fs.createFirst above).1 :=
          (ih fs).of_subset fun q hq => List.mem_cons_of_mem _ hq
        split
        · next e => rwa [e] at habove
        · next e =>
          rw [e] at habove
          split
          · next created => exact habove.trans (.single hp created)
          · exact habove
      · exact .nothing

theorem made_createFolders (fs : FileSystem) (p : Text) :
    Made (p :: Path.above p) fs (fs.createFolders p).1 :=
  made_createFirst fs _

/-- A path that cannot be made leaves at most folders above it behind. -/
theorem made_of_createFirst_eq_error {e : FileError}
    (h : fs.createFirst (p :: above) = (fs', .error e)) : Made above fs fs' := by
  have hkept {kept : FileSystem} {fault : FileError}
      (h : (kept, if kept.isFolder p then .ok () else .error fault) = (fs', Except.error e)) :
      kept = fs' := (Prod.mk.inj h).1
  rw [createFirst] at h
  split at h
  · cases h
  · split at h
    · cases h
    · have habove := made_createFirst fs above
      split at h
      · next hfirst =>
        cases h
        rwa [hfirst] at habove
      · next hfirst =>
        rw [hfirst] at habove
        split at h
        · cases h
        · exact hkept h ▸ habove
    · exact hkept h ▸ .nothing

theorem isFolder_of_createFolder (h : fs.createFolder p = .ok fs') : fs'.isFolder p = true := by
  obtain ⟨name, loc, hnew, rfl⟩ := create_eq_ok h
  rw [isFolder, hnew.resolve]
  exact decide_eq_true (node?_add_self hnew.room)

/-- Success means that the folder is there. -/
theorem isFolder_of_createFirst (hne : p ≠ [])
    (h : fs.createFirst (p :: above) = (fs', .ok ())) : fs'.isFolder p = true := by
  have hkept {fs : FileSystem} {e : FileError}
      (h : (fs, if fs.isFolder p then .ok () else .error e) = (fs', Except.ok ())) :
      fs'.isFolder p = true := by
    obtain ⟨rfl, hok⟩ := Prod.mk.inj h
    split at hok
    · assumption
    · cases hok
  rw [createFirst, if_neg hne] at h
  split at h
  · next created =>
    cases h
    exact isFolder_of_createFolder created
  · split at h
    · cases h
    · split at h
      · next created =>
        cases h
        exact isFolder_of_createFolder created
      · exact hkept h
  · exact hkept h

/-- A folder is not made again. -/
theorem createFolders_of_isFolder (hne : p ≠ []) (h : fs.isFolder p = true) :
    fs.createFolders p = (fs, .ok ()) := by
  obtain ⟨loc, hloc⟩ : ∃ loc, fs.resolve true p = .ok loc := by
    unfold isFolder at h
    split at h
    · exact ⟨_, ‹_›⟩
    · cases h
  rw [createFolders, createFirst, if_neg hne, createFolder, create_of_resolve hloc]
  simp [h]

end FileSystem

end PathTemplates
