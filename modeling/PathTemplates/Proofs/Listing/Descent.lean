import PathTemplates.Crumb.Listing

namespace PathTemplates

namespace FileSystem

/-- There is an entry of that name in the folder that a path leads to. -/
def HasEntry (fs : FileSystem) (folder name : Text) : Prop :=
  ∃ loc n, fs.resolve true (listedPath folder) = .ok loc ∧ fs.isFolderAt loc = true ∧
    (EntryName.text name :: loc, n) ∈ fs.nodes

/-- The entry is a folder, or a link that leads to one. -/
def HasFolder (fs : FileSystem) (folder name : Text) : Prop :=
  fs.isFolder (Path.push (listedPath folder) name) = true

theorem mem_namesIn {fs : FileSystem} {folder : Location} {name : EntryName} :
    name ∈ fs.namesIn folder ↔ ∃ n, (name :: folder, n) ∈ fs.nodes := by
  unfold namesIn
  rw [List.mem_filterMap]
  constructor
  · intro ⟨⟨loc, n⟩, hmem, h⟩
    cases loc with
    | nil => cases h
    | cons first parent =>
      obtain ⟨rfl, e⟩ := Option.ite_none_right_eq_some.1 h
      cases Option.some.inj e
      exact ⟨n, hmem⟩
  · intro ⟨n, hmem⟩
    exact ⟨(name :: folder, n), hmem, by simp⟩

theorem mem_list {fs : FileSystem} {folder : Text} {e : Entry} :
    e ∈ fs.list folder ↔
      fs.HasEntry folder e.name ∧ (e.folder = true ↔ fs.HasFolder folder e.name) := by
  unfold list HasEntry HasFolder
  cases hloc : fs.resolve true (listedPath folder) with
  | error _ => simp
  | ok loc =>
    by_cases hfolder : fs.isFolderAt loc = true
    · simp only [hfolder, if_true, List.mem_map, List.mem_filterMap, mem_namesIn]
      constructor
      · intro h
        obtain ⟨name, ⟨entry, ⟨n, hmem⟩, htext⟩, rfl⟩ := h
        cases entry with
        | bytes b => cases htext
        | text t =>
          cases Option.some.inj htext
          exact ⟨⟨loc, n, rfl, hfolder, hmem⟩, Iff.rfl⟩
      · intro ⟨⟨_, n, hresolve, _, hmem⟩, hiff⟩
        cases hresolve
        refine ⟨e.name, ⟨.text e.name, ⟨n, hmem⟩, rfl⟩, ?_⟩
        rw [← Bool.eq_iff_iff.2 hiff]
    · simp only [hfolder, Bool.false_eq_true, if_false, List.not_mem_nil, false_iff]
      intro ⟨⟨_, _, hresolve, hloc, _⟩, _⟩
      cases hresolve
      exact hfolder hloc

end FileSystem

namespace Crumb

variable {fs : FileSystem} {c : Crumb} {more : Prop}

/-- The values of `u` lead from the path `folder` along components to the path `stop`. An open
component is filled by an entry that is not ignored and gives its arguments values that fit their
patterns, and which has to be a folder if open components follow; `more` tells whether there are
further ones behind those given. -/
inductive Descends (fs : FileSystem) (c : Crumb) (more : Prop) :
    Text → List Component → Assignment → Text → Prop
  | stop {folder} : Descends fs c more folder [] [] folder
  | literal {folder k ks u stop} (closed : k.isOpen = false)
      (rest : Descends fs c more (Path.push folder k.text) ks u stop) :
      Descends fs c more folder (k :: ks) u stop
  | entry {folder k ks e bindings u stop} (isOpen : k.isOpen = true)
      (there : fs.HasEntry folder e)
      (inside : more ∨ ks.any Component.isOpen = true → fs.HasFolder folder e)
      (kept : c.ignore.ignores e = false) (fits : k.matchEntry e = some bindings)
      (allowed : ∀ b ∈ bindings, c.patterns.allows b.name b.value = true)
      (rest : Descends fs c more (Path.push folder e) ks u stop) :
      Descends fs c more folder (k :: ks) (bindings ++ u) stop

/-- A way to bind all open arguments. The part of the path in front of the first open component is
taken as one text; where paths have to be there, the whole path is. -/
def Completes (fs : FileSystem) (c : Crumb) (u : Assignment) : Prop :=
  ∃ stop, Descends fs c False c.split.1 (c.components.dropWhile fun k => !k.isOpen) u stop ∧
    (c.checkExists = true → fs.pathExists stop = true)

theorem bindingsFor_eq_some {k : Component} {entry : Text} {bindings : Assignment} :
    c.bindingsFor k entry = some bindings ↔ c.ignore.ignores entry = false ∧
      k.matchEntry entry = some bindings ∧
      ∀ b ∈ bindings, c.patterns.allows b.name b.value = true := by
  unfold bindingsFor
  cases hi : c.ignore.ignores entry with
  | true => simp
  | false =>
    cases hm : k.matchEntry entry with
    | none => simp
    | some found =>
      simp only [Bool.false_eq_true, if_false, Option.ite_none_right_eq_some, Option.some.injEq,
        List.all_eq_true, true_and]
      constructor
      · intro h
        obtain ⟨hall, rfl⟩ := h
        exact ⟨rfl, hall⟩
      · intro h
        obtain ⟨rfl, hall⟩ := h
        exact ⟨hall, rfl⟩

theorem descends_nil {folder stop : Text} {u : Assignment} :
    Descends fs c more folder [] u stop ↔ u = [] ∧ stop = folder := by
  constructor
  · intro h
    cases h
    exact ⟨rfl, rfl⟩
  · intro h
    obtain ⟨rfl, rfl⟩ := h
    exact .stop

theorem descends_open {folder stop : Text} {k : Component} {ks : List Component} {t : Assignment}
    (hk : k.isOpen = true) :
    Descends fs c more folder (k :: ks) t stop ↔
      ∃ e ∈ fs.list folder, ∃ bindings u, c.bindingsFor k e.name = some bindings ∧
        (more ∨ ks.any Component.isOpen = true → e.folder = true) ∧ t = bindings ++ u ∧
        Descends fs c more (Path.push folder e.name) ks u stop := by
  constructor
  · intro h
    cases h with
    | literal closed rest => exact absurd hk (by simp [closed])
    | @entry _ _ _ e bindings u _ isOpen there inside kept fits allowed rest =>
      let found : FileSystem.Entry := ⟨e, fs.isFolder (Path.push (FileSystem.listedPath folder) e)⟩
      have hfound : found ∈ fs.list folder := FileSystem.mem_list.2 ⟨there, Iff.rfl⟩
      exact ⟨found, hfound, bindings, u, bindingsFor_eq_some.2 ⟨kept, fits, allowed⟩, inside, rfl,
        rest⟩
  · intro h
    obtain ⟨e, he, bindings, u, hb, hfolder, rfl, rest⟩ := h
    obtain ⟨there, hiff⟩ := FileSystem.mem_list.1 he
    obtain ⟨kept, fits, allowed⟩ := bindingsFor_eq_some.1 hb
    exact .entry hk there (fun h => hiff.1 (hfolder h)) kept fits allowed rest

/-- Literal components only lengthen the path. -/
theorem descends_literals {folder stop : Text} {literals ks : List Component} {u : Assignment}
    (hl : ∀ k ∈ literals, k.isOpen = false) :
    Descends fs c more folder (literals ++ ks) u stop ↔
      Descends fs c more (literals.foldl (fun folder k => Path.push folder k.text) folder) ks u
        stop := by
  induction literals generalizing folder with
  | nil => rfl
  | cons k literals ih =>
    have hk := hl k (List.mem_cons_self ..)
    rw [List.foldl_cons, ← ih fun k' hk' => hl k' (List.mem_cons_of_mem _ hk')]
    constructor
    · intro h
      cases h with
      | literal closed rest => exact rest
      | entry isOpen => exact absurd isOpen (by simp [hk])
    · exact .literal hk

theorem names_of_descends {folder stop : Text} {ks : List Component} {u : Assignment}
    (h : Descends fs c more folder ks u stop) : u.names = ks.flatMap Component.names := by
  induction h with
  | stop => rfl
  | @literal folder k ks u stop closed rest ih =>
    have hk : k.names = [] := by simpa [Component.isOpen] using closed
    rw [List.flatMap_cons, hk, ih, List.nil_append]
  | entry isOpen there inside kept fits allowed rest ih =>
    rw [List.flatMap_cons, ← ih, ← Component.names_of_matchEntry fits]
    exact List.map_append

end Crumb

end PathTemplates
