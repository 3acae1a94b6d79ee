import PathTemplates.Proofs.FileSystem.Paths

namespace PathTemplates

namespace FileSystem

open PathTemplates.Path (Step)

variable {fs mid fs' : FileSystem} {follow : Bool} {links : Nat} {loc target : Location} {n : Node}
  {p folder name : Text}

section Add

variable {name : EntryName} {parent : Location} (room : fs.Room name parent)

theorem node?_add (n : Node) (loc : Location) :
    (fs.add n room).node? loc =
      (fs.node? loc).or (if loc = name :: parent then some n else none) := by
  unfold node? add
  by_cases hroot : loc = []
  · simp [hroot]
  · rw [if_neg hroot, if_neg hroot, List.find?_append, Option.map_or, List.find?_singleton]
    by_cases hnew : loc = name :: parent
    · simp [hnew]
    · simp [hnew, Ne.symm hnew]

theorem node?_add_of_some {k : Node} (h : fs.node? loc = some k) :
    (fs.add n room).node? loc = some k := by
  rw [node?_add, h, Option.some_or]

theorem node?_add_self : (fs.add n room).node? (name :: parent) = some n := by
  rw [node?_add, room.free, if_pos rfl, Option.none_or]

end Add

/-- Every entry of the first file system is one of the second, of the same kind and with the same
target if it is a link. The current folder is the same place in both. -/
structure IncludedIn (fs fs' : FileSystem) : Prop where
  current : fs'.current = fs.current
  kept : ∀ loc n, fs.node? loc = some n → fs'.node? loc = some n

theorem includedIn_add {name : EntryName} (room : fs.Room name loc) (n : Node) :
    fs.IncludedIn (fs.add n room) :=
  ⟨rfl, fun _ _ => node?_add_of_some room⟩

theorem includedIn_create (h : fs.create n p = .ok fs') : fs.IncludedIn fs' := by
  obtain ⟨name, loc, new, rfl⟩ := create_eq_ok h
  exact includedIn_add new.room n

namespace IncludedIn

theorem refl (fs : FileSystem) : fs.IncludedIn fs := ⟨rfl, fun _ _ h => h⟩

theorem trans (h : fs.IncludedIn mid) (h' : mid.IncludedIn fs') : fs.IncludedIn fs' :=
  ⟨h'.current.trans h.current, fun loc n hn => h'.kept loc n (h.kept loc n hn)⟩

variable (h : fs.IncludedIn fs')
include h

theorem isFolderAt (hloc : fs.isFolderAt loc = true) : fs'.isFolderAt loc = true :=
  decide_eq_true (h.kept _ _ (of_decide_eq_true hloc))

theorem arrives {steps : List Step} (harrives : fs.Arrives follow links loc steps target) :
    fs'.Arrives follow links loc steps target :=
  harrives.mono h.kept (Nat.le_refl _)

theorem resolve (hp : fs.resolve follow p = .ok loc) : fs'.resolve follow p = .ok loc := by
  obtain ⟨hcheck, harrives⟩ := resolve_eq_ok_iff_arrives.1 hp
  refine resolve_eq_ok_iff_arrives.2 ⟨hcheck, ?_⟩
  rw [startOf, h.current]
  exact h.arrives harrives

theorem isFolder (hp : fs.isFolder p = true) : fs'.isFolder p = true := by
  unfold FileSystem.isFolder at hp
  split at hp
  · next loc hloc =>
    rw [FileSystem.isFolder, h.resolve hloc]
    exact h.isFolderAt hp
  · cases hp

theorem pathExists (hp : fs.pathExists p = true) : fs'.pathExists p = true := by
  simp only [FileSystem.pathExists, Bool.or_eq_true, isOk_iff] at hp ⊢
  exact hp.imp (Exists.imp fun _ => h.resolve) (Exists.imp fun _ => h.resolve)

theorem hasEntry (hentry : fs.HasEntry folder name) : fs'.HasEntry folder name := by
  obtain ⟨loc, n, hresolve, hloc, hmem⟩ := hentry
  exact ⟨loc, n, h.resolve hresolve, h.isFolderAt hloc,
    mem_nodes_of_node? (h.kept _ _ (node?_of_mem hmem))⟩

theorem hasFolder (hfolder : fs.HasFolder folder name) : fs'.HasFolder folder name :=
  h.isFolder hfolder

end IncludedIn

end FileSystem

end PathTemplates
