import Mathlib.Data.List.Nodup
import PathTemplates.FileSystem.Create

namespace PathTemplates

theorem FileName.step_eq {t : Text} (h : FileName t) : Path.step t = .enter t := by
  simp [Path.step, h.ne_nil, h.ne_dot, h.ne_dots]

namespace FileSystem

variable {fs fs' : FileSystem} {n : Node} {p : Text} {loc : Location}

theorem fileName_of_mem {name : Text} (h : (EntryName.text name :: loc, n) ∈ fs.nodes) :
    FileName name := by
  obtain ⟨_, hhead, hvalid⟩ := fs.named _ h
  cases hhead
  exact hvalid

theorem node?_of_mem {name : EntryName} (h : (name :: loc, n) ∈ fs.nodes) :
    fs.node? (name :: loc) = some n := by
  cases hnode : fs.node? (name :: loc) with
  | none =>
    rw [node?, if_neg (List.cons_ne_nil _ _), Option.map_eq_none_iff] at hnode
    simpa using List.find?_eq_none.1 hnode _ h
  | some k =>
    have hsame := List.inj_on_of_nodup_map fs.distinct (mem_nodes_of_node? hnode) h rfl
    exact congrArg some (Prod.mk.inj hsame).2

/-- Every entry is in a folder. -/
theorem isFolderAt_of_node? {name : EntryName} (h : fs.node? (name :: loc) = some n) :
    fs.isFolderAt loc = true := by
  cases loc with
  | nil => rfl
  | cons parent above =>
    obtain hroot | hmem := fs.grounded _ (mem_nodes_of_node? h)
    · cases hroot
    · exact decide_eq_true (node?_of_mem hmem)

/-- The last part of a path that is made anew has characters. -/
theorem ne_nil_of_partsOfNew {name : Text} (h : (partsOfNew p).getLast? = some name) :
    name ≠ [] := by
  rw [partsOfNew, List.getLast?_reverse] at h
  have hhead :=
    List.head?_dropWhile_not (fun t => decide (t = ([] : Text))) (Text.split '/' p).reverse
  rw [h] at hhead
  simpa using hhead

/-- A path at whose end something can be made: `loc` is the folder that it goes into. -/
structure NewEntry (fs : FileSystem) (p name : Text) (loc : Location) : Prop where
  path : checkPath p = .ok ()
  last : (partsOfNew p).getLast? = some name
  short : name.utf8Length ≤ maxNameBytes
  parent : fs.resolveSteps true maxLinks (fs.startOf p)
    ((partsOfNew p).dropLast.map Path.step ++ [.here]) = .ok loc
  room : fs.Room (.text name) loc

theorem create_eq_ok (h : fs.create n p = .ok fs') :
    ∃ name loc, ∃ new : fs.NewEntry p name loc, fs' = fs.add n new.room := by
  unfold create at h
  split at h
  · cases h
  · next hcheck =>
    split at h
    · cases h
    · next name hname =>
      unfold addIn at h
      split at h
      · cases h
      · next loc hparent =>
        split at h
        · cases h
        · next hlength =>
          split at h
          · next room =>
            cases h
            exact ⟨name, loc, ⟨hcheck, hname, Nat.le_of_not_lt hlength, hparent, room⟩, rfl⟩
          · cases h

end FileSystem

end PathTemplates
