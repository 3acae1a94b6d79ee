import PathTemplates.Proofs.FileSystem.Below
import PathTemplates.Proofs.Listing.Spelling

namespace PathTemplates

namespace Plan

variable {α β : Type} {literals cs : List Component} {f : Placeholder → Placeholder}
  {extent : Extent} {checkExists : Bool} {p : Plan}

theorem lastIndex?_append {holds : α → Bool} {xs : List α} (h : ∀ x ∈ xs, holds x = false)
    (ys : List α) :
    lastIndex? holds (xs ++ ys) = (lastIndex? holds ys).map (xs.length + ·) := by
  induction xs with
  | nil => simp
  | cons x xs ih =>
    obtain ⟨hx, hxs⟩ := List.forall_mem_cons.1 h
    rw [List.cons_append, lastIndex?, ih hxs]
    cases lastIndex? holds ys with
    | none => simp [hx]
    | some i => simp [Nat.add_right_comm]

theorem lastIndex?_map (f : α → β) (holds : β → Bool) (xs : List α) :
    lastIndex? holds (xs.map f) = lastIndex? (fun x => holds (f x)) xs := by
  induction xs with
  | nil => rfl
  | cons x xs ih => rw [List.map_cons, lastIndex?, lastIndex?, ih]

/-- The plan with literal components in front, and with other placeholders of the same names. -/
def behind (literals : List Component) (f : Placeholder → Placeholder) (p : Plan) : Plan :=
  ⟨literals ++ p.components.map (Component.relabel f), literals.length + p.depth,
    literals.length + p.last, p.kept⟩

theorem nextOpen_behind (hf : ∀ p, (f p).name = p.name) (p : Plan) (i : Nat) :
    (p.behind literals f).nextOpen (literals.length + i) = literals.length + p.nextOpen i := by
  rw [nextOpen, nextOpen, behind, List.drop_length_add_append, ← List.map_drop, List.findIdx_map,
    Nat.add_assoc]
  simp only [Function.comp_def, Component.isOpen_relabel hf]

section

variable (hclosed : ∀ k ∈ literals, k.isOpen = false) (hf : ∀ p, (f p).name = p.name)
include hclosed hf

theorem lastIndex?_isOpen_behind (cs : List Component) :
    lastIndex? Component.isOpen (literals ++ cs.map (Component.relabel f)) =
      (lastIndex? Component.isOpen cs).map (literals.length + ·) := by
  rw [lastIndex?_append hclosed, lastIndex?_map]
  simp only [Component.isOpen_relabel hf]

theorem target?_behind (cs : List Component) (last : Nat) (extent : Extent) :
    target? (literals ++ cs.map (Component.relabel f)) (literals.length + last) extent =
      (target? cs last extent).map (literals.length + ·) := by
  cases extent with
  | all => rfl
  | targets names =>
    have hnames : ∀ k ∈ literals, (k.names.any names.contains) = false := fun k hk => by
      rw [Component.isOpen_eq_false_iff.1 (hclosed k hk)]
      rfl
    rw [target?, target?, lastIndex?_append hnames, lastIndex?_map]
    simp only [Component.names_relabel hf]

theorem keptUpTo_behind (cs : List Component) (target : Option Nat) :
    keptUpTo (literals ++ cs.map (Component.relabel f)) (target.map (literals.length + ·)) =
      keptUpTo cs target := by
  cases target with
  | none => rfl
  | some target =>
    have hnames : literals.flatMap Component.names = [] :=
      Component.flatMap_names_eq_nil_iff.2 hclosed
    rw [Option.map_some, keptUpTo, keptUpTo, Nat.add_assoc, List.take_length_add_append,
      List.flatMap_append, hnames, List.nil_append, ← List.map_take, List.flatMap_map]
    simp only [Component.names_relabel hf]

/-- What is settled about a walk does not change with literal components in front, but for the
places. -/
theorem make?_behind (cs : List Component) (checkExists : Bool) (extent : Extent) :
    make? (literals ++ cs.map (Component.relabel f)) checkExists extent =
      (make? cs checkExists extent).map (behind literals f) := by
  rw [make?, make?, lastIndex?_isOpen_behind hclosed hf]
  cases lastIndex? Component.isOpen cs with
  | none => rfl
  | some last =>
    rw [Option.map_some]
    dsimp only
    rw [target?_behind hclosed hf, keptUpTo_behind hclosed hf]
    cases checkExists with
    | true => rfl
    | false => cases target? cs last extent <;> rfl

theorem nextOpen_behind_zero (p : Plan) :
    (p.behind literals f).nextOpen 0 = literals.length + p.nextOpen 0 := by
  have hliterals : literals.findIdx Component.isOpen = literals.length :=
    List.findIdx_eq_length_of_false hclosed
  rw [nextOpen, nextOpen, behind, List.drop_zero, List.drop_zero, List.findIdx_append, hliterals,
    if_neg (Nat.lt_irrefl _), List.findIdx_map, Nat.zero_add, Nat.zero_add, Nat.add_comm]
  simp only [Function.comp_def, Component.isOpen_relabel hf]

/-- The walk has the same components ahead of it. -/
theorem ahead_behind (p : Plan) :
    (p.behind literals f).ahead ((p.behind literals f).nextOpen 0) =
      (p.ahead (p.nextOpen 0)).map (Component.relabel f) := by
  have hstop : (p.behind literals f).stop = literals.length + p.stop :=
    nextOpen_behind hf p (p.depth + 1)
  rw [nextOpen_behind_zero hclosed hf, ahead, ahead, hstop, behind]
  dsimp only
  rw [List.take_length_add_append, List.drop_length_add_append, ← List.map_take, ← List.map_drop]

end

/-- The walk starts at an open component. -/
theorem Valid.exists_head_ahead (valid : p.Valid) :
    ∃ k ∈ (p.ahead (p.nextOpen 0)).head?, k.isOpen = true := by
  obtain ⟨hle, k, hk, hopen⟩ := ready_start valid _ (List.mem_singleton_self _)
  rw [ahead_eq_cons hk (valid.nextOpen_le_stop hle)]
  exact ⟨k, rfl, hopen⟩

end Plan

namespace Crumb

open FileSystem (FolderAt)
open PathTemplates.Path (Beneath)

variable {fs : FileSystem} {c : Crumb} {more : Prop} {folder p q stop : Text}
  {ks : List Component} {u : Assignment} {pieces : List Text} {loc : Location}

section

variable (hfolder : fs.FolderAt folder loc)
include hfolder

/-- What leads down below the folder leads down from there. -/
theorem Descends.of_below (h : Descends fs c more p ks u stop) (hks : ∀ k ∈ ks, k.Unslashed)
    (hb : Beneath folder pieces p q)
    (hstart : pieces ≠ [] ∨ ∃ k ∈ ks.head?, k.isOpen = true) :
    ∃ stop', Descends (fs.movedTo loc) c more q ks u stop' ∧
      (fs.pathExists stop = true → (fs.movedTo loc).pathExists stop' = true) := by
  induction h generalizing q pieces with
  | stop =>
    have hne : pieces ≠ [] := hstart.resolve_right (by simp)
    exact ⟨q, .stop, FileSystem.pathExists_of_below hfolder hb hne⟩
  | literal closed rest ih =>
    have hne : pieces ≠ [] := hstart.resolve_right (by simp [closed])
    obtain ⟨hk, hks⟩ := List.forall_mem_cons.1 hks
    obtain ⟨stop', hrest, hexists⟩ :=
      ih hks (hb.push (hk.text closed) (.inl hne)) (.inl (by simp))
    exact ⟨stop', .literal closed hrest, hexists⟩
  | entry isOpen there inside kept fits allowed rest ih =>
    obtain ⟨_, hks⟩ := List.forall_mem_cons.1 hks
    have name := there.fileName
    obtain ⟨stop', hrest, hexists⟩ :=
      ih hks (hb.push name.no_slash (.inr name.ne_nil)) (.inl (by simp))
    exact ⟨stop', .entry isOpen (FileSystem.hasEntry_of_below hfolder hb there)
      (fun h => FileSystem.hasFolder_of_below hfolder hb name (inside h)) kept fits allowed hrest,
      hexists⟩

/-- What leads down from the folder leads down with the folder in front, as far as the paths on the
way are in reach. -/
theorem Descends.put_below (h : Descends (fs.movedTo loc) c more q ks u stop)
    (hks : ∀ k ∈ ks, k.Unslashed) (hb : Beneath folder pieces p q)
    (hstart : pieces ≠ [] ∨ ∃ k ∈ ks.head?, k.isOpen = true)
    (value : Text → Option Text) (hvalue : ∀ b ∈ u, value b.name = some b.value)
    (hreach : ∀ n p, p = ((ks.take n).map (Component.fill value)).foldl Path.push q →
      (fs.movedTo loc).pathExists p = true → fs.InReach folder loc p) :
    ∃ stop', Descends fs c more p ks u stop' ∧
      ((fs.movedTo loc).pathExists stop = true → fs.pathExists stop' = true) := by
  induction h generalizing p pieces with
  | stop =>
    refine ⟨p, .stop, fun hexists => ?_⟩
    exact FileSystem.pathExists_below hfolder hb (hreach 0 _ rfl hexists) hexists
  | @literal q k ks u stop closed rest ih =>
    have hne : pieces ≠ [] := hstart.resolve_right (by simp [closed])
    obtain ⟨hk, hks⟩ := List.forall_mem_cons.1 hks
    obtain ⟨stop', hrest, hexists⟩ :=
      ih hks (hb.push (hk.text closed) (.inl hne)) (.inl (by simp)) hvalue fun n p hp =>
        hreach (n + 1) p (by rw [hp, List.take_succ_cons, List.map_cons, List.foldl_cons,
          Component.fill_of_closed closed])
    exact ⟨stop', .literal closed hrest, hexists⟩
  | @entry q k ks e bindings u stop isOpen there inside kept fits allowed rest ih =>
    obtain ⟨_, hks⟩ := List.forall_mem_cons.1 hks
    obtain ⟨hbindings, hu⟩ := List.forall_mem_append.1 hvalue
    have hfill := Component.fill_of_matchEntry fits hbindings
    have name := there.fileName
    have hreach' : ∀ n p, p = ((ks.take n).map (Component.fill value)).foldl Path.push
        (Path.push q e) → (fs.movedTo loc).pathExists p = true → fs.InReach folder loc p :=
      fun n p hp => hreach (n + 1) p (by rw [hp, List.take_succ_cons, List.map_cons,
        List.foldl_cons, hfill])
    obtain ⟨stop', hrest, hexists⟩ :=
      ih hks (hb.push name.no_slash (.inr name.ne_nil)) (.inl (by simp)) hu hreach'
    exact ⟨stop', .entry isOpen (FileSystem.hasEntry_below hfolder hb (hreach 0 q rfl) there)
      (fun h => FileSystem.hasFolder_below hfolder hb name (hreach' 0 _ rfl) (inside h))
      kept fits allowed hrest, hexists⟩

end

end Crumb

end PathTemplates
