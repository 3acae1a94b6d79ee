import PathTemplates.FileSystem.Resolve

namespace PathTemplates

namespace Path

/-- The steps without those that stay in place, but for one at the very end, which asks for a
folder. -/
def tidy : List Step → List Step
  | [] => []
  | s :: rest => if s = .here ∧ rest ≠ [] then tidy rest else s :: tidy rest

theorem tidy_of_inner {s : Step} {rest : List Step} (h : s = .here ∧ rest ≠ []) :
    tidy (s :: rest) = tidy rest := if_pos h

theorem tidy_of_kept {s : Step} {rest : List Step} (h : ¬(s = .here ∧ rest ≠ [])) :
    tidy (s :: rest) = s :: tidy rest := if_neg h

theorem tidy_eq_nil_iff {steps : List Step} : tidy steps = [] ↔ steps = [] := by
  induction steps with
  | nil => simp [tidy]
  | cons s rest ih =>
    unfold tidy
    split
    · next h => simp [ih, h.2]
    · simp

theorem tidy_append (before : List Step) {after : List Step} (h : after ≠ []) :
    tidy (before ++ after) = (before.filter fun s => s ≠ .here) ++ tidy after := by
  induction before with
  | nil => rfl
  | cons s before ih =>
    by_cases hs : s = .here
    · simp [tidy, hs, h, ih]
    · simp [tidy, hs, ih]

theorem tidy_tidy (steps : List Step) : tidy (tidy steps) = tidy steps := by
  induction steps with
  | nil => rfl
  | cons s rest ih =>
    by_cases h : s = .here ∧ rest ≠ []
    · rw [tidy_of_inner h, ih]
    · have h' : ¬(s = .here ∧ tidy rest ≠ []) := fun h' => h ⟨h'.1, mt tidy_eq_nil_iff.2 h'.2⟩
      rw [tidy_of_kept h, tidy_of_kept h', ih]

theorem tidy_append_tidy (before after : List Step) :
    tidy (before ++ tidy after) = tidy (before ++ after) := by
  by_cases h : after = []
  · rw [h]
    rfl
  · rw [tidy_append _ h, tidy_append _ (mt tidy_eq_nil_iff.1 h), tidy_tidy]

theorem filter_tidy (steps : List Step) :
    ((tidy steps).filter fun s => s ≠ .here) = steps.filter fun s => s ≠ .here := by
  induction steps with
  | nil => rfl
  | cons s rest ih =>
    unfold tidy
    split
    · next h => rw [ih, h.1]; rfl
    · rw [List.filter_cons, List.filter_cons, ih]

/-- What comes first counts only up to the steps that stay in place. -/
theorem tidy_append_congr {before before' after : List Step} (h : tidy before = tidy before')
    (hne : after ≠ []) : tidy (before ++ after) = tidy (before' ++ after) := by
  rw [tidy_append _ hne, tidy_append _ hne, ← filter_tidy before, h, filter_tidy]

end Path

namespace FileSystem

open PathTemplates.Path (Step tidy)

variable {fs : FileSystem} {follow : Bool} {loc target : Location} {steps before after : List Step}
  {jump : Location → List Step → Except FileError Location}

theorem walkSteps_of_not_isFolderAt (hne : steps ≠ []) (h : fs.isFolderAt loc = false) :
    fs.walkSteps follow jump loc steps = .error .notAFolder := by
  obtain ⟨s, rest, rfl⟩ := List.exists_cons_of_ne_nil hne
  simp [walkSteps, h]

theorem walkSteps_tidy (hjump : ∀ loc steps, jump loc (tidy steps) = jump loc steps) :
    fs.walkSteps follow jump loc (tidy steps) = fs.walkSteps follow jump loc steps := by
  induction steps generalizing loc with
  | nil => rfl
  | cons s rest ih =>
    unfold tidy
    split
    · next h =>
      rw [ih, h.1]
      cases hfolder : fs.isFolderAt loc with
      | true => simp [walkSteps, hfolder]
      | false =>
        rw [walkSteps_of_not_isFolderAt h.2 hfolder,
          walkSteps_of_not_isFolderAt (List.cons_ne_nil _ _) hfolder]
    · have hrest : tidy rest = [] ↔ rest = [] := Path.tidy_eq_nil_iff
      have hthrough (loc : Location) (front : List Step) :
          jump loc (front ++ tidy rest) = jump loc (front ++ rest) := by
        rw [← hjump, Path.tidy_append_tidy, hjump]
      cases s with
      | here => simp only [walkSteps, ih]
      | up => simp only [walkSteps, ih]
      | enter name => simp only [walkSteps, ih, hrest, hthrough]

theorem resolveSteps_tidy (fs : FileSystem) (follow : Bool) (links : Nat) (loc : Location)
    (steps : List Step) :
    fs.resolveSteps follow links loc (tidy steps) = fs.resolveSteps follow links loc steps := by
  induction links generalizing loc steps with
  | zero => exact walkSteps_tidy fun _ _ => rfl
  | succ links ih => exact walkSteps_tidy ih

/-- The steps lead from one place to another, through at most so many links. -/
inductive Arrives (fs : FileSystem) (follow : Bool) :
    Nat → Location → List Step → Location → Prop
  | done {links : Nat} {loc : Location} : Arrives fs follow links loc [] loc
  | here {links : Nat} {loc target : Location} {rest : List Step}
      (folder : fs.isFolderAt loc = true) (onward : Arrives fs follow links loc rest target) :
      Arrives fs follow links loc (.here :: rest) target
  | up {links : Nat} {loc target : Location} {rest : List Step}
      (folder : fs.isFolderAt loc = true) (onward : Arrives fs follow links loc.tail rest target) :
      Arrives fs follow links loc (.up :: rest) target
  | enter {links : Nat} {loc target : Location} {name : Text} {rest : List Step} {n : Node}
      (folder : fs.isFolderAt loc = true) (short : name.utf8Length ≤ maxNameBytes)
      (entry : fs.node? (.text name :: loc) = some n) (plain : ∀ link, n ≠ .link link)
      (onward : Arrives fs follow links (.text name :: loc) rest target) :
      Arrives fs follow links loc (.enter name :: rest) target
  | stop {links : Nat} {loc : Location} {name link : Text}
      (folder : fs.isFolderAt loc = true) (short : name.utf8Length ≤ maxNameBytes)
      (entry : fs.node? (.text name :: loc) = some (.link link)) (unfollowed : follow = false) :
      Arrives fs follow links loc [.enter name] (.text name :: loc)
  | jump {links : Nat} {loc target : Location} {name link : Text} {rest : List Step}
      (folder : fs.isFolderAt loc = true) (short : name.utf8Length ≤ maxNameBytes)
      (entry : fs.node? (.text name :: loc) = some (.link link))
      (followed : rest ≠ [] ∨ follow = true)
      (onward : Arrives fs follow links (if Path.isAbsolute link then [] else loc)
        (Path.steps link ++ rest) target) :
      Arrives fs follow (links + 1) loc (.enter name :: rest) target

variable {fs' : FileSystem} {links left : Nat} {mid : Location}

theorem arrives_of_walkSteps
    (hjump : ∀ loc steps, jump loc steps = .ok target →
      ∃ left, links = left + 1 ∧ fs.Arrives follow left loc steps target)
    (h : fs.walkSteps follow jump loc steps = .ok target) :
    fs.Arrives follow links loc steps target := by
  induction steps generalizing loc with
  | nil =>
    cases h
    exact .done
  | cons s rest ih =>
    cases hfolder : fs.isFolderAt loc with
    | false =>
      rw [walkSteps_of_not_isFolderAt (List.cons_ne_nil _ _) hfolder] at h
      cases h
    | true =>
      simp only [walkSteps, hfolder, Bool.not_true, Bool.false_eq_true, if_false] at h
      cases s with
      | here => exact .here hfolder (ih h)
      | up => exact .up hfolder (ih h)
      | enter name =>
        dsimp only at h
        split at h
        · cases h
        · next hlength =>
          have hshort := Nat.le_of_not_lt hlength
          split at h
          · cases h
          · next link hnode =>
            split at h
            · next hend =>
              simp only [Bool.and_eq_true, decide_eq_true_eq, Bool.not_eq_true'] at hend
              obtain ⟨rfl, hfollow⟩ := hend
              cases h
              exact .stop hfolder hshort hnode hfollow
            · next hend =>
              obtain ⟨left, rfl, honward⟩ := hjump _ _ h
              refine .jump hfolder hshort hnode ?_ honward
              simpa [Decidable.imp_iff_not_or] using hend
          · next n hplain hnode =>
            exact .enter hfolder hshort hnode (fun link hlink => hplain link (hlink ▸ rfl)) (ih h)

theorem walkSteps_of_arrives
    (hjump : ∀ left loc steps, links = left + 1 → fs.Arrives follow left loc steps target →
      jump loc steps = .ok target)
    (h : fs.Arrives follow links loc steps target) :
    fs.walkSteps follow jump loc steps = .ok target := by
  induction h with
  | done => rfl
  | here folder _ ih => simpa [walkSteps, folder] using ih hjump
  | up folder _ ih => simpa [walkSteps, folder] using ih hjump
  | @enter _ _ _ _ _ n folder short entry plain _ ih =>
    have hlength := Nat.not_lt.2 short
    cases n with
    | link link => exact absurd rfl (plain link)
    | folder => simpa [walkSteps, folder, hlength, entry] using ih hjump
    | file => simpa [walkSteps, folder, hlength, entry] using ih hjump
  | stop folder short entry unfollowed =>
    simp [walkSteps, folder, Nat.not_lt.2 short, entry, unfollowed]
  | @jump _ _ _ _ _ rest folder short entry followed onward _ =>
    have hend : ¬(rest = [] ∧ follow = false) := by
      rintro ⟨hrest, hfollow⟩
      simp [hrest, hfollow] at followed
    simpa [walkSteps, folder, Nat.not_lt.2 short, entry, hend] using hjump _ _ _ rfl onward

/-- Following steps succeeds exactly if they lead somewhere. -/
theorem resolveSteps_eq_ok_iff :
    fs.resolveSteps follow links loc steps = .ok target ↔
      fs.Arrives follow links loc steps target := by
  induction links generalizing loc steps with
  | zero =>
    exact ⟨arrives_of_walkSteps (fun _ _ h => nomatch h),
      walkSteps_of_arrives (fun _ _ _ h => nomatch h)⟩
  | succ links ih =>
    refine ⟨arrives_of_walkSteps fun loc steps h => ⟨links, rfl, ih.1 h⟩,
      walkSteps_of_arrives fun left loc steps hleft h => ?_⟩
    cases hleft
    exact ih.2 h

theorem resolve_eq_ok_iff_arrives {p : Text} : fs.resolve follow p = .ok loc ↔
    checkPath p = .ok () ∧ fs.Arrives follow maxLinks (fs.startOf p) (Path.steps p) loc := by
  unfold resolve
  split
  · next hcheck => simp [hcheck]
  · next hcheck => simp [hcheck, resolveSteps_eq_ok_iff]

namespace Arrives

/-- What is left as it is stays reachable, and through as many links or more. -/
theorem mono (hkept : ∀ loc n, fs.node? loc = some n → fs'.node? loc = some n)
    (h : fs.Arrives follow links loc steps target) {more : Nat} (hmore : links ≤ more) :
    fs'.Arrives follow more loc steps target := by
  have hfolder {loc : Location} (hloc : fs.isFolderAt loc = true) : fs'.isFolderAt loc = true :=
    decide_eq_true (hkept _ _ (of_decide_eq_true hloc))
  induction h generalizing more with
  | done => exact .done
  | here folder _ ih => exact .here (hfolder folder) (ih hmore)
  | up folder _ ih => exact .up (hfolder folder) (ih hmore)
  | enter folder short entry plain _ ih =>
    exact .enter (hfolder folder) short (hkept _ _ entry) plain (ih hmore)
  | stop folder short entry unfollowed =>
    exact .stop (hfolder folder) short (hkept _ _ entry) unfollowed
  | jump folder short entry followed _ ih =>
    obtain ⟨more, rfl⟩ := Nat.exists_eq_succ_of_ne_zero (Nat.ne_zero_of_lt hmore)
    exact .jump (hfolder folder) short (hkept _ _ entry) followed
      (ih (Nat.le_of_succ_le_succ hmore))

/-- One path after another: the links add up. -/
theorem append (h : fs.Arrives true links loc before mid)
    (hafter : fs.Arrives follow left mid after target) (hne : after ≠ []) :
    fs.Arrives follow (links + left) loc (before ++ after) target := by
  induction h with
  | done => exact hafter.mono (fun _ _ h => h) (Nat.le_add_left ..)
  | here folder _ ih => exact .here folder (ih hafter)
  | up folder _ ih => exact .up folder (ih hafter)
  | enter folder short entry plain _ ih => exact .enter folder short entry plain (ih hafter)
  | stop _ _ _ unfollowed => cases unfollowed
  | jump folder short entry _ _ ih =>
    have honward := ih hafter
    rw [List.append_assoc] at honward
    rw [Nat.add_right_comm]
    exact .jump folder short entry (.inl (List.append_ne_nil_of_right_ne_nil _ hne)) honward

/-- A path that leads somewhere leads through each of its beginnings, links followed, and goes on
from there through the links that are left. -/
theorem split (h : fs.Arrives follow links loc (before ++ after) target) (hne : after ≠ []) :
    ∃ mid, fs.Arrives true links loc before mid ∧
      ∃ left ≤ links, fs.Arrives follow left mid after target := by
  have hstart {links : Nat} {loc target : Location}
      (h : fs.Arrives follow links loc ([] ++ after) target) :
      ∃ mid, fs.Arrives true links loc [] mid ∧
        ∃ left ≤ links, fs.Arrives follow left mid after target :=
    ⟨loc, .done, links, Nat.le_refl _, h⟩
  generalize hsteps : before ++ after = steps at h
  induction h generalizing before with
  | done => exact absurd (List.append_eq_nil_iff.1 hsteps).2 hne
  | here folder onward ih =>
    cases before with
    | nil => exact hstart (hsteps ▸ .here folder onward)
    | cons s before =>
      obtain ⟨rfl, hrest⟩ := List.cons.inj hsteps
      obtain ⟨mid, hmid, hleft⟩ := ih hrest
      exact ⟨mid, .here folder hmid, hleft⟩
  | up folder onward ih =>
    cases before with
    | nil => exact hstart (hsteps ▸ .up folder onward)
    | cons s before =>
      obtain ⟨rfl, hrest⟩ := List.cons.inj hsteps
      obtain ⟨mid, hmid, hleft⟩ := ih hrest
      exact ⟨mid, .up folder hmid, hleft⟩
  | enter folder short entry plain onward ih =>
    cases before with
    | nil => exact hstart (hsteps ▸ .enter folder short entry plain onward)
    | cons s before =>
      obtain ⟨rfl, hrest⟩ := List.cons.inj hsteps
      obtain ⟨mid, hmid, hleft⟩ := ih hrest
      exact ⟨mid, .enter folder short entry plain hmid, hleft⟩
  | stop folder short entry unfollowed =>
    cases before with
    | nil => exact hstart (hsteps ▸ .stop folder short entry unfollowed)
    | cons s before => exact absurd (List.append_eq_nil_iff.1 (List.cons.inj hsteps).2).2 hne
  | jump folder short entry followed onward ih =>
    cases before with
    | nil => exact hstart (hsteps ▸ .jump folder short entry followed onward)
    | cons s before =>
      obtain ⟨rfl, rfl⟩ := List.cons.inj hsteps
      obtain ⟨mid, hmid, left, hleft, hafter⟩ := ih (List.append_assoc ..)
      exact ⟨mid, .jump folder short entry (.inr rfl) hmid, left, Nat.le_succ_of_le hleft, hafter⟩

theorem isFolderAt (h : fs.Arrives follow links loc steps target) (hne : steps ≠ []) :
    fs.isFolderAt loc = true := by
  cases h with
  | done => exact absurd rfl hne
  | here folder | up folder | enter folder | stop folder | jump folder => exact folder

end Arrives

/-- A path enters only what is there. -/
theorem Arrives.exists_node {name : Text} {rest : List Step}
    (h : fs.Arrives follow links loc (.enter name :: rest) target) :
    name.utf8Length ≤ maxNameBytes ∧ ∃ n, fs.node? (.text name :: loc) = some n := by
  cases h with
  | enter _ short entry | stop _ short entry | jump _ short entry => exact ⟨short, _, entry⟩

end FileSystem

end PathTemplates
