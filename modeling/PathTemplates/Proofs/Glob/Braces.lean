import PathTemplates.Pattern
import PathTemplates.Proofs.Template.Grammar

namespace PathTemplates

namespace Glob

namespace Reading

variable {r r' : Reading} {seen : Text} {c : Char} {before next : Option Char}

/-- The next character is neither escaped nor in a class. -/
def Outside (r : Reading) : Prop :=
  match r.mode with
  | .plain | .star _ | .stars _ => True
  | _ => False

/-- The open groups are the braces that are open in what has been seen. -/
structure Tracks (r : Reading) (seen : Text) : Prop where
  outside : r.Outside
  unclosed : Unclosed r.groups.length seen

theorem unclosed_char {depth : Nat} (h : Unclosed depth seen) (hopen : c ≠ '{') (hclose : c ≠ '}') :
    Unclosed depth (seen ++ [c]) :=
  h.append (.single hopen hclose)

theorem tracks_takePlain (h : Unclosed r.groups.length seen) (hescape : c ≠ '\\') (hclass : c ≠ '[')
    (htake : r.takePlain c = .ok r') : r'.Tracks (seen ++ [c]) := by
  simp only [takePlain, if_neg hescape, if_neg hclass] at htake
  split at htake
  · next hc =>
    cases htake
    subst hc
    exact ⟨trivial, unclosed_char h (by decide) (by decide)⟩
  split at htake
  · next hc =>
    cases htake
    subst hc
    exact ⟨trivial, unclosed_char h (by decide) (by decide)⟩
  split at htake
  · next hc =>
    cases htake
    subst hc
    exact ⟨trivial, h.opened⟩
  split at htake
  · next hc =>
    subst hc
    unfold closeGroup at htake
    split at htake
    · cases htake
    · next g gs hgroups =>
      cases htake
      rw [hgroups] at h
      exact ⟨trivial, h.closed⟩
  next hopen hclose =>
  split at htake
  · cases htake
    have hgroups : r.nextBranch.Outside ∧ r.nextBranch.groups.length = r.groups.length := by
      unfold nextBranch
      split
      · exact ⟨trivial, rfl⟩
      · next g gs hgroups => exact ⟨trivial, by rw [hgroups]; rfl⟩
    exact ⟨hgroups.1, hgroups.2 ▸ unclosed_char h hopen hclose⟩
  · cases htake
    exact ⟨trivial, unclosed_char h hopen hclose⟩

theorem groups_pushFolders (r : Reading) (item : GlobItem) :
    (r.pushFolders item).Outside ∧ (r.pushFolders item).groups = r.groups := by
  unfold pushFolders
  split <;> exact ⟨trivial, rfl⟩

/-- Two stars take no brace with them. -/
theorem closeStars_cases (r : Reading) (before next : Option Char) :
    (r.closeStars before next).1.Outside ∧ (r.closeStars before next).1.groups = r.groups ∧
      ((r.closeStars before next).2 = true → next = none ∨ next = some '/') := by
  unfold closeStars
  split
  · split
    · next hnext => exact ⟨trivial, rfl, fun _ => by simpa using hnext⟩
    · exact ⟨trivial, rfl, nofun⟩
  split
  · exact ⟨trivial, rfl, nofun⟩
  split
  · exact ⟨(groups_pushFolders ..).1, (groups_pushFolders ..).2, nofun⟩
  split
  · next hnext => exact ⟨(groups_pushFolders ..).1, (groups_pushFolders ..).2, fun _ => .inr hnext⟩
  · exact ⟨trivial, rfl, nofun⟩

theorem Tracks.take (h : r.Tracks seen) (hescape : c ≠ '\\') (hclass : c ≠ '[')
    (htake : r.take c = .ok r') : r'.Tracks (seen ++ [c]) := by
  obtain ⟨s, hs, rfl⟩ := exists_of_map_eq_ok htake
  suffices hsuffices : s.Tracks (seen ++ [c]) from ⟨hsuffices.outside, hsuffices.unclosed⟩
  obtain ⟨houtside, hunclosed⟩ := h
  unfold takeByMode at hs
  split at hs
  · exact tracks_takePlain hunclosed hescape hclass hs
  · next hmode => simp [Outside, hmode] at houtside
  · split at hs
    · next hc =>
      cases hs
      subst hc
      exact ⟨trivial, unclosed_char hunclosed (by decide) (by decide)⟩
    · exact tracks_takePlain (r := r.push .anyBytes) hunclosed hescape hclass hs
  · next before _ =>
    obtain ⟨hclosed, hgroups, hslash⟩ := closeStars_cases r before (some c)
    split at hs
    · next s' hstars =>
      cases hs
      rw [hstars] at hclosed hgroups hslash
      obtain hc | hc := hslash rfl
      · cases hc
      · cases hc
        exact ⟨hclosed, hgroups ▸ unclosed_char hunclosed (by decide) (by decide)⟩
    · next s' hstars =>
      rw [hstars] at hgroups
      exact tracks_takePlain (hgroups ▸ hunclosed) hescape hclass hs
  · next hmode => simp [Outside, hmode] at houtside
  · next hmode => simp [Outside, hmode] at houtside

/-- At the end no group may be open. -/
theorem Tracks.balanced {items : List GlobItem} (h : r.Tracks seen)
    (hfinish : r.finish = .ok items) : Balanced seen := by
  obtain ⟨houtside, hunclosed⟩ := h
  have hgroups {s : Reading} (hs : r.finishMode = .ok s) : s.groups = r.groups := by
    unfold finishMode at hs
    split at hs
    · cases hs
      rfl
    · cases hs
    · cases hs
      rfl
    · cases hs
      exact (closeStars_cases ..).2.1
    · cases hs
    · cases hs
  unfold finish at hfinish
  split at hfinish
  · cases hfinish
  · next s hs =>
    split at hfinish
    · next hempty =>
      rw [hgroups hs, List.isEmpty_iff] at hempty
      rw [hempty] at hunclosed
      exact hunclosed.balanced
    · cases hfinish

end Reading

variable {r : Reading} {seen text : Text}

theorem balanced_of_readItems {items : List GlobItem} (h : r.Tracks seen) (hescape : '\\' ∉ text)
    (hclass : '[' ∉ text) (hread : readItems r text = .ok items) : Balanced (seen ++ text) := by
  induction text generalizing r seen with
  | nil =>
    rw [List.append_nil]
    exact h.balanced hread
  | cons c text ih =>
    rw [List.mem_cons, not_or] at hescape hclass
    unfold readItems at hread
    split at hread
    · cases hread
    · next r' htake =>
      have hnext :=
        ih (h.take (Ne.symm hescape.1) (Ne.symm hclass.1) htake) hescape.2 hclass.2 hread
      rwa [List.append_assoc] at hnext

/-- Only a backslash or a class lets a brace stand for itself in a glob. -/
theorem balanced_of_read {g : Glob} (h : read text = .ok g) (hescape : '\\' ∉ text)
    (hclass : '[' ∉ text) : Balanced text := by
  obtain ⟨items, hitems, _⟩ := exists_of_map_eq_ok h
  have hstart : Reading.start.Tracks [] := ⟨trivial, .zero .nil⟩
  exact balanced_of_readItems hstart hescape hclass hitems

/-- An `x` in as many groups, one inside the other. -/
def nested : Nat → Text
  | 0 => ['x']
  | n + 1 => '{' :: (nested n ++ ['}'])

end Glob

namespace Pattern

variable {mode : PatternMode} {text : Text}

theorem balanced_of_compile {p : Pattern} (h : compile .glob text = .ok p) (hescape : '\\' ∉ text)
    (hclass : '[' ∉ text) : Balanced text := by
  unfold compile at h
  split at h
  · next hempty =>
    rw [hempty]
    exact .nil
  · dsimp only at h
    split at h
    · next g hread => exact Glob.balanced_of_read hread hescape hclass
    · cases h

/-- Only globs that can be read are ever too deep. -/
theorem compile_eq_panicked_iff : compile mode text = .error .panicked ↔
    mode = .glob ∧ ∃ g, Glob.read text = .ok g ∧ g.isTooDeep = true := by
  by_cases hempty : text = []
  · subst hempty
    have hshallow (g : Glob) (h : Glob.read [] = .ok g) : g.isTooDeep = false := by
      cases h
      decide
    refine iff_of_false (by simp [compile]) fun ⟨_, g, hread, hdeep⟩ => ?_
    simp [hshallow g hread] at hdeep
  · simp only [compile, if_neg hempty]
    cases mode with
    | glob =>
      cases Glob.read text with
      | error e => simp
      | ok g => cases hdeep : g.isTooDeep <;> simp [hdeep]
    | regex => cases Regex.read _ (anchored text) <;> simp
    | regexIgnoreCase => cases Regex.read _ (anchored text) <;> simp

end Pattern

end PathTemplates
