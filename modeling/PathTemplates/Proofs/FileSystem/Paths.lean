import Mathlib.Data.List.Basic
import Mathlib.Data.List.Induction
import PathTemplates.Proofs.FileSystem.Names
import PathTemplates.Proofs.FileSystem.Resolution
import PathTemplates.Proofs.Listing.Descent
import PathTemplates.Proofs.Text.Pieces

namespace PathTemplates

namespace Path

variable {p : Text} {pieces : List Text}

/-- The path with these pieces; a single empty one is the root. -/
def ofPieces (pieces : List Text) : Text :=
  let t := Text.join ['/'] pieces
  if t = [] && !pieces.isEmpty then ['/'] else t

/-- The path leads along the pieces, and has no more slashes than it takes to join them. -/
structure Follows (p : Text) (pieces : List Text) : Prop where
  nil_iff : p = [] ↔ pieces = []
  absolute : isAbsolute p = decide (pieces.head? = some [])
  ends : endsInSlash p = decide (pieces.getLast? = some [])
  steps : pieces ≠ [] → tidy (steps p) = tidy (pieces.map step)
  nul : '\x00' ∈ p ↔ ∃ t ∈ pieces, '\x00' ∈ t
  length : p.utf8Length ≤ (ofPieces pieces).utf8Length

theorem ofPieces_eq_join (h : Text.join ['/'] pieces ≠ []) :
    ofPieces pieces = Text.join ['/'] pieces := by
  simp [ofPieces, h]

theorem length_join_le (pieces : List Text) :
    (Text.join ['/'] pieces).utf8Length ≤ (ofPieces pieces).utf8Length := by
  unfold ofPieces
  dsimp only
  split
  · next h =>
    simp only [Bool.and_eq_true, decide_eq_true_eq] at h
    rw [h.1]
    exact Nat.zero_le _
  · exact Nat.le_refl _

theorem join_eq_nil_iff : Text.join ['/'] pieces = [] ↔ pieces = [] ∨ pieces = [[]] := by
  cases pieces with
  | nil => simp [Text.join]
  | cons p rest =>
    cases rest with
    | nil => simp [Text.join]
    | cons q rest => simp [Text.join_cons_cons]

theorem isAbsolute_of_no_slash {t : Text} (h : '/' ∉ t) : isAbsolute t = false :=
  decide_eq_false fun e => h (List.mem_of_mem_head? e)

theorem endsInSlash_of_no_slash {t : Text} (h : '/' ∉ t) : endsInSlash t = false :=
  decide_eq_false fun e => h (List.mem_of_getLast? e)

theorem isAbsolute_append {t : Text} (h : p ≠ []) : isAbsolute (p ++ t) = isAbsolute p := by
  obtain ⟨c, p, rfl⟩ := List.exists_cons_of_ne_nil h
  rfl

theorem endsInSlash_append {t : Text} (h : t ≠ []) : endsInSlash (p ++ t) = endsInSlash t := by
  rw [endsInSlash, List.getLast?_append_of_ne_nil _ h]
  rfl

theorem endsInSlash_append_slash {t : Text} (h : '/' ∉ t) :
    endsInSlash (p ++ '/' :: t) = decide (t = []) := by
  cases t with
  | nil => simp [endsInSlash]
  | cons c t =>
    rw [List.append_cons, endsInSlash_append (List.cons_ne_nil _ _), endsInSlash_of_no_slash h]
    rfl

theorem isAbsolute_join (h : ∀ t ∈ pieces, '/' ∉ t) (hne : Text.join ['/'] pieces ≠ []) :
    isAbsolute (Text.join ['/'] pieces) = decide (pieces.head? = some []) := by
  cases pieces with
  | nil => exact absurd rfl hne
  | cons t rest =>
    have ht := isAbsolute_of_no_slash (h t (List.mem_cons_self ..))
    cases t with
    | nil =>
      cases rest with
      | nil => exact absurd rfl hne
      | cons q rest => rfl
    | cons c t =>
      cases rest with
      | nil => exact ht
      | cons q rest => exact ht

theorem endsInSlash_join (h : ∀ t ∈ pieces, '/' ∉ t) (hne : Text.join ['/'] pieces ≠ []) :
    endsInSlash (Text.join ['/'] pieces) = decide (pieces.getLast? = some []) := by
  induction pieces using List.reverseRecOn with
  | nil => exact absurd rfl hne
  | append_singleton front t _ =>
    have ht : '/' ∉ t := h t (List.mem_append_right _ (List.mem_singleton_self t))
    rw [List.getLast?_append_of_ne_nil _ (List.cons_ne_nil _ _), List.getLast?_singleton]
    by_cases hfront : front = []
    · subst hfront
      have htne : t ≠ [] := hne
      simpa [Text.join, htne] using endsInSlash_of_no_slash ht
    · rw [Text.join_append_singleton _ hfront, List.append_assoc, List.singleton_append,
        endsInSlash_append_slash ht]
      simp

theorem follows_ofPieces (h : ∀ t ∈ pieces, '/' ∉ t) : Follows (ofPieces pieces) pieces := by
  by_cases hnil : pieces = []
  · subst hnil
    exact ⟨by simp [ofPieces, Text.join], rfl, rfl, fun h => absurd rfl h, by
      simp [ofPieces, Text.join], Nat.le_refl _⟩
  · by_cases hroot : pieces = [[]]
    · subst hroot
      exact ⟨by simp [ofPieces, Text.join], rfl, rfl, fun _ => rfl, by
        simp [ofPieces, Text.join], Nat.le_refl _⟩
    · have hjoin : Text.join ['/'] pieces ≠ [] := by simp [join_eq_nil_iff, hnil, hroot]
      rw [ofPieces_eq_join hjoin]
      refine ⟨by simp [hjoin, hnil], isAbsolute_join h hjoin, endsInSlash_join h hjoin, fun _ => ?_,
        Text.mem_join (by simp),
        Nat.le_of_eq (congrArg Text.utf8Length (ofPieces_eq_join hjoin).symm)⟩
      rw [steps, Text.split_join hnil h]

theorem follows_join (h : ∀ t ∈ pieces, '/' ∉ t) (hne : Text.join ['/'] pieces ≠ []) :
    Follows (Text.join ['/'] pieces) pieces := by
  rw [← ofPieces_eq_join hne]
  exact follows_ofPieces h

theorem push_eq {t : Text} (h : '/' ∉ t) :
    push p t = if p = [] ∨ endsInSlash p = true then p ++ t else p ++ '/' :: t := by
  simp [push, isAbsolute_of_no_slash h]

/-- What is pushed comes behind the last slash, whether that one is new or not. -/
theorem tidy_steps_push {t : Text} (hp : p ≠ []) (ht : '/' ∉ t) :
    tidy (steps (push p t)) = tidy (steps p ++ [step t]) := by
  rw [push_eq ht]
  by_cases hslash : endsInSlash p = true
  · obtain ⟨front, rfl⟩ : ∃ front, p = front ++ ['/'] := by
      obtain ⟨front, hfront⟩ := List.getLast?_eq_some_iff.1 (of_decide_eq_true hslash)
      exact ⟨front, hfront⟩
    have hsplit : Text.split '/' [] = [[]] := rfl
    rw [if_pos (.inr hslash), steps, steps, List.append_assoc, List.singleton_append,
      Text.split_append_separator, Text.split_append_separator, Text.split_eq_singleton ht,
      hsplit, List.map_append, List.map_append, List.append_assoc, tidy_append _ (by simp),
      tidy_append _ (by simp)]
    rfl
  · rw [if_neg (not_or.2 ⟨hp, hslash⟩), steps, steps, Text.split_append_separator,
      Text.split_eq_singleton ht, List.map_append]
    rfl

theorem length_push {t : Text} (ht : '/' ∉ t) :
    (push p t).utf8Length =
      p.utf8Length + (if p = [] ∨ endsInSlash p = true then 0 else 1) + t.utf8Length := by
  have hslash : Text.utf8Length ('/' :: t) = 1 + t.utf8Length := Text.utf8Length_append ['/'] t
  rw [push_eq ht]
  split
  · rw [Text.utf8Length_append, Nat.add_zero]
  · rw [Text.utf8Length_append, hslash, Nat.add_assoc]

theorem length_ofPieces_append {t : Text} (hne : pieces ≠ []) :
    (ofPieces (pieces ++ [t])).utf8Length =
      (Text.join ['/'] pieces).utf8Length + 1 + t.utf8Length := by
  have hjoin := Text.join_append_singleton ['/'] hne t
  have hone : Text.utf8Length ['/'] = 1 := rfl
  rw [ofPieces_eq_join (by simp [hjoin]), hjoin, Text.utf8Length_append, Text.utf8Length_append,
    hone]

theorem isAbsolute_push {t : Text} (hp : p ≠ []) (ht : '/' ∉ t) :
    isAbsolute (push p t) = isAbsolute p := by
  rw [push_eq ht]
  split <;> exact isAbsolute_append hp

theorem endsInSlash_push {t : Text} (hp : p ≠ []) (ht : '/' ∉ t) :
    endsInSlash (push p t) = decide (t = []) := by
  rw [push_eq ht]
  split
  · next hor =>
    by_cases htne : t = []
    · subst htne
      simpa using hor.resolve_left hp
    · rw [endsInSlash_append htne, endsInSlash_of_no_slash ht, decide_eq_false htne]
  · exact endsInSlash_append_slash ht

theorem nul_mem_push {t : Text} (ht : '/' ∉ t) :
    '\x00' ∈ push p t ↔ '\x00' ∈ p ∨ '\x00' ∈ t := by
  rw [push_eq ht]
  split <;> simp

/-- A slash is saved where the path has one at its end, never lost. -/
theorem Follows.length_push_le_ofPieces {t : Text} (h : Follows p pieces) (ht : '/' ∉ t)
    (hne : pieces ≠ []) :
    (Path.push p t).utf8Length ≤ (ofPieces (pieces ++ [t])).utf8Length := by
  have hlength := h.length
  rw [length_push ht, length_ofPieces_append hne]
  split
  · -- The root is the one path that is longer than its joined pieces.
    have hroot : (ofPieces pieces).utf8Length ≤ (Text.join ['/'] pieces).utf8Length + 1 := by
      unfold ofPieces
      dsimp only
      split
      · exact Nat.le_add_left 1 _
      · exact Nat.le_succ _
    omega
  · next hnot =>
    have hjoin : Text.join ['/'] pieces ≠ [] := by
      rw [ne_eq, join_eq_nil_iff, not_or]
      refine ⟨hne, fun e => hnot (.inr ?_)⟩
      rw [h.ends, e]
      rfl
    rw [ofPieces_eq_join hjoin] at hlength
    omega

theorem Follows.push {t : Text} (h : Follows p pieces) (ht : '/' ∉ t)
    (hne : pieces ≠ [] ∨ t ≠ []) : Follows (push p t) (pieces ++ [t]) := by
  by_cases hpieces : pieces = []
  · have hp : p = [] := h.nil_iff.2 hpieces
    have htne : t ≠ [] := hne.resolve_left (absurd hpieces)
    subst hp
    subst hpieces
    have hself : Path.push [] t = ofPieces [t] := by
      rw [ofPieces_eq_join (by simpa [Text.join] using htne), push_eq ht, if_pos (.inl rfl)]
      rfl
    rw [hself]
    exact follows_ofPieces (by simpa using ht)
  · have hp : p ≠ [] := fun e => hpieces (h.nil_iff.1 e)
    refine ⟨?_, ?_, ?_, fun _ => ?_, ?_, h.length_push_le_ofPieces ht hpieces⟩
    · rw [push_eq ht]
      split <;> simp [hp]
    · have hhead : (pieces ++ [t]).head? = pieces.head? := List.head?_append_of_ne_nil _ hpieces
      rw [hhead, ← h.absolute, isAbsolute_push hp ht]
    · rw [List.getLast?_concat, endsInSlash_push hp ht]
      simp
    · rw [tidy_steps_push hp ht, tidy_append_congr (h.steps hpieces) (by simp), List.map_append]
      rfl
    · rw [nul_mem_push ht, h.nul]
      simp [or_and_right, exists_or]

/-- Of two ways to write the pieces, the shorter one stays shorter. -/
theorem Follows.length_push_le {q t : Text} (hp : Follows p pieces) (hq : Follows q pieces)
    (ht : '/' ∉ t) (h : p.utf8Length ≤ q.utf8Length) :
    (Path.push p t).utf8Length ≤ (Path.push q t).utf8Length := by
  have hiff : p = [] ∨ endsInSlash p = true ↔ q = [] ∨ endsInSlash q = true := by
    rw [hp.nil_iff, hq.nil_iff, hp.ends, hq.ends]
  simp only [length_push ht, hiff]
  omega

end Path

namespace FileSystem

open PathTemplates.Path (Follows Step tidy)

variable {fs : FileSystem} {follow : Bool} {loc : Location} {p q e : Text}
  {pieces before after : List Text}

/-- Where a path with these pieces leads as long as it is not too long to be written. -/
structure Leads (fs : FileSystem) (follow : Bool) (pieces : List Text) (loc : Location) : Prop where
  no_nul : ∀ t ∈ pieces, '\x00' ∉ t
  resolves : fs.resolveSteps follow maxLinks (if pieces.head? = some [] then [] else fs.current)
    (pieces.map Path.step) = .ok loc

theorem leads_iff_arrives : fs.Leads follow pieces loc ↔ (∀ t ∈ pieces, '\x00' ∉ t) ∧
    fs.Arrives follow maxLinks (if pieces.head? = some [] then [] else fs.current)
      (pieces.map Path.step) loc :=
  ⟨fun h => ⟨h.no_nul, resolveSteps_eq_ok_iff.1 h.resolves⟩,
    fun h => ⟨h.1, resolveSteps_eq_ok_iff.2 h.2⟩⟩

theorem checkPath_eq_ok_iff :
    checkPath p = .ok () ↔ '\x00' ∉ p ∧ p ≠ [] ∧ p.utf8Length ≤ maxPathBytes := by
  unfold checkPath
  by_cases hnul : '\x00' ∈ p
  · simp [hnul]
  · by_cases hnil : p = []
    · simp [hnil]
    · by_cases hlength : maxPathBytes < p.utf8Length
      · simp [hnul, hnil, hlength]
      · simp [hnul, hnil, hlength, Nat.le_of_not_lt hlength]

theorem resolve_eq_ok_iff (h : Follows p pieces) (hne : pieces ≠ []) :
    fs.resolve follow p = .ok loc ↔ p.utf8Length ≤ maxPathBytes ∧ fs.Leads follow pieces loc := by
  have hstart : fs.startOf p = if pieces.head? = some [] then [] else fs.current := by
    simp [startOf, h.absolute]
  have hsteps : fs.resolveSteps follow maxLinks (fs.startOf p) (Path.steps p) =
      fs.resolveSteps follow maxLinks (if pieces.head? = some [] then [] else fs.current)
        (pieces.map Path.step) := by
    rw [← resolveSteps_tidy, h.steps hne, resolveSteps_tidy, hstart]
  have hnul : '\x00' ∉ p ↔ ∀ t ∈ pieces, '\x00' ∉ t := by simp [h.nul]
  unfold resolve
  rw [hsteps]
  constructor
  · intro hresolve
    split at hresolve
    · cases hresolve
    · next hcheck =>
      obtain ⟨hp, _, hlength⟩ := checkPath_eq_ok_iff.1 hcheck
      exact ⟨hlength, hnul.1 hp, hresolve⟩
  · intro ⟨hlength, hpieces, hresolve⟩
    have hcheck : checkPath p = .ok () :=
      checkPath_eq_ok_iff.2 ⟨hnul.2 hpieces, mt h.nil_iff.1 hne, hlength⟩
    rw [hcheck]
    exact hresolve

theorem isOk_iff {α ε : Type} {r : Except ε α} : r.isOk = true ↔ ∃ a, r = .ok a := by
  cases r <;> simp [Except.isOk, Except.toBool]

theorem ne_nil_of_pathExists (h : fs.pathExists p = true) : p ≠ [] := by
  rintro rfl
  cases h

theorem resolve_of_long (h : maxPathBytes < p.utf8Length) : fs.resolve follow p ≠ .ok loc := by
  intro hresolve
  unfold resolve at hresolve
  split at hresolve
  · cases hresolve
  · next hcheck => exact Nat.not_lt.2 (checkPath_eq_ok_iff.1 hcheck).2.2 h

theorem pathExists_eq_false_of_long (h : maxPathBytes < p.utf8Length) :
    fs.pathExists p = false := by
  simp [pathExists, isOk_iff, resolve_of_long h, Bool.eq_false_iff]

theorem pathExists_iff (h : Follows p pieces) (hne : pieces ≠ []) :
    fs.pathExists p = true ↔
      p.utf8Length ≤ maxPathBytes ∧ ∃ follow loc, fs.Leads follow pieces loc := by
  simp only [pathExists, Bool.or_eq_true, isOk_iff, resolve_eq_ok_iff h hne, ← exists_or,
    Bool.exists_bool]
  grind

/-- What is not too long to be written in one way is there in the other way too. -/
theorem pathExists_of_follows (hp : Follows p pieces) (hq : Follows q pieces) (hne : pieces ≠ [])
    (hlength : q.utf8Length ≤ maxPathBytes → p.utf8Length ≤ maxPathBytes)
    (h : fs.pathExists q = true) : fs.pathExists p = true := by
  obtain ⟨hlength', hleads⟩ := (pathExists_iff hq hne).1 h
  exact (pathExists_iff hp hne).2 ⟨hlength hlength', hleads⟩

/-- No way to write the pieces is longer than to join them. -/
theorem pathExists_of_join (hp : Follows p pieces) (hslash : ∀ t ∈ pieces, '/' ∉ t)
    (h : fs.pathExists (Text.join ['/'] pieces) = true) : fs.pathExists p = true := by
  have hjoin := ne_nil_of_pathExists h
  have hne : pieces ≠ [] := fun e => hjoin (e ▸ rfl)
  have hlength := hp.length
  rw [Path.ofPieces_eq_join hjoin] at hlength
  exact pathExists_of_follows hp (Path.follows_join hslash hjoin) hne (Nat.le_trans hlength) h

theorem pathExists_join_iff (hp : Follows p pieces) (hslash : ∀ t ∈ pieces, '/' ∉ t)
    (hjoin : Text.join ['/'] pieces ≠ []) (h : fs.pathExists p = true) :
    fs.pathExists (Text.join ['/'] pieces) = true ↔
      (Text.join ['/'] pieces).utf8Length ≤ maxPathBytes := by
  have hne : pieces ≠ [] := fun e => hjoin (e ▸ rfl)
  rw [pathExists_iff (Path.follows_join hslash hjoin) hne]
  exact and_iff_left ((pathExists_iff hp hne).1 h).2

/-- A path that leads somewhere leads through the folders of its beginnings. -/
theorem Leads.exists_folder (h : fs.Leads follow (before ++ after) loc) (hne : after ≠ [])
    (hstart : before ≠ [] ∨ after.head? ≠ some []) :
    ∃ mid, fs.Leads true before mid ∧ fs.isFolderAt mid = true ∧
      ∃ left ≤ maxLinks, fs.Arrives follow left mid (after.map Path.step) loc := by
  have hhead : (before ++ after).head? = some [] ↔ before.head? = some [] := by
    cases before with
    | nil => simpa using hstart
    | cons t before => rfl
  obtain ⟨hnul, harrives⟩ := leads_iff_arrives.1 h
  simp only [hhead, List.map_append] at harrives
  have hne : after.map Path.step ≠ [] := mt List.map_eq_nil_iff.1 hne
  obtain ⟨mid, hmid, left, hle, hleft⟩ := harrives.split hne
  exact ⟨mid, leads_iff_arrives.2 ⟨(List.forall_mem_append.1 hnul).1, hmid⟩,
    hleft.isFolderAt hne, left, hle, hleft⟩

theorem Leads.exists_entry (h : fs.Leads follow (before ++ e :: after) loc) (he : FileName e) :
    e.utf8Length ≤ maxNameBytes ∧ ∃ mid n, fs.Leads true before mid ∧ fs.isFolderAt mid = true ∧
      (EntryName.text e :: mid, n) ∈ fs.nodes := by
  obtain ⟨mid, hmid, hfolder, left, _, hleft⟩ := h.exists_folder (List.cons_ne_nil _ _)
    (.inr (by simpa using he.ne_nil))
  rw [List.map_cons, he.step_eq] at hleft
  obtain ⟨hlength, n, hn⟩ := hleft.exists_node
  exact ⟨hlength, mid, n, hmid, hfolder, mem_nodes_of_node? hn⟩

theorem leads_nil_iff : fs.Leads true [] loc ↔ loc = fs.current := by
  constructor
  · intro h
    exact (Except.ok.inj h.resolves).symm
  · intro h
    subst h
    exact ⟨by simp, rfl⟩

theorem HasEntry.fileName (h : fs.HasEntry p e) : FileName e := by
  obtain ⟨_, _, _, _, hmem⟩ := h
  exact fileName_of_mem hmem

/-- To list a folder is to follow its path, an empty one to the current folder. -/
theorem hasEntry_iff (h : Follows p pieces) :
    fs.HasEntry p e ↔ p.utf8Length ≤ maxPathBytes ∧
      ∃ loc n, fs.Leads true pieces loc ∧ fs.isFolderAt loc = true ∧
        (EntryName.text e :: loc, n) ∈ fs.nodes := by
  unfold HasEntry
  by_cases hp : p = []
  · have hpieces := h.nil_iff.1 hp
    subst hp
    subst hpieces
    have hhere : fs.resolve true ['.'] =
        if fs.isFolderAt fs.current then .ok fs.current else .error .notAFolder := by
      show fs.walkSteps _ _ fs.current [.here] = _
      cases hfolder : fs.isFolderAt fs.current <;> simp [walkSteps, hfolder]
    simp only [listedPath, if_true, hhere, leads_nil_iff]
    constructor
    · rintro ⟨loc, n, hloc, hfolder, hn⟩
      split at hloc
      · cases hloc
        exact ⟨Nat.zero_le _, _, n, rfl, hfolder, hn⟩
      · cases hloc
    · rintro ⟨_, loc, n, rfl, hfolder, hn⟩
      exact ⟨fs.current, n, if_pos hfolder, hfolder, hn⟩
  · simp only [listedPath, if_neg hp, resolve_eq_ok_iff h (mt h.nil_iff.2 hp)]
    constructor
    · rintro ⟨loc, n, ⟨hlength, hleads⟩, hfolder, hn⟩
      exact ⟨hlength, loc, n, hleads, hfolder, hn⟩
    · rintro ⟨hlength, loc, n, hleads, hfolder, hn⟩
      exact ⟨loc, n, ⟨hlength, hleads⟩, hfolder, hn⟩

theorem isFolder_iff (h : Follows p pieces) (hne : pieces ≠ []) :
    fs.isFolder p = true ↔ p.utf8Length ≤ maxPathBytes ∧
      ∃ loc, fs.Leads true pieces loc ∧ fs.isFolderAt loc = true := by
  have hiff : fs.isFolder p = true ↔
      ∃ loc, fs.resolve true p = .ok loc ∧ fs.isFolderAt loc = true := by
    unfold isFolder
    cases fs.resolve true p <;> simp
  simp only [hiff, resolve_eq_ok_iff h hne, and_assoc, exists_and_left]

/-- Going by way of the current folder makes no difference. -/
theorem leads_dot_iff (he : FileName e) :
    fs.Leads follow [['.'], e] loc ↔ fs.Leads follow [e] loc := by
  have htidy : tidy ([['.'], e].map Path.step) = tidy ([e].map Path.step) := rfl
  have hsteps (start : Location) :
      fs.resolveSteps follow maxLinks start ([['.'], e].map Path.step) =
        fs.resolveSteps follow maxLinks start ([e].map Path.step) := by
    rw [← resolveSteps_tidy, htidy, resolveSteps_tidy]
  have hhead : ¬([['.'], e] : List Text).head? = some [] := by simp
  have hhead' : ¬([e] : List Text).head? = some [] := by simpa using he.ne_nil
  constructor
  · intro ⟨_, hresolves⟩
    rw [if_neg hhead, hsteps] at hresolves
    exact ⟨by simpa using he.no_nul, by rwa [if_neg hhead']⟩
  · intro ⟨_, hresolves⟩
    rw [if_neg hhead'] at hresolves
    refine ⟨by simpa using he.no_nul, ?_⟩
    rwa [if_neg hhead, hsteps]

theorem hasFolder_iff (h : Follows p pieces) (he : FileName e) :
    fs.HasFolder p e ↔ (Path.push p e).utf8Length ≤ maxPathBytes ∧
      ∃ loc, fs.Leads true (pieces ++ [e]) loc ∧ fs.isFolderAt loc = true := by
  unfold HasFolder
  by_cases hp : p = []
  · have hpieces := h.nil_iff.1 hp
    subst hp
    subst hpieces
    -- the name of an entry is so short that the period in front of it cannot make it too long
    have hslash : ∀ t ∈ [['.']], '/' ∉ t := by simp
    have hperiod : Follows ['.'] [['.']] := Path.follows_join hslash (List.cons_ne_nil _ _)
    have hdot : Follows (Path.push ['.'] e) [['.'], e] := hperiod.push he.no_slash (.inl (by simp))
    have hself : Path.push [] e = e := by rw [Path.push_eq he.no_slash]; rfl
    have hshort {loc : Location} (hleads : fs.Leads true [e] loc) :
        e.utf8Length ≤ maxNameBytes := by
      have hleads : fs.Leads true ([] ++ [e]) loc := hleads
      exact (hleads.exists_entry he).1
    have hlength : (Path.push ['.'] e).utf8Length = 2 + e.utf8Length := by
      rw [Path.length_push he.no_slash]
      rfl
    simp only [listedPath, if_true, List.nil_append, hself, hlength, isFolder_iff hdot (by simp),
      leads_dot_iff he]
    unfold maxPathBytes
    unfold maxNameBytes at hshort
    constructor
    · intro ⟨_, loc, hleads, hfolder⟩
      have := hshort hleads
      exact ⟨by omega, loc, hleads, hfolder⟩
    · intro ⟨_, loc, hleads, hfolder⟩
      have := hshort hleads
      exact ⟨by omega, loc, hleads, hfolder⟩
  · rw [listedPath, if_neg hp]
    exact isFolder_iff (h.push he.no_slash (.inr he.ne_nil)) (by simp)

/-- What is listed in a folder does not depend on how its path is written. -/
theorem hasEntry_of_follows (hp : Follows p pieces) (hq : Follows q pieces)
    (hlength : q.utf8Length ≤ maxPathBytes → p.utf8Length ≤ maxPathBytes)
    (h : fs.HasEntry q e) : fs.HasEntry p e := by
  obtain ⟨hlength', hleads⟩ := (hasEntry_iff hq).1 h
  exact (hasEntry_iff hp).2 ⟨hlength hlength', hleads⟩

theorem hasFolder_of_follows (hp : Follows p pieces) (hq : Follows q pieces) (he : FileName e)
    (hlength : (Path.push q e).utf8Length ≤ maxPathBytes →
      (Path.push p e).utf8Length ≤ maxPathBytes)
    (h : fs.HasFolder q e) : fs.HasFolder p e := by
  obtain ⟨hlength', hleads⟩ := (hasFolder_iff hq he).1 h
  exact (hasFolder_iff hp he).2 ⟨hlength hlength', hleads⟩

theorem hasEntry_of_pathExists (hp : Follows p before) (hq : Follows q (before ++ e :: after))
    (he : FileName e) (hlength : p.utf8Length ≤ q.utf8Length) (h : fs.pathExists q = true) :
    fs.HasEntry p e := by
  obtain ⟨hlength', follow, loc, hleads⟩ := (pathExists_iff hq (by simp)).1 h
  obtain ⟨_, mid, n, hmid⟩ := hleads.exists_entry he
  exact (hasEntry_iff hp).2 ⟨Nat.le_trans hlength hlength', mid, n, hmid⟩

theorem hasFolder_of_pathExists (hp : Follows p before) (hq : Follows q (before ++ e :: after))
    (he : FileName e) (hne : after ≠ []) (hlength : (Path.push p e).utf8Length ≤ q.utf8Length)
    (h : fs.pathExists q = true) : fs.HasFolder p e := by
  obtain ⟨hlength', follow, loc, hleads⟩ := (pathExists_iff hq (by simp)).1 h
  rw [List.append_cons] at hleads
  obtain ⟨mid, hmid, hfolder, _⟩ := hleads.exists_folder hne (.inl (by simp))
  exact (hasFolder_iff hp he).2 ⟨Nat.le_trans hlength hlength', mid, hmid, hfolder⟩

end FileSystem

end PathTemplates
