import Mathlib.Data.List.TakeWhile
import PathTemplates.Glob.Shortcut
import PathTemplates.Proofs.Glob.Matching
import PathTemplates.Proofs.Text.Pieces

namespace PathTemplates

section

variable {α : Type} [DecidableEq α] {x : α} {a b l r : List α}

theorem behindLast_append (h : x ∉ b) : behindLast x (a ++ b) = behindLast x a ++ b := by
  rw [behindLast, List.reverse_append, List.takeWhile_append_of_pos, List.reverse_append,
    List.reverse_reverse, behindLast]
  intro y hy
  exact decide_eq_true fun e => h (e ▸ List.mem_reverse.1 hy)

theorem behindLast_append_cons (h : x ∉ r) : behindLast x (a ++ x :: r) = r := by
  have hlast : behindLast x (a ++ [x]) = [] := by simp [behindLast]
  rw [← List.singleton_append, ← List.append_assoc, behindLast_append h, hlast, List.nil_append]

theorem behindLast_of_not_mem (h : x ∉ l) : behindLast x l = l := behindLast_append (a := []) h

theorem exists_append_of_mem (h : x ∈ l) : ∃ a, l = a ++ x :: behindLast x l := by
  obtain ⟨a, r, rfl, hr⟩ := Text.exists_cut_last h
  exact ⟨a, by rw [behindLast_append_cons hr]⟩

theorem not_mem_behindLast (x : α) (l : List α) : x ∉ behindLast x l := by
  intro h
  have hne := List.mem_takeWhile_imp (List.mem_reverse.1 h)
  exact of_decide_eq_true hne rfl

theorem behindLast_suffix (x : α) (l : List α) : behindLast x l <:+ l := by
  rw [behindLast, ← List.reverse_prefix, List.reverse_reverse]
  exact List.takeWhile_prefix _

theorem behindLast_eq_iff (h : x ∉ r) : behindLast x l = r ↔ l = r ∨ x :: r <:+ l := by
  constructor
  · rintro rfl
    by_cases hx : x ∈ l
    · obtain ⟨a, ha⟩ := exists_append_of_mem hx
      exact .inr ⟨a, ha.symm⟩
    · exact .inl (behindLast_of_not_mem hx).symm
  · rintro (rfl | ⟨a, rfl⟩)
    · exact behindLast_of_not_mem h
    · exact behindLast_append_cons h

end

namespace Path

variable {path r : List UInt8}

/-- The extension of a path is the only ending of its kind. -/
theorem fileExtension_eq_iff (h : lastPart path ≠ [46, 46]) (hperiod : 46 ∉ r) (hslash : 47 ∉ r) :
    fileExtension path = 46 :: r ↔ 46 :: r <:+ path := by
  have hname : fileName path = lastPart path := if_neg h
  rw [fileExtension, hname]
  constructor
  · intro heq
    split at heq
    · next hmem =>
      have hback : behindLast 46 (lastPart path) = r := (List.cons.inj heq).2
      obtain hlast | hlast := (behindLast_eq_iff hperiod).1 hback
      · rw [List.contains_iff_mem, hlast] at hmem
        exact absurd hmem hperiod
      · exact hlast.trans (behindLast_suffix 47 path)
    · cases heq
  · rintro ⟨a, rfl⟩
    have hlast : lastPart (a ++ 46 :: r) = behindLast 47 a ++ 46 :: r :=
      behindLast_append (by simp [hslash])
    rw [hlast, if_pos (by simp), behindLast_append_cons hperiod]

end Path

namespace GlobItem

variable {s : List UInt8} {items front : List GlobItem} {t : Text} {test : GlobTest} {j : Nat}

/-- Items that take any bytes at the beginning of a name. -/
def TakesAny (front : List GlobItem) : Prop :=
  front = [anyBytes] ∨ front = [leadingFolders, anyBytes]

theorem TakesAny.takes (h : TakesAny front) (hj : j ≤ s.length) : Takes s front 0 j := by
  have hany : Takes s [anyBytes] 0 j :=
    (takes_anyBytes_iff (Nat.zero_le _)).2 ⟨Nat.zero_le _, hj⟩
  obtain rfl | rfl := h
  · exact hany
  · exact takes_append.2 ⟨0, takes_leadingFolders_iff.2 (.inl rfl), hany⟩

theorem isExtension_iff :
    isExtension t = true ↔ ∃ rest, t = '.' :: rest ∧ '.' ∉ rest ∧ '/' ∉ rest := by
  unfold isExtension
  split
  · simp
  · next hnot =>
    exact ⟨nofun, fun ⟨rest, ht, _⟩ => absurd ht (hnot rest)⟩

end GlobItem

open GlobItem in
/-- The globs that are tested in this way. -/
inductive GlobTest.Suits : GlobTest → List GlobItem → Prop
  | whole (t : Text) : Suits (.whole t) (t.map literal)
  | lastPart (t : Text) (slashless : '/' ∉ t) :
      Suits (.lastPart t) (leadingFolders :: t.map literal)
  | extension {front : List GlobItem} (t : Text) (any : TakesAny front)
      (ext : isExtension t = true) : Suits (.extension t) (front ++ t.map literal)
  | beginning (t : Text) : Suits (.beginning t) (t.map literal ++ [anyBytes])
  | below (t : Text) : Suits (.beginning (t ++ ['/'])) (t.map literal ++ [descendants])
  | ending {front : List GlobItem} (t : Text) (any : TakesAny front) :
      Suits (.ending t) (front ++ t.map literal)
  | lastParts (t : Text) : Suits (.lastParts t) (leadingFolders :: t.map literal)
  | extensionFirst (front : List GlobItem) (u t : Text) (ext : isExtension t = true) :
      Suits (.extensionFirst t) (front ++ (u ++ t).map literal)
  | expression (items : List GlobItem) : Suits .expression items

namespace GlobItem

variable {items : List GlobItem} {t : Text} {test : GlobTest}

theorem exists_of_literals? {keep : Text → Bool} {make : Text → GlobTest}
    (h : ((literals? items).filter keep).map make = some test) :
    ∃ t, items = t.map literal ∧ keep t = true ∧ test = make t := by
  obtain ⟨t, ht, rfl⟩ := Option.map_eq_some_iff.1 h
  obtain ⟨hitems, hkeep⟩ := Option.filter_eq_some_iff.1 ht
  exact ⟨t, literals?_eq_some_iff.1 hitems, hkeep, rfl⟩

theorem suits_wholeTest? (h : wholeTest? items = some test) : test.Suits items := by
  obtain ⟨t, rfl, -, rfl⟩ := exists_of_literals? h
  exact .whole t

theorem suits_lastPartTest? (h : lastPartTest? items = some test) : test.Suits items := by
  unfold lastPartTest? at h
  split at h
  · obtain ⟨t, rfl, hkeep, rfl⟩ := exists_of_literals? h
    exact .lastPart t (by simp at hkeep; exact hkeep.2)
  · cases h

theorem suits_extensionTest? (h : extensionTest? items = some test) : test.Suits items := by
  unfold extensionTest? at h
  split at h
  · obtain ⟨t, rfl, hkeep, rfl⟩ := exists_of_literals? h
    exact .extension t (.inr rfl) hkeep
  · obtain ⟨t, rfl, hkeep, rfl⟩ := exists_of_literals? h
    exact .extension t (.inl rfl) hkeep
  · cases h

theorem suits_beginningTest? (h : beginningTest? items = some test) : test.Suits items := by
  unfold beginningTest? at h
  split at h
  · next hlast =>
    obtain ⟨start, rfl⟩ := List.getLast?_eq_some_iff.1 hlast
    rw [List.dropLast_concat] at h
    obtain ⟨t, rfl, -, rfl⟩ := exists_of_literals? h
    exact .beginning t
  · next hlast =>
    obtain ⟨start, rfl⟩ := List.getLast?_eq_some_iff.1 hlast
    rw [List.dropLast_concat] at h
    obtain ⟨t, ht, rfl⟩ := Option.map_eq_some_iff.1 h
    rw [literals?_eq_some_iff.1 ht]
    exact .below t
  · cases h

theorem suits_endingTest? (h : endingTest? items = some test) : test.Suits items := by
  unfold endingTest? at h
  split at h
  · obtain ⟨t, rfl, -, rfl⟩ := exists_of_literals? h
    exact .ending t (.inr rfl)
  · obtain ⟨t, rfl, -, rfl⟩ := exists_of_literals? h
    exact .ending t (.inl rfl)
  · obtain ⟨t, rfl, -, rfl⟩ := exists_of_literals? h
    exact .lastParts t
  · cases h

/-- The literals at the end of a glob are the characters that are read off there. -/
theorem exists_append_ending (items : List GlobItem) :
    ∃ front, items = front ++ (ending items).map literal := by
  refine ⟨(items.reverse.dropWhile isLiteral).reverse, ?_⟩
  have hmap {xs : List GlobItem} (h : ∀ x ∈ xs, isLiteral x = true) :
      (xs.filterMap char?).map literal = xs := by
    induction xs with
    | nil => rfl
    | cons x xs ih =>
      obtain ⟨hx, hxs⟩ := List.forall_mem_cons.1 h
      cases x with
      | literal c => exact congrArg (literal c :: ·) (ih hxs)
      | _ => cases hx
  have hliteral : ∀ x ∈ (items.reverse.takeWhile isLiteral).reverse, isLiteral x = true :=
    fun x hx => List.mem_takeWhile_imp (List.mem_reverse.1 hx)
  rw [ending, hmap hliteral, ← List.reverse_append, List.takeWhile_append_dropWhile,
    List.reverse_reverse]

theorem suits_extensionFirstTest? (h : extensionFirstTest? items = some test) :
    test.Suits items := by
  unfold extensionFirstTest? at h
  dsimp only at h
  split at h
  · next hmem =>
    cases h
    have hslash := not_mem_behindLast '/' (ending items)
    have hperiod := not_mem_behindLast '.' (behindLast '/' (ending items))
    obtain ⟨front, hfront⟩ := exists_append_ending items
    obtain ⟨b, hb⟩ := exists_append_of_mem (List.contains_iff_mem.1 hmem)
    obtain ⟨a, ha⟩ := behindLast_suffix '/' (ending items)
    generalize behindLast '.' (behindLast '/' (ending items)) = rest at hb hperiod
    rw [hb] at ha hslash
    rw [hfront, ← ha, ← List.append_assoc]
    exact .extensionFirst front (a ++ b) _ (isExtension_iff.2 ⟨rest, rfl, hperiod, fun hrest =>
      hslash (List.mem_append_right _ (List.mem_cons_of_mem _ hrest))⟩)
  · cases h

end GlobItem

namespace Glob

theorem suits_test (g : Glob) : g.test.Suits g.items := by
  unfold test
  cases h : GlobItem.shortcuts.findSome? fun shortcut => shortcut g.items with
  | none => exact .expression g.items
  | some test =>
    obtain ⟨shortcut, hmem, hshortcut⟩ := List.exists_of_findSome?_eq_some h
    simp only [GlobItem.shortcuts, List.mem_cons, List.not_mem_nil, or_false] at hmem
    obtain rfl | rfl | rfl | rfl | rfl | rfl := hmem
    · exact GlobItem.suits_lastPartTest? hshortcut
    · exact GlobItem.suits_wholeTest? hshortcut
    · exact GlobItem.suits_extensionTest? hshortcut
    · exact GlobItem.suits_beginningTest? hshortcut
    · exact GlobItem.suits_endingTest? hshortcut
    · exact GlobItem.suits_extensionFirstTest? hshortcut

end Glob

namespace GlobItem

variable {s : List UInt8} {front : List GlobItem} {t : Text}

theorem takes_literals_whole_iff : Takes s (t.map literal) 0 s.length ↔ s = t.utf8 := by
  have h : Takes s ([] ++ t.map literal) 0 s.length ↔ _ := takes_append_literals_iff
  rw [List.nil_append] at h
  rw [h]
  constructor
  · rintro ⟨a, hs, ha⟩
    rw [List.eq_nil_of_length_eq_zero (Eq.symm ha)] at hs
    exact hs
  · exact fun hs => ⟨[], hs, rfl⟩

theorem takes_any_literals_iff (h : TakesAny front) :
    Takes s (front ++ t.map literal) 0 s.length ↔ t.utf8 <:+ s := by
  rw [takes_append_literals_iff]
  constructor
  · rintro ⟨a, rfl, -⟩
    exact List.suffix_append a _
  · rintro ⟨a, rfl⟩
    exact ⟨a, rfl, h.takes (by simp)⟩

theorem takes_folders_literals_iff : Takes s (leadingFolders :: t.map literal) 0 s.length ↔
    s = t.utf8 ∨ 47 :: t.utf8 <:+ s := by
  have h : Takes s ([leadingFolders] ++ t.map literal) 0 s.length ↔ _ := takes_append_literals_iff
  rw [List.singleton_append] at h
  rw [h]
  simp only [takes_leadingFolders_iff]
  constructor
  · rintro ⟨a, rfl, ha | ⟨k, hslash, hk⟩⟩
    · rw [List.eq_nil_of_length_eq_zero ha]
      exact .inl rfl
    · obtain ⟨a, b, rfl⟩ : ∃ a' b, a = a' ++ [b] := by
        refine (List.eq_nil_or_concat' a).resolve_left ?_
        rintro rfl
        cases hk
      obtain rfl : k = a.length := by simpa using hk.symm
      obtain rfl : b = 47 := by simpa using hslash
      exact .inr ⟨a, by simp⟩
  · rintro (hs | ⟨a, rfl⟩)
    · exact ⟨[], hs, .inl rfl⟩
    · exact ⟨a ++ [47], by simp, .inr ⟨a.length, by simp, by simp⟩⟩

theorem takes_literals_any_iff :
    Takes s (t.map literal ++ [anyBytes]) 0 s.length ↔ t.utf8 <+: s := by
  rw [takes_literals_append_iff]
  exact and_iff_left_of_imp fun h => (takes_anyBytes_iff h.length_le).2 ⟨h.length_le, le_rfl⟩

theorem takes_literals_descendants_iff :
    Takes s (t.map literal ++ [descendants]) 0 s.length ↔ (t ++ ['/']).utf8 <+: s := by
  have hslash : (t ++ ['/']).utf8 = t.utf8 ++ [47] := Utf8.utf8_append t ['/']
  rw [takes_literals_append_iff, takes_descendants_iff, hslash]
  constructor
  · rintro ⟨⟨r, rfl⟩, hget⟩
    rw [List.getElem?_append_right le_rfl, Nat.sub_self] at hget
    cases r with
    | nil => cases hget
    | cons x r =>
      obtain rfl : x = 47 := Option.some.inj hget
      exact ⟨r, by simp⟩
  · rintro ⟨r, rfl⟩
    exact ⟨⟨47 :: r, by simp⟩, by simp⟩

end GlobItem

namespace Glob

open GlobItem

/-- Among exclusions a glob takes the names that it matches, except that the shortcuts know the
parent folder neither as a name nor by its extension. -/
theorem excludes_eq_matchesName (g : Glob) {name : Text}
    (h : Path.lastPart name.utf8 ≠ [46, 46]) : g.excludes name = g.matchesName name := by
  by_cases hfolders : g.items = [leadingFolders]
  · have htest : g.test = .expression := by
      rw [test, hfolders]
      rfl
    rw [excludes, htest]
  have hmatch : g.matchesName name = true ↔ _ := matchesName_iff hfolders
  have hsuits := g.suits_test
  have hextension {t : Text} (ht : isExtension t = true) :
      Path.fileExtension name.utf8 = t.utf8 ↔ t.utf8 <:+ name.utf8 := by
    obtain ⟨r, rfl, hperiod, hslash⟩ := isExtension_iff.1 ht
    exact Path.fileExtension_eq_iff h (mt Utf8.period_mem_utf8_iff.1 hperiod)
      (mt Utf8.slash_mem_utf8_iff.1 hslash)
  unfold excludes
  rw [Bool.eq_iff_iff]
  generalize g.test = test at hsuits
  generalize g.items = items at hmatch hsuits
  cases hsuits with
  | whole t => rw [hmatch, takes_literals_whole_iff, decide_eq_true_iff]
  | lastPart t slashless =>
    have hname : Path.fileName name.utf8 = Path.lastPart name.utf8 := if_neg h
    rw [hmatch, takes_folders_literals_iff, decide_eq_true_iff, hname]
    exact behindLast_eq_iff (mt Utf8.slash_mem_utf8_iff.1 slashless)
  | extension t any ext =>
    rw [hmatch, takes_any_literals_iff any, decide_eq_true_iff, hextension ext]
  | beginning t => rw [hmatch, takes_literals_any_iff, List.isPrefixOf_iff_prefix]
  | below t => rw [hmatch, takes_literals_descendants_iff, List.isPrefixOf_iff_prefix]
  | ending t any => rw [hmatch, takes_any_literals_iff any, List.isSuffixOf_iff_suffix]
  | lastParts t =>
    rw [hmatch, takes_folders_literals_iff, Bool.or_eq_true, decide_eq_true_iff,
      List.isSuffixOf_iff_suffix]
  | extensionFirst front u t ext =>
    -- Every match ends in the literals, so that the extension rules out no match.
    rw [Bool.and_eq_true, decide_eq_true_iff, hextension ext]
    refine and_iff_right_of_imp fun hmatches => ?_
    obtain ⟨a, ha, -⟩ := takes_append_literals_iff.1 (hmatch.1 hmatches)
    exact ⟨a ++ u.utf8, by rw [ha, Utf8.utf8_append, List.append_assoc]⟩
  | expression items => rfl

end Glob

end PathTemplates
