import PathTemplates.Exclusions
import PathTemplates.Proofs.Glob.Shortcuts
import PathTemplates.Proofs.Nesting
import PathTemplates.Proofs.Outcome

namespace PathTemplates

namespace GlobItem

variable {xs ys front items : List GlobItem} {test : GlobTest}

theorem depthsAll_append (xs ys : List GlobItem) :
    depthsAll (xs ++ ys) = depthsAll xs ++ depthsAll ys := by
  induction xs with
  | nil => rfl
  | cons x xs ih => rw [List.cons_append, depthsAll, ih, depthsAll, List.append_assoc]

/-- No item is nested more deeply than folders are. -/
def Shallow (items : List GlobItem) : Prop := ∀ d ∈ depthsAll items, d ≤ 4

instance (items : List GlobItem) : Decidable (Shallow items) :=
  inferInstanceAs (Decidable (∀ d ∈ depthsAll items, d ≤ 4))

theorem Shallow.append (hx : Shallow xs) (hy : Shallow ys) : Shallow (xs ++ ys) := by
  intro d hd
  rw [depthsAll_append] at hd
  exact (List.mem_append.1 hd).elim (hx d) (hy d)

theorem shallow_literals (t : Text) : Shallow (t.map literal) := by
  induction t with
  | nil => exact nofun
  | cons c t ih =>
    have hc : Shallow [literal c] := by
      intro d hd
      simp only [depthsAll, depths, List.append_nil, List.mem_map] at hd
      obtain ⟨_, _, rfl⟩ := hd
      exact Nat.zero_le _
    exact hc.append ih

theorem shallow_folders : Shallow [leadingFolders] := by decide

theorem TakesAny.shallow (h : TakesAny front) : Shallow front := by
  obtain rfl | rfl := h <;> decide

/-- Groups are tested by expressions. -/
theorem shallow_of_suits (h : test.Suits items) (hfirst : test.isExtensionFirst = false)
    (hexpression : test ≠ .expression) : Shallow items := by
  cases h with
  | whole t => exact shallow_literals t
  | lastPart t => exact shallow_folders.append (shallow_literals t)
  | extension t any => exact any.shallow.append (shallow_literals t)
  | beginning t => exact (shallow_literals t).append (by decide)
  | below t => exact (shallow_literals t).append (by decide)
  | ending t any => exact any.shallow.append (shallow_literals t)
  | lastParts t => exact shallow_folders.append (shallow_literals t)
  | extensionFirst => cases hfirst
  | expression => exact absurd rfl hexpression

end GlobItem

theorem Glob.isTooDeep_of_test {g : Glob} (hfirst : g.test.isExtensionFirst = false)
    (hexpression : g.test ≠ .expression) : g.isTooDeep = false := by
  have hshallow := GlobItem.shallow_of_suits g.suits_test hfirst hexpression
  have hdepth : Nesting.sideBySide (0 :: 0 :: 0 :: GlobItem.depthsAll g.items) ≤ 4 + 1 := by
    refine Nesting.sideBySide_le fun d hd => ?_
    simp only [List.mem_cons] at hd
    obtain rfl | rfl | rfl | hd := hd
    · exact Nat.zero_le 4
    · exact Nat.zero_le 4
    · exact Nat.zero_le 4
    · exact hshallow d hd
  exact decide_eq_false (Nat.not_lt.2 (hdepth.trans (by decide)))

theorem Pattern.compile_glob_eq_ok_iff {text : Text} {p : Pattern} (h : text ≠ []) :
    compile .glob text = .ok p ↔
      ∃ g, Glob.read text = .ok g ∧ g.isTooDeep = false ∧ p = .glob g := by
  rw [compile, if_neg h]
  cases Glob.read text with
  | error e => exact iff_of_false nofun fun ⟨_, hg, _⟩ => nomatch hg
  | ok g =>
    dsimp only
    constructor
    · intro hp
      split at hp
      · cases hp
      · next hdeep => exact ⟨g, rfl, Bool.eq_false_of_not_eq_true hdeep, (Except.ok.inj hp).symm⟩
    · rintro ⟨g', hg, hdeep, rfl⟩
      cases hg
      rw [hdeep]
      rfl

namespace Exclusions

variable {texts : List Text} {globs : List Glob} {l : Exclusions} {g : Glob}

theorem exists_readGlobs_iff :
    (∃ globs, readGlobs texts = .ok globs) ↔ ∀ t ∈ texts, ∃ g, Glob.read t = .ok g := by
  induction texts with
  | nil => exact iff_of_true ⟨[], rfl⟩ nofun
  | cons t texts ih =>
    rw [List.forall_mem_cons, ← ih, readGlobs]
    cases Glob.read t with
    | error e => exact iff_of_false (fun ⟨_, h⟩ => nomatch h) fun ⟨⟨_, h⟩, _⟩ => nomatch h
    | ok g =>
      constructor
      · rintro ⟨globs, h⟩
        obtain ⟨rest, hrest, -⟩ := exists_of_map_eq_ok h
        exact ⟨⟨g, rfl⟩, rest, hrest⟩
      · rintro ⟨-, rest, hrest⟩
        exact ⟨g :: rest, congrArg (Except.map (g :: ·)) hrest⟩

theorem mem_of_readGlobs (h : readGlobs texts = .ok globs) :
    g ∈ globs ↔ ∃ t ∈ texts, Glob.read t = .ok g := by
  induction texts generalizing globs with
  | nil =>
    cases h
    simp
  | cons t texts ih =>
    rw [readGlobs] at h
    split at h
    · cases h
    · next g' ht =>
      obtain ⟨rest, hrest, rfl⟩ := exists_of_map_eq_ok h
      simp [ih hrest, ht, eq_comm]

theorem depthError?_eq_none_iff : depthError? globs = none ↔ ∀ g ∈ globs, g.isTooDeep = false := by
  have hnone : depthError? globs = none ↔
      (∀ g ∈ globs, g.test.isExtensionFirst = true → g.isTooDeep = false) ∧
        ∀ g ∈ globs, g.test = .expression → g.isTooDeep = false := by
    unfold depthError?
    split
    · next g hg =>
      have hfound := List.find?_some hg
      rw [Bool.and_eq_true] at hfound
      refine iff_of_false nofun fun h => ?_
      rw [h.1 g (List.mem_of_find?_eq_some hg) hfound.1] at hfound
      cases hfound.2
    · next hfind =>
      have hfirst : ∀ g ∈ globs, g.test.isExtensionFirst = true → g.isTooDeep = false := by
        simpa using hfind
      rw [and_iff_right hfirst]
      simp
  rw [hnone]
  constructor
  · rintro ⟨hfirst, hexpression⟩ g hg
    cases hf : g.test.isExtensionFirst with
    | true => exact hfirst g hg hf
    | false =>
      by_cases he : g.test = .expression
      · exact hexpression g hg he
      · exact Glob.isTooDeep_of_test hf he
  · exact fun h => ⟨fun g hg _ => h g hg, fun g hg _ => h g hg⟩

theorem read_eq_ok_iff : read texts = .ok l ↔
    readGlobs texts = .ok l.globs ∧ ∀ g ∈ l.globs, g.isTooDeep = false := by
  rw [read, ← depthError?_eq_none_iff]
  cases readGlobs texts with
  | error e => exact iff_of_false nofun fun h => nomatch h.1
  | ok globs =>
    dsimp only
    constructor
    · intro h
      split at h
      · cases h
      · next hdepth =>
        cases h
        exact ⟨rfl, hdepth⟩
    · rintro ⟨hglobs, hdepth⟩
      cases hglobs
      rw [hdepth]

theorem exists_read_iff : (∃ l, read texts = .ok l) ↔
    ∀ t ∈ texts, ∃ g, Glob.read t = .ok g ∧ g.isTooDeep = false := by
  constructor
  · rintro ⟨l, hl⟩ t ht
    obtain ⟨hglobs, hdepth⟩ := read_eq_ok_iff.1 hl
    obtain ⟨g, hg⟩ := exists_readGlobs_iff.1 ⟨_, hglobs⟩ t ht
    exact ⟨g, hg, hdepth g ((mem_of_readGlobs hglobs).2 ⟨t, ht, hg⟩)⟩
  · intro h
    obtain ⟨globs, hglobs⟩ := exists_readGlobs_iff.2 fun t ht => (h t ht).imp fun g hg => hg.1
    refine ⟨⟨globs⟩, read_eq_ok_iff.2 ⟨hglobs, fun g hg => ?_⟩⟩
    obtain ⟨t, ht, hg⟩ := (mem_of_readGlobs hglobs).1 hg
    obtain ⟨g', hg', hdeep⟩ := h t ht
    obtain rfl : g = g' := Except.ok.inj (hg.symm.trans hg')
    exact hdeep

theorem mem_globs_iff (hl : read texts = .ok l) :
    g ∈ l.globs ↔ ∃ t ∈ texts, Glob.read t = .ok g ∧ g.isTooDeep = false := by
  obtain ⟨hglobs, hdepth⟩ := read_eq_ok_iff.1 hl
  constructor
  · intro hg
    obtain ⟨t, ht, hread⟩ := (mem_of_readGlobs hglobs).1 hg
    exact ⟨t, ht, hread, hdepth g hg⟩
  · rintro ⟨t, ht, hread, -⟩
    exact (mem_of_readGlobs hglobs).2 ⟨t, ht, hread⟩

/-- A list of globs is refused exactly if one of them is refused as a pattern, and it excludes the
names that one of these patterns matches. A name has no slash and is not the parent folder. -/
theorem ignores_iff_compile (h : ∀ t ∈ texts, t ≠ []) :
    ((∃ l, read texts = .ok l) ↔ ∀ t ∈ texts, ∃ p, Pattern.compile .glob t = .ok p) ∧
      ∀ l, read texts = .ok l → ∀ name, '/' ∉ name → name ≠ ['.', '.'] →
        (l.ignores name = true ↔
          ∃ t ∈ texts, ∃ p, Pattern.compile .glob t = .ok p ∧ p.matchesName name = true) := by
  constructor
  · rw [exists_read_iff]
    refine forall₂_congr fun t ht => ?_
    simp only [Pattern.compile_glob_eq_ok_iff (h t ht)]
    exact ⟨fun ⟨g, hread, hdeep⟩ => ⟨.glob g, g, hread, hdeep, rfl⟩,
      fun ⟨p, g, hread, hdeep, _⟩ => ⟨g, hread, hdeep⟩⟩
  · intro l hl name hslash hparent
    have hlast : Path.lastPart (Text.utf8 name) ≠ [46, 46] := by
      rw [Path.lastPart, behindLast_of_not_mem (mt Utf8.slash_mem_utf8_iff.1 hslash)]
      exact fun hname => hparent (Utf8.utf8_injective (t := ['.', '.']) hname)
    rw [ignores, List.any_eq_true]
    constructor
    · rintro ⟨g, hg, hexcludes⟩
      obtain ⟨t, ht, hread, hdeep⟩ := (mem_globs_iff hl).1 hg
      rw [g.excludes_eq_matchesName hlast] at hexcludes
      exact ⟨t, ht, .glob g,
        (Pattern.compile_glob_eq_ok_iff (h t ht)).2 ⟨g, hread, hdeep, rfl⟩, hexcludes⟩
    · rintro ⟨t, ht, p, hp, hmatches⟩
      obtain ⟨g, hread, hdeep, rfl⟩ := (Pattern.compile_glob_eq_ok_iff (h t ht)).1 hp
      refine ⟨g, (mem_globs_iff hl).2 ⟨t, ht, hread, hdeep⟩, ?_⟩
      rw [g.excludes_eq_matchesName hlast]
      exact hmatches

/-- The globs `*.gz`, which is tested by the extension, and `[!.]*.{a,b}`. -/
def sampleTexts : List Text :=
  [['*', '.', 'g', 'z'], ['[', '!', '.', ']', '*', '.', '{', 'a', ',', 'b', '}']]

theorem ignores_iff_compile_sample : (∀ t ∈ sampleTexts, t ≠ []) ∧
    ∃ l, read sampleTexts = .ok l ∧ l.ignores ['é', '\n', '.', 'a', '.', 'g', 'z'] = true ∧
      l.ignores ['x', '.', 'b'] = true := by
  have hne : ∀ t ∈ sampleTexts, t ≠ [] := by decide
  obtain ⟨hread, hignores⟩ := ignores_iff_compile hne
  obtain ⟨l, hl⟩ := hread.2
    (List.forall_mem_cons.2 ⟨⟨_, rfl⟩, List.forall_mem_singleton.2 ⟨_, rfl⟩⟩)
  exact ⟨hne, l, hl,
    (hignores l hl _ (by decide) (by decide)).2 ⟨_, List.mem_cons_self .., _, rfl, rfl⟩,
    (hignores l hl _ (by decide) (by decide)).2
      ⟨_, List.mem_cons_of_mem _ (List.mem_singleton_self _), _, rfl, rfl⟩⟩

end Exclusions

end PathTemplates
