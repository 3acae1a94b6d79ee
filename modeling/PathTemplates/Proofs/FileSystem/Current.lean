import PathTemplates.Proofs.FileSystem.Below
import PathTemplates.Proofs.FileSystem.Trees
import PathTemplates.Proofs.Text.Utf8

namespace PathTemplates

namespace FileSystem

open PathTemplates.Path (Follows)

variable {fs : FileSystem} {loc : Location} {n : Node} {folder p : Text} {names : List Text}

theorem pathOf_cons {name : EntryName} {parent : Location} (h : parent ≠ []) :
    pathOf (name :: parent) = pathOf parent ++ 47 :: name.utf8 := by
  rw [pathOf]
  exact h

theorem exists_pathOf_eq_cons (loc : Location) : ∃ bytes, pathOf loc = 47 :: bytes := by
  induction loc using pathOf.induct with
  | case1 => exact ⟨[], rfl⟩
  | case2 name => exact ⟨name.utf8, rfl⟩
  | case3 name parent hne ih =>
    obtain ⟨bytes, hbytes⟩ := ih
    exact ⟨bytes ++ 47 :: name.utf8, by rw [pathOf_cons hne, hbytes, List.cons_append]⟩

theorem isAbsolute_currentText (h : Utf8.text? fs.currentPath = some folder) :
    Path.isAbsolute folder = true := by
  obtain ⟨bytes, hbytes⟩ := exists_pathOf_eq_cons fs.current
  rw [currentPath, hbytes, ← List.nil_append (47 :: _), Utf8.text?_append_slash] at h
  obtain ⟨t, _, rfl⟩ := Option.map_eq_some_iff.1 h
  rfl

/-- The path of a place, if it can be read, goes along the names on the way to it. -/
theorem exists_names_of_text? (hunreadable : ∀ b, .bytes b ∈ loc → Utf8.text? b = none)
    (h : Utf8.text? (pathOf loc) = some folder) :
    ∃ names, loc = (names.map .text).reverse ∧ folder = Path.ofParts true names := by
  have hread {name : EntryName} {t : Text} (hname : name ∈ loc)
      (ht : Utf8.text? name.utf8 = some t) : name = .text t := by
    cases name with
    | text s => exact congrArg EntryName.text (Option.some.inj ((Utf8.text?_utf8 s).symm.trans ht))
    | bytes b => exact absurd ((hunreadable b hname).symm.trans ht) (by simp)
  induction loc using pathOf.induct generalizing folder with
  | case1 =>
    cases h
    exact ⟨[], rfl, rfl⟩
  | case2 name =>
    rw [pathOf, ← List.nil_append (47 :: _), Utf8.text?_append_slash] at h
    obtain ⟨t, ht, rfl⟩ := Option.map_eq_some_iff.1 h
    cases hread (List.mem_singleton_self name) ht
    exact ⟨[t], rfl, rfl⟩
  | case3 name parent hne ih =>
    rw [pathOf_cons hne, Utf8.text?_append_slash] at h
    obtain ⟨above, habove, h⟩ := Option.bind_eq_some_iff.1 h
    obtain ⟨t, ht, rfl⟩ := Option.map_eq_some_iff.1 h
    cases hread (List.mem_cons_self ..) ht
    obtain ⟨names, rfl, rfl⟩ := ih (fun b hb => hunreadable b (List.mem_cons_of_mem _ hb)) habove
      fun hname => hread (List.mem_cons_of_mem _ hname)
    have hnames : names ≠ [] := by
      rintro rfl
      exact hne rfl
    refine ⟨names ++ [t], by simp, ?_⟩
    rw [Path.ofParts, Path.ofParts, if_pos rfl, if_pos rfl, Text.join_append_singleton _ hnames]
    simp

/-- The current folder is there, and no name on the way to it is too long for a path. -/
structure Settled (fs : FileSystem) : Prop where
  isFolder : fs.isFolderAt fs.current = true
  short : ∀ name ∈ fs.current, name.utf8.length ≤ maxNameBytes

/-- All that lies on the way to an entry is an entry. -/
theorem valid_of_node? {name : EntryName} (hn : fs.node? loc = some n) (hname : name ∈ loc) :
    name.Valid := by
  obtain ⟨below, above, rfl⟩ := List.append_of_mem hname
  obtain ⟨k, hk⟩ : ∃ k, fs.node? (name :: above) = some k := by
    by_cases hbelow : below = []
    · exact ⟨n, by rwa [hbelow, List.nil_append] at hn⟩
    · exact ⟨_, of_decide_eq_true (isFolderAt_of_append hn hbelow)⟩
  obtain ⟨_, hhead, hvalid⟩ := fs.named _ (mem_nodes_of_node? hk)
  cases hhead
  exact hvalid

namespace Settled

variable (settled : fs.Settled) (hfolder : Utf8.text? fs.currentPath = some folder)
include settled hfolder

theorem exists_names : ∃ names, (∀ t ∈ names, FileName t) ∧ Follows folder ([] :: names) ∧
    fs.current = (names.map .text).reverse := by
  have hvalid {name : EntryName} (hname : name ∈ fs.current) : name.Valid :=
    valid_of_node? (of_decide_eq_true settled.isFolder) hname
  obtain ⟨names, hcurrent, rfl⟩ := exists_names_of_text? (fun _ => hvalid) hfolder
  have hnames : ∀ t ∈ names, FileName t := fun t ht => by
    have hname : EntryName.text t ∈ fs.current := by simpa [hcurrent] using ht
    exact hvalid hname
  refine ⟨names, hnames, ?_, hcurrent⟩
  have hslash : ∀ t ∈ Path.pieces true names, '/' ∉ t := Path.no_slash_pieces hnames
  rw [Path.ofParts_eq_ofPieces hnames]
  exact Path.follows_ofPieces hslash

/-- No folder on the way to the current one is a link. -/
theorem arrives (links : Nat) :
    fs.Arrives true links (fs.startOf folder) (Path.steps folder) fs.current := by
  obtain ⟨names, hnames, hpieces, hcurrent⟩ := settled.exists_names hfolder
  have hn : fs.node? ((names.map .text).reverse ++ []) = some .folder := by
    rw [List.append_nil, ← hcurrent]
    exact of_decide_eq_true settled.isFolder
  have hshort : ∀ t ∈ names, t.utf8Length ≤ maxNameBytes := fun t ht =>
    settled.short (.text t) (by simpa [hcurrent] using ht)
  have harrives : fs.Arrives true links [] (names.map Path.step) _ :=
    arrives_of_node? (fun link => Node.noConfusion) hnames hshort hn
  have hstart : fs.startOf folder = [] := if_pos (hpieces.absolute.trans rfl)
  rw [arrives_congr (hpieces.steps (List.cons_ne_nil _ _)), hstart, hcurrent]
  rw [List.append_nil] at harrives
  exact .here rfl harrives

/-- The path of the current folder leads to it. -/
theorem folderAt (hlength : folder.utf8Length ≤ maxPathBytes) : fs.FolderAt folder fs.current := by
  obtain ⟨names, hnames, hpieces, _⟩ := settled.exists_names hfolder
  have hnul : '\x00' ∉ folder := by
    rw [hpieces.nul]
    simpa using fun t ht => (hnames t ht).no_nul
  have hne : folder ≠ [] := mt hpieces.nil_iff.1 (List.cons_ne_nil _ _)
  refine ⟨resolve_eq_ok_iff_arrives.2 ⟨checkPath_eq_ok_iff.2 ⟨hnul, hne, hlength⟩, ?_⟩,
    settled.isFolder⟩
  exact settled.arrives hfolder maxLinks

/-- What lies below the current folder is in reach as long as the whole path is not too long. -/
theorem inReach_iff : fs.InReach folder fs.current p ↔
    (Path.below folder p).utf8Length ≤ maxPathBytes := by
  refine ⟨InReach.short, fun hshort => ⟨hshort, 0, Nat.zero_le _, ?_, fun _ _ h => h⟩⟩
  exact settled.arrives hfolder 0

end Settled

end FileSystem

end PathTemplates
