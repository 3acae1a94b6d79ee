import Mathlib.Data.List.Sort
import PathTemplates.Proofs.FileSystem.Inclusion
import PathTemplates.Proofs.Listing.Refusals

namespace PathTemplates

namespace Crumb

open FileSystem (IncludedIn)

variable {fs fs' : FileSystem} {c : Crumb} {extent : Extent} {t : Assignment}

theorem Descends.persists {more : Prop} {folder stop : Text} {ks : List Component}
    (h : fs.IncludedIn fs') (hdescends : Descends fs c more folder ks t stop) :
    Descends fs' c more folder ks t stop := by
  induction hdescends with
  | stop => exact .stop
  | literal closed _ ih => exact .literal closed ih
  | entry isOpen there inside kept fits allowed _ ih =>
    exact .entry isOpen (h.hasEntry there) (fun hmore => h.hasFolder (inside hmore)) kept fits
      allowed ih

theorem completions_persist (h : fs.IncludedIn fs') (ht : t ∈ c.completions fs extent) :
    t ∈ c.completions fs' extent := by
  cases hplan : Plan.make? c.components c.checkExists extent with
  | none =>
    obtain ⟨hnil, hthere⟩ := (mem_completions_of_none hplan).1 ht
    exact (mem_completions_of_none hplan).2 ⟨hnil, fun hexists => h.pathExists (hthere hexists)⟩
  | some p =>
    obtain ⟨u, stop, hdescends, hthere, htake⟩ := (mem_completions hplan).1 ht
    exact (mem_completions hplan).2
      ⟨u, stop, hdescends.persists h, fun hexists => h.pathExists (hthere hexists), htake⟩

/-- Targets are refused or accepted as before, and what is found for them is found again. -/
theorem find_persists {targets names : List Text} {found : List Assignment}
    (h : fs.IncludedIn fs') (hfind : c.find fs targets = .ok (names, found)) :
    ∃ found', c.find fs' targets = .ok (names, found') ∧ found ⊆ found' := by
  by_cases hne : targets = []
  · rw [hne, find_nil] at hfind
    cases hfind
    exact ⟨_, hne ▸ find_nil fs' c, fun _ => completions_persist h⟩
  · rw [find_eq_map fs c hne] at hfind
    cases hwith : c.withTargets (targets.map Target.read) with
    | error error =>
      rw [hwith] at hfind
      cases hfind
    | ok e =>
      rw [hwith] at hfind
      cases hfind
      refine ⟨_, find_eq hne hwith, ?_⟩
      split
      · exact List.Subset.refl _
      · exact fun _ => completions_persist h

/-- What the crumb lists in the first file system it lists in the second, in the same order, and if
it exists in the first it exists in the second. -/
structure Persists (fs fs' : FileSystem) (c : Crumb) : Prop where
  unfoldValues : (c.unfoldValues fs).Sublist (c.unfoldValues fs')
  listValues : ∀ targets rows, c.listValues fs targets = .ok rows →
    ∃ rows', c.listValues fs' targets = .ok rows' ∧ rows.Sublist rows'
  pathExists : c.pathExists fs = true → c.pathExists fs' = true

theorem persists (h : fs.IncludedIn fs') (c : Crumb) : Persists fs fs' c where
  unfoldValues := sublist_of_subset (ascending_completions ..) (ascending_completions ..)
    fun _ => completions_persist h
  listValues targets rows hrows := by
    rw [listValues_eq_map] at hrows
    cases hfind : c.find fs targets with
    | error error =>
      rw [hfind] at hrows
      cases hrows
    | ok r =>
      rw [hfind] at hrows
      cases hrows
      obtain ⟨found', hfind', hsubset⟩ := find_persists h hfind
      refine ⟨c.selectAll found' r.1, by rw [listValues_eq_map, hfind']; rfl, ?_⟩
      refine sublist_of_subset SortedList.ascending_ofList SortedList.ascending_ofList
        fun row hrow => ?_
      obtain ⟨u, hu, hreads⟩ := mem_selectAll.1 hrow
      exact mem_selectAll.2 ⟨u, hsubset hu, hreads⟩
  pathExists hthere := by
    obtain ⟨u, hu⟩ := pathExists_eq_true_iff.1 hthere
    exact pathExists_eq_true_iff.2 ⟨u, completions_persist h hu⟩

/-- Where there is more on disk, nothing that was listed is lost, and to make a file, a folder or a
link is to have more on disk. -/
theorem listings_persist (c : Crumb) :
    (∀ fs fs' : FileSystem, fs.IncludedIn fs' → Persists fs fs' c) ∧
    ∀ (fs fs' : FileSystem) (n : Node) (p : Text), fs.create n p = .ok fs' → Persists fs fs' c :=
  ⟨fun _ _ h => persists h c, fun _ _ _ _ h => persists (FileSystem.includedIn_create h) c⟩

theorem listings_persist_gap : ∃ fs', gapFiles.create (.link ['s']) ['l'] = .ok fs' ∧
    gapFiles.IncludedIn fs' ∧ gapValues ∈ (gap 0).unfoldValues gapFiles ∧
    gapValues ∈ (gap 0).unfoldValues fs' ∧ (gap 0).pathExists fs' = true := by
  obtain ⟨fs', hcreate⟩ : ∃ fs', gapFiles.create (.link ['s']) ['l'] = .ok fs' := ⟨_, rfl⟩
  have hincluded := FileSystem.includedIn_create hcreate
  have hmem := mem_unfoldValues_gap 0
  have hthere : (gap 0).pathExists gapFiles = true := pathExists_eq_true_iff.2 ⟨gapValues, hmem⟩
  obtain ⟨hpersists, hcreated⟩ := listings_persist (gap 0)
  exact ⟨fs', hcreate, hincluded, hmem,
    (hpersists _ _ hincluded).unfoldValues.subset hmem,
    (hcreated _ _ _ _ hcreate).pathExists hthere⟩

end Crumb

end PathTemplates
