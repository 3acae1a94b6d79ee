import PathTemplates.Proofs.Join.Tuples
import PathTemplates.Proofs.Listing.Likeness
import PathTemplates.Proofs.Listing.Restriction

namespace PathTemplates

namespace Crumb

open FileSystem (maxPathBytes)

variable {fs : FileSystem} {c : Crumb} {crumbs : List Crumb} {on names : List Text}
  {t u : Assignment} {rows : List Assignment}

/-- The values of a row that are not bound already. -/
def newValues (u t : Assignment) : Assignment := u.filter fun b => t.names.contains b.name

theorem Opens.newValues (h : c.Opens u) (t : Assignment) : c.Opens (newValues u t) := h.filter _

/-- A row may repeat names and bound values. To bind it is to bind a part of the completion that it
is read off. -/
theorem bindAll_eq_of_reads (hopens : c.Opens u) (h : c.Reads u names t) :
    c.bindAll t = c.bindAll (newValues u t) := by
  -- Of the names in the row, those that are bound already get the value that they have.
  have hvalues : c.values.insertAll t = c.values.insertAll (newValues u t) := by
    refine NameMap.ext fun n => ?_
    have hrow := c.values.get?_insertAll_of_forall
      (fun n => (u.get? n).or (c.values.get? n)) h.2 n
    have hnew : (newValues u t).get? n = if t.names.contains n then u.get? n else none :=
      Assignment.get?_filter ..
    rw [hrow, NameMap.get?_insertAll _ (hopens.newValues t).nodup, hnew]
    by_cases hn : n ∈ t.names <;> simp [hn]
  rw [bindAll, bindAll, hvalues]

theorem newValues_eq_self (h : u.names ⊆ t.names) : newValues u t = u :=
  List.filter_eq_self.2 fun _ hb => List.contains_iff_mem.2 (h (List.mem_map_of_mem hb))

/-- The crumb of a row exists if the row is read off a completion whose path can be asked for. -/
theorem pathExists_of_reads (hexists : c.checkExists = true) (hu : u ∈ c.unfoldValues fs)
    (h : c.Reads u names t) (hlength : (c.bindAll u).path.utf8Length ≤ maxPathBytes) :
    (c.bindAll t).pathExists fs = true := by
  have hopens := opens_of_mem_unfoldValues hu
  have hsame : (c.bindAll (newValues u t)).withCheckExists true = c.bindAll (newValues u t) :=
    withCheckExists_of_eq hexists
  rw [bindAll_eq_of_reads hopens h, pathExists_eq_true_iff, hsame]
  exact ⟨_, remaining_mem_unfoldValues hexists (hopens.filter _) hu (agrees_filter hopens)
    hlength⟩

/-- Every row of a join can be bound in each crumb that is joined, and comes from a completion of
it. What it makes exists unless the paths of all such completions are too long, and is one of the
paths of the crumb if the row has values for all its open arguments. -/
theorem build_intersection (hexists : ∀ c ∈ crumbs, c.checkExists = true)
    (hrows : intersection fs crumbs on = .ok rows) : ∀ c ∈ crumbs, ∀ t ∈ rows, ∃ d,
      c.build [t] = [.ok d] ∧ (∃ u ∈ c.unfoldValues fs, c.Reads u t.names t) ∧
      (∀ u ∈ c.unfoldValues fs, c.Reads u t.names t → ∃ e, c.replace u = .ok e ∧
        (e.path.utf8Length ≤ maxPathBytes → d.pathExists fs = true)) ∧
      (c.openNames ⊆ t.names → ∃ paths, c.unfoldPaths fs = .ok paths ∧ d.path ∈ paths) := by
  intro c hc t ht
  obtain ⟨names, hresolves, rfl⟩ := resolves_of_intersection hrows
  have hjoins := joins_commonTuples fs (List.ne_nil_of_mem hc) hresolves.mentions
  obtain ⟨u, hu, hreads⟩ := (hjoins.mem_iff t).1 ht c hc
  obtain rfl := hreads.1
  have hbuild : c.replace t = .ok (c.bindAll t) := replace_eq_bindAll fun b hb =>
    hresolves.mentions c hc _ (List.mem_map_of_mem hb)
  refine ⟨c.bindAll t, congrArg (fun r => [r]) hbuild, ⟨u, hu, hreads⟩, fun u hu hreads => ?_,
    fun hall => ?_⟩
  · exact ⟨_, (opens_of_mem_unfoldValues hu).replace,
      pathExists_of_reads (hexists c hc) hu hreads⟩
  · refine ⟨_, unfoldPaths_eq fs c, ?_⟩
    rw [bindAll_eq_of_reads (opens_of_mem_unfoldValues hu) hreads,
      newValues_eq_self (names_of_mem_unfoldValues hu ▸ hall)]
    exact List.mem_map_of_mem hu

theorem build_intersection_gap :
    (∀ c ∈ [gap 0, gap 1], c.checkExists = true) ∧
    ∃ rows, intersection gapFiles [gap 0, gap 1] [['x']] = .ok rows ∧ [⟨['x'], ['s']⟩] ∈ rows ∧
      ∃ d, (gap 0).build [[⟨['x'], ['s']⟩]] = [.ok d] ∧ d.pathExists gapFiles = true := by
  have hexists : ∀ c ∈ [gap 0, gap 1], c.checkExists = true :=
    List.forall_mem_cons.2 ⟨rfl, List.forall_mem_singleton.2 rfl⟩
  have hrows : intersection gapFiles [gap 0, gap 1] [['x']] = .ok _ := intersection_eq_ok rfl
  have hmem : [⟨['x'], ['s']⟩] ∈ commonTuples
      ([gap 0, gap 1].map fun c => c.valuesOver gapFiles [['x']]) :=
    (mem_commonTuples (List.cons_ne_nil _ _)).2 (List.forall_mem_cons.2
      ⟨mem_valuesOver_gap 0, List.forall_mem_singleton.2 (mem_valuesOver_gap 1)⟩)
  obtain ⟨d, hd, _, hthere, _⟩ := build_intersection hexists hrows (gap 0)
    (List.mem_cons_self ..) _ hmem
  obtain ⟨e, he, hexist⟩ := hthere gapValues (mem_unfoldValues_gap 0)
    ⟨rfl, List.forall_mem_singleton.2 rfl⟩
  refine ⟨hexists, _, hrows, hmem, d, hd, hexist ?_⟩
  cases he.symm.trans (opens_of_mem_unfoldValues (mem_unfoldValues_gap 0)).replace
  rw [length_path_gap]
  decide

/-- With 4097 slashes the folder is in the join, but once it is bound there is nothing to be
found. -/
theorem exists_lost_row_gap : (gap 4096).checkExists = true ∧
    ∃ rows, intersection gapFiles [gap 4096] [['x']] = .ok rows ∧ [⟨['x'], ['s']⟩] ∈ rows ∧
      ∃ d, (gap 4096).build [[⟨['x'], ['s']⟩]] = [.ok d] ∧ d.pathExists gapFiles = false := by
  refine ⟨rfl, _, intersection_eq_ok rfl, ?_, (gap 4096).bindAll [⟨['x'], ['s']⟩],
    rfl, pathExists_bindAll_gap (by decide) (by decide)⟩
  exact (mem_commonTuples (List.cons_ne_nil _ _)).2
    (List.forall_mem_singleton.2 (mem_valuesOver_gap 4096))

end Crumb

end PathTemplates
