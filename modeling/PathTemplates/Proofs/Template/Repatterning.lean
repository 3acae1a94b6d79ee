import PathTemplates.Proofs.Template.Places

namespace PathTemplates

/-- Both ends, so that they can be moved to either side. -/
def Span.ends (s : Span) : Int × Int := (s.start, s.stop)

namespace Template

variable {s name pattern : Text} {t r : Template} {p : Placeholder} {gs hs : List Segment}

theorem setPatternIn_append {pattern : Option Text} (h : p.name ∉ names ⟨gs⟩) :
    setPatternIn p.name pattern (gs ++ .argument p :: hs) =
      gs ++ .argument { p with pattern } :: hs := by
  induction gs with
  | nil => exact if_pos rfl
  | cons g gs ih =>
    cases g with
    | literal t => exact congrArg (.literal t :: ·) (ih h)
    | argument q =>
      obtain ⟨hq, hgs⟩ := not_or.1 fun hmem => h (List.mem_cons.2 hmem)
      exact (if_neg (Ne.symm hq)).trans (congrArg (.argument q :: ·) (ih hgs))

theorem exists_segments_eq {before after : List Placeholder}
    (h : placeholders ⟨gs⟩ = before ++ p :: after) :
    ∃ us vs, gs = us ++ .argument p :: vs ∧ placeholders ⟨us⟩ = before ∧
      placeholders ⟨vs⟩ = after := by
  obtain ⟨us, rest, rfl, hus, hrest⟩ := List.filterMap_eq_append_iff.1 h
  obtain ⟨skipped, g, vs, rfl, hskipped, hg, hvs⟩ := List.filterMap_eq_cons_iff.1 hrest
  cases g with
  | literal t => cases hg
  | argument q =>
    cases hg
    refine ⟨us ++ skipped, vs, by simp, ?_, hvs⟩
    rw [placeholders_append, show placeholders ⟨us⟩ = before from hus,
      show placeholders ⟨skipped⟩ = [] from List.filterMap_eq_nil_iff.2 hskipped, List.append_nil]

theorem mem_setPatternIn {pattern : Option Text} {g : Segment}
    (h : g ∈ setPatternIn name pattern gs) :
    g ∈ gs ∨ ∃ p, .argument p ∈ gs ∧ g = .argument { p with pattern } := by
  induction gs with
  | nil => cases h
  | cons f gs ih =>
    cases f with
    | literal t =>
      obtain rfl | h := List.mem_cons.1 h
      · exact .inl (List.mem_cons_self ..)
      · obtain hg | ⟨p, hp, hg⟩ := ih h
        · exact .inl (List.mem_cons_of_mem _ hg)
        · exact .inr ⟨p, List.mem_cons_of_mem _ hp, hg⟩
    | argument q =>
      rw [setPatternIn] at h
      split at h
      · obtain rfl | h := List.mem_cons.1 h
        · exact .inr ⟨q, List.mem_cons_self .., rfl⟩
        · exact .inl (List.mem_cons_of_mem _ h)
      · obtain rfl | h := List.mem_cons.1 h
        · exact .inl (List.mem_cons_self ..)
        · obtain hg | ⟨p, hp, hg⟩ := ih h
          · exact .inl (List.mem_cons_of_mem _ hg)
          · exact .inr ⟨p, List.mem_cons_of_mem _ hp, hg⟩

theorem allowed_setPattern (h : ∀ g ∈ t.segments, g.Allowed) (hpattern : Balanced pattern) :
    ∀ g ∈ (t.setPattern name (some pattern)).segments, g.Allowed := by
  intro g hg
  obtain hg | ⟨p, hp, rfl⟩ := mem_setPatternIn hg
  · exact h g hg
  · obtain hp : p.Allowed := h _ hp
    exact ⟨hp.name, fun text htext => Option.some.inj htext ▸ hpattern⟩

/-- A pattern whose braces do not balance may be read as something else, but never as itself. -/
theorem exists_read_setPattern_iff (h : t.WellFormed) (hname : name ∈ t.names) :
    (∃ r, read (t.setPattern name (some pattern)).text = .ok r ∧
      r.segments.map Segment.unplaced =
        (t.setPattern name (some pattern)).segments.map Segment.unplaced) ↔ Balanced pattern := by
  constructor
  · intro ⟨r, hread, hsegments⟩
    have hbalanced := patternsBalanced_of_unplaced (wellFormed_of_read hread) hsegments
    obtain ⟨p, hp, rfl⟩ := List.mem_map.1 hname
    have hfind := placeholder?_setPattern t p.name (some pattern) p.name
    rw [placeholder?_of_mem h.named.distinct hp, Option.map_some, if_pos rfl] at hfind
    exact hbalanced _ (List.mem_of_find?_eq_some hfind) pattern rfl
  · intro hpattern
    have hnamed : (t.setPattern name (some pattern)).Named := by
      have hnames := names_setPattern t name (some pattern)
      exact ⟨hnames ▸ h.named.nonempty, hnames ▸ h.named.distinct⟩
    refine ⟨_, read_of_named ⟨allowed_setPattern h.allowed hpattern, rfl⟩ hnamed, ?_⟩
    exact unplaced_arrange (fun text htext => h.nonempty text (literal_mem_setPatternIn.1 htext))
      (isChain_apart_setPattern h.apart ..) 0

theorem map_ends_places (n old new : Nat) (gs : List Segment) :
    (places (n + new) gs).map Span.ends = (places (n + old) gs).map fun span =>
      (span.start + ((new : Int) - old), span.stop + ((new : Int) - old)) := by
  rw [places_add, places_add, List.map_map, List.map_map]
  refine List.map_congr_left fun span _ => Prod.ext ?_ ?_
  · simp only [Function.comp_apply, Span.ends, Span.shift]
    omega
  · simp only [Function.comp_apply, Span.ends, Span.shift]
    omega

/-- The argument itself grows, and those behind it move by as much. -/
theorem map_ends_of_unplaced {before after : List Placeholder} (h : t.WellFormed)
    (hr : r.WellFormed) (hsegments : r.segments.map Segment.unplaced =
      (t.setPattern p.name (some pattern)).segments.map Segment.unplaced)
    (hsplit : t.placeholders = before ++ p :: after) {grown : Int}
    (hgrown : (Placeholder.text { p with pattern := some pattern }).length - p.text.length =
      grown) :
    r.placeholders.map (fun q => q.span.ends) =
      before.map (fun q => q.span.ends) ++ ((p.span.start : Int), p.span.stop + grown) ::
        after.map fun q => (q.span.start + grown, q.span.stop + grown) := by
  obtain ⟨us, vs, hgs, rfl, rfl⟩ := exists_segments_eq hsplit
  have hnew : p.name ∉ names ⟨us⟩ := by
    have hnodup := h.named.distinct
    rw [Template.names, hsplit, List.map_append, List.map_cons] at hnodup
    exact fun hmem => List.disjoint_of_nodup_append hnodup hmem (List.mem_cons_self ..)
  have hset : (t.setPattern p.name (some pattern)).segments =
      us ++ .argument { p with pattern := some pattern } :: vs := by
    rw [setPattern, hgs]
    exact setPatternIn_append hnew
  have hplaced := h.placed
  rw [hgs, placedFrom_append, placedFrom_argument] at hplaced
  obtain ⟨hus, hspan, hvs⟩ := hplaced
  have hspans : r.placeholders.map Placeholder.span =
      places 0 (us ++ .argument { p with pattern := some pattern } :: vs) := by
    rw [← hset, ← places_unplaced, ← hsegments, places_unplaced]
    exact map_span_eq_places hr.placed
  rw [places_append, places, ← map_span_eq_places hus] at hspans
  have hends := congrArg (List.map Span.ends) hspans
  rw [List.map_append, List.map_cons, map_ends_places _ p.text.length, ← map_span_eq_places hvs,
    hgrown, List.map_map, List.map_map, List.map_map] at hends
  refine hends.trans (congrArg₂ _ rfl (congrArg₂ _ (Prod.ext ?_ ?_) rfl))
  · exact congrArg Nat.cast (congrArg Span.start hspan).symm
  · have hstop : p.span.stop = _ := congrArg Span.stop hspan
    simp only [Span.ends, hstop]
    omega

/-- An argument of a template that has been read gets another pattern. The text is then read as the
template with this pattern, wherever its arguments stand, exactly if the braces of the pattern
balance: from its start on, never more are closed than have been opened, and in the end as many. The
argument ends later by what its text has grown, and all arguments behind it stand later by as
much. -/
theorem read_setPattern (reads : read s = .ok t) (hname : name ∈ t.names) (pattern : Text) :
    ((∃ r, read (t.setPattern name (some pattern)).text = .ok r ∧
        r.segments.map Segment.unplaced =
          (t.setPattern name (some pattern)).segments.map Segment.unplaced) ↔
      (∀ w, w <+: pattern → w.count '}' ≤ w.count '{') ∧
        pattern.count '{' = pattern.count '}') ∧
    ∀ r, read (t.setPattern name (some pattern)).text = .ok r →
      r.segments.map Segment.unplaced =
        (t.setPattern name (some pattern)).segments.map Segment.unplaced →
      ∃ before p after grown, t.placeholders = before ++ p :: after ∧ p.name = name ∧
        (Placeholder.text { p with pattern := some pattern }).length - p.text.length =
          (grown : Int) ∧
        r.placeholders.map (fun q => q.span.ends) =
          before.map (fun q => q.span.ends) ++ ((p.span.start : Int), p.span.stop + grown) ::
            after.map fun q => (q.span.start + grown, q.span.stop + grown) := by
  have h := wellFormed_of_read reads
  refine ⟨(exists_read_setPattern_iff h hname).trans balanced_iff_count, fun r hr hsegments => ?_⟩
  obtain ⟨p, hp, rfl⟩ := List.mem_map.1 hname
  obtain ⟨before, after, hsplit⟩ := List.append_of_mem hp
  exact ⟨before, p, after, _, hsplit, rfl, rfl,
    map_ends_of_unplaced h (wellFormed_of_read hr) hsegments hsplit rfl⟩

/-- The template `{a}/{b}` with the pattern `{1}` for `a`. -/
theorem read_setPattern_sample : ∃ t r, read ['{', 'a', '}', '/', '{', 'b', '}'] = .ok t ∧
    ['a'] ∈ t.names ∧ read (t.setPattern ['a'] (some ['{', '1', '}'])).text = .ok r ∧
    t.placeholders.map (fun q => q.span.ends) = [(0, 3), (4, 7)] ∧
    r.placeholders.map (fun q => q.span.ends) = [(0, 7), (8, 11)] := by
  obtain ⟨t, hread, hname, hplaceholders⟩ : ∃ t, read ['{', 'a', '}', '/', '{', 'b', '}'] = .ok t ∧
      ['a'] ∈ t.names ∧
      t.placeholders = [⟨['a'], none, ⟨0, 3⟩⟩, ⟨['b'], none, ⟨4, 7⟩⟩] :=
    ⟨_, rfl, by decide, rfl⟩
  obtain ⟨hiff, hspans⟩ := read_setPattern hread hname ['{', '1', '}']
  have hbalanced : Balanced ['{', '1', '}'] := .group (.single (by decide) (by decide)) .nil
  obtain ⟨r, hr, hsegments⟩ := hiff.2 (balanced_iff_count.1 hbalanced)
  obtain ⟨before, p, after, grown, hsplit, hp, hgrown, hends⟩ := hspans r hr hsegments
  rw [hplaceholders] at hsplit
  obtain rfl : before = [] := by
    cases before with
    | nil => rfl
    | cons q before =>
      obtain ⟨-, hsplit⟩ := List.cons.inj hsplit
      have hmem : p ∈ [⟨['b'], none, ⟨4, 7⟩⟩] :=
        hsplit ▸ List.mem_append_right _ (List.mem_cons_self ..)
      rw [List.mem_singleton.1 hmem] at hp
      cases hp
  obtain ⟨rfl, rfl⟩ := List.cons.inj hsplit
  obtain rfl : grown = 4 := hgrown.symm
  exact ⟨t, r, hread, hname, hr, by rw [hplaceholders]; rfl, hends⟩

end Template

end PathTemplates
