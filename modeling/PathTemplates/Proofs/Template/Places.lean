import PathTemplates.Proofs.Crumb.Shapes
import PathTemplates.Proofs.Template.Fronts

namespace PathTemplates

namespace Segment

/-- The segment wherever it stands. -/
def unplaced : Segment → Segment
  | literal t => literal t
  | argument p => argument p.unplaced

end Segment

namespace Template

variable {t : Template} {gs : List Segment} {p : Placeholder}

/-- Segments that keep apart move when they are arranged, and that is all. -/
theorem unplaced_arrange (hnonempty : ∀ text, .literal text ∈ gs → text ≠ [])
    (hapart : gs.IsChain Segment.Apart) (n : Nat) :
    (arrange [] n gs).map Segment.unplaced = gs.map Segment.unplaced := by
  induction gs generalizing n with
  | nil => rfl
  | cons g gs ih =>
    have hrest : ∀ text, .literal text ∈ gs → text ≠ [] :=
      fun text h => hnonempty text (List.mem_cons_of_mem _ h)
    obtain ⟨hhead, hchain⟩ := List.isChain_cons.1 hapart
    cases g with
    | literal t =>
      rw [arrange_literal (hnonempty t (List.mem_cons_self ..))
        fun g hg hliteral => hhead g hg ⟨trivial, hliteral⟩, List.map_cons, List.map_cons,
        ih hrest hchain]
    | argument p => exact congrArg (.argument p.unplaced :: ·) (ih hrest hchain _)

theorem braceFree_of_read {text : Text} (h : read text = .ok t) : t.BraceFree :=
  fun _ hliteral => (wellFormed_of_read h).allowed _ hliteral

/-- Patterns of a template that can be read have balanced braces, wherever the arguments stand. -/
theorem patternsBalanced_of_unplaced {s : Template} (h : t.WellFormed)
    (hsegments : t.segments.map Segment.unplaced = s.segments.map Segment.unplaced) :
    s.PatternsBalanced := by
  intro p hp text htext
  have hmem : Segment.argument p.unplaced ∈ t.segments.map Segment.unplaced := by
    rw [hsegments]
    exact List.mem_map_of_mem (f := Segment.unplaced) (mem_segments_of_mem_placeholders hp)
  obtain ⟨g, hg, hgp⟩ := List.mem_map.1 hmem
  cases g with
  | literal t => cases hgp
  | argument q =>
    have hallowed : q.Allowed := h.allowed _ hg
    have hunplaced : q.unplaced = p.unplaced := Segment.argument.inj hgp
    exact hallowed.pattern text ((congrArg Placeholder.pattern hunplaced).trans htext)

/-- Where the arguments stand if the segments start at this position. -/
def places : Nat → List Segment → List Span
  | _, [] => []
  | n, .literal t :: gs => places (n + t.length) gs
  | n, .argument p :: gs => ⟨n, n + p.text.length⟩ :: places (n + p.text.length) gs

theorem map_span_eq_places {n : Nat} (h : PlacedFrom n gs) :
    (placeholders ⟨gs⟩).map Placeholder.span = places n gs := by
  induction gs generalizing n with
  | nil => rfl
  | cons g gs ih =>
    cases g with
    | literal t => exact ih (placedFrom_literal.1 h)
    | argument p =>
      obtain ⟨hspan, hrest⟩ := placedFrom_argument.1 h
      exact congrArg₂ List.cons hspan (ih hrest)

theorem placedFrom_append {n : Nat} {hs : List Segment} :
    PlacedFrom n (gs ++ hs) ↔ PlacedFrom n gs ∧ PlacedFrom (n + (text ⟨gs⟩).length) hs := by
  induction gs generalizing n with
  | nil => exact (and_iff_right placedFrom_nil).symm
  | cons g gs ih =>
    rw [List.cons_append, placedFrom_cons, placedFrom_cons, ih, add_length_text_cons, and_assoc]

theorem places_append (n : Nat) (gs hs : List Segment) :
    places n (gs ++ hs) = places n gs ++ places (n + (text ⟨gs⟩).length) hs := by
  induction gs generalizing n with
  | nil => rfl
  | cons g gs ih =>
    rw [add_length_text_cons]
    cases g with
    | literal t => exact ih (n + t.length)
    | argument p => exact congrArg (_ :: ·) (ih (n + p.text.length))

theorem places_add (n k : Nat) (gs : List Segment) :
    places (n + k) gs = (places n gs).map fun span => span.shift k := by
  induction gs generalizing n with
  | nil => rfl
  | cons g gs ih =>
    cases g with
    | literal t => rw [places, places, Nat.add_right_comm, ih]
    | argument p =>
      rw [places, places, Nat.add_right_comm, ih, List.map_cons]
      rfl

/-- The places do not hang on the spans that the segments have. -/
theorem places_unplaced (n : Nat) (gs : List Segment) :
    places n (gs.map Segment.unplaced) = places n gs := by
  induction gs generalizing n with
  | nil => rfl
  | cons g gs ih =>
    cases g with
    | literal t => exact ih (n + t.length)
    | argument p => exact congrArg (_ :: ·) (ih (n + p.text.length))

end Template

end PathTemplates
