import Mathlib.Data.List.Chain
import PathTemplates.Proofs.Template.Reading

namespace PathTemplates

namespace Segment

def IsLiteral : Segment → Prop
  | .literal _ => True
  | .argument _ => False

/-- Not both segments are literals. -/
def Apart (g h : Segment) : Prop := ¬(g.IsLiteral ∧ h.IsLiteral)

end Segment

namespace Template

variable {s : Text} {t : Template} {p : Placeholder} {gs : List Segment} {n : Nat}

/-- The arguments remember where they stand if the segments start at this position. -/
def PlacedFrom (n : Nat) (gs : List Segment) : Prop :=
  ∀ before p after, gs = before ++ .argument p :: after →
    p.span = ⟨n + (text ⟨before⟩).length, n + (text ⟨before⟩).length + p.text.length⟩

/-- The templates that texts are read as: the segments are of the grammar, literals are neither
empty nor next to each other, and arguments have names of their own and remember where they
stand. -/
structure WellFormed (t : Template) : Prop where
  allowed : ∀ g ∈ t.segments, g.Allowed
  nonempty : ∀ text, .literal text ∈ t.segments → text ≠ []
  apart : t.segments.IsChain Segment.Apart
  named : t.Named
  placed : PlacedFrom 0 t.segments

theorem placedFrom_nil : PlacedFrom n [] := by
  intro before p after h
  cases before <;> cases h

/-- Behind the first segment the positions go on at its end. -/
theorem placedFrom_cons {g : Segment} :
    PlacedFrom n (g :: gs) ↔
      (∀ p, g = .argument p → p.span = ⟨n, n + p.text.length⟩) ∧
        PlacedFrom (n + (g.render fun _ => none).length) gs := by
  constructor
  · intro h
    refine ⟨fun p hg => h [] p gs (congrArg (· :: gs) hg), fun before p after hsplit => ?_⟩
    have hspan := h (g :: before) p after (congrArg (g :: ·) hsplit)
    rwa [add_length_text_cons] at hspan
  · intro ⟨hg, h⟩ before p after hsplit
    cases before with
    | nil => exact hg p (List.cons.inj hsplit).1
    | cons first before =>
      obtain ⟨rfl, htail⟩ := List.cons.inj hsplit
      rw [add_length_text_cons]
      exact h before p after htail

theorem placedFrom_literal {text : Text} :
    PlacedFrom n (.literal text :: gs) ↔ PlacedFrom (n + text.length) gs :=
  placedFrom_cons.trans (and_iff_right nofun)

theorem placedFrom_argument :
    PlacedFrom n (.argument p :: gs) ↔
      p.span = ⟨n, n + p.text.length⟩ ∧ PlacedFrom (n + p.text.length) gs := by
  rw [placedFrom_cons]
  exact and_congr_left' ⟨fun h => h p rfl, fun h q hq => Segment.argument.inj hq ▸ h⟩

theorem placedFrom_literalSegment {text : Text} :
    PlacedFrom n (literalSegment text ++ gs) ↔ PlacedFrom (n + text.length) gs := by
  cases text with
  | nil => rfl
  | cons c text => exact placedFrom_literal

theorem nonempty_arrange (seen : Text) (n : Nat) (gs : List Segment) :
    ∀ text, .literal text ∈ arrange seen n gs → text ≠ [] := by
  have hseen (seen text : Text) : .literal text ∈ literalSegment seen → text ≠ [] := by
    intro h
    cases seen with
    | nil => cases h
    | cons c seen =>
      cases List.mem_singleton.1 h
      exact List.cons_ne_nil c seen
  induction gs generalizing seen n with
  | nil => exact hseen seen
  | cons g gs ih =>
    cases g with
    | literal t => exact ih (seen ++ t) (n + t.length)
    | argument p =>
      intro text h
      obtain h | h := List.mem_append.1 h
      · exact hseen seen text h
      · cases h with
        | tail _ h => exact ih [] (n + p.text.length) text h

theorem apart_arrange (seen : Text) (n : Nat) (gs : List Segment) :
    (arrange seen n gs).IsChain Segment.Apart := by
  induction gs generalizing seen n with
  | nil =>
    cases seen with
    | nil => exact .nil
    | cons c seen => exact .singleton _
  | cons g gs ih =>
    cases g with
    | literal t => exact ih (seen ++ t) (n + t.length)
    | argument p =>
      have hrest : (Segment.argument { p with span := ⟨n, n + p.text.length⟩ } ::
          arrange [] (n + p.text.length) gs).IsChain Segment.Apart :=
        (ih [] (n + p.text.length)).cons fun _ _ hliteral => hliteral.1
      cases seen with
      | nil => exact hrest
      | cons c seen =>
        refine hrest.cons fun h hh => ?_
        cases Option.some.inj hh
        exact fun hliteral => hliteral.2

theorem placed_arrange (seen : Text) (n : Nat) (gs : List Segment) :
    PlacedFrom n (arrange seen (n + seen.length) gs) := by
  induction gs generalizing seen n with
  | nil =>
    have hnil : PlacedFrom n (literalSegment seen ++ []) :=
      placedFrom_literalSegment.2 placedFrom_nil
    rwa [List.append_nil] at hnil
  | cons g gs ih =>
    cases g with
    | literal t =>
      have hrest := ih (seen ++ t) n
      rwa [List.length_append, ← Nat.add_assoc] at hrest
    | argument p =>
      exact placedFrom_literalSegment.2 (placedFrom_argument.2 ⟨rfl, ih [] _⟩)

theorem arrange_of_head (seen : Text) (h : ∀ g ∈ gs.head?, ¬g.IsLiteral) :
    arrange seen n gs = literalSegment seen ++ arrange [] n gs := by
  cases gs with
  | nil => exact (List.append_nil _).symm
  | cons g gs =>
    cases g with
    | literal t => exact absurd trivial (h _ rfl)
    | argument p => rfl

theorem arrange_literal (hne : s ≠ []) (h : ∀ g ∈ gs.head?, ¬g.IsLiteral) :
    arrange [] n (.literal s :: gs) = .literal s :: arrange [] (n + s.length) gs := by
  rw [arrange, List.nil_append, arrange_of_head s h]
  cases s with
  | nil => exact absurd rfl hne
  | cons c s => rfl

theorem arrange_eq_self (hnonempty : ∀ text, .literal text ∈ gs → text ≠ [])
    (hapart : gs.IsChain Segment.Apart) (hplaced : PlacedFrom n gs) : arrange [] n gs = gs := by
  induction gs generalizing n with
  | nil => rfl
  | cons g gs ih =>
    have hrest : ∀ text, .literal text ∈ gs → text ≠ [] :=
      fun text h => hnonempty text (List.mem_cons_of_mem _ h)
    obtain ⟨hhead, hchain⟩ := List.isChain_cons.1 hapart
    cases g with
    | literal t =>
      have hself := ih hrest hchain (placedFrom_literal.1 hplaced)
      rw [arrange_literal (hnonempty t (List.mem_cons_self ..))
        fun g hg hliteral => hhead g hg ⟨trivial, hliteral⟩, hself]
    | argument p =>
      obtain ⟨hspan, hplaced⟩ := placedFrom_argument.1 hplaced
      rw [arrange, ih hrest hchain hplaced, ← hspan]
      rfl

theorem wellFormed_of_read (h : read s = .ok t) : t.WellFormed := by
  obtain ⟨hspells, hnamed⟩ := spells_of_read h
  have harranged : arrange [] 0 t.segments = t.segments := by
    rw [read_of_named hspells hnamed] at h
    exact congrArg segments (Except.ok.inj h)
  refine ⟨hspells.allowed, ?_, ?_, hnamed, ?_⟩
  · rw [← harranged]
    exact nonempty_arrange [] 0 t.segments
  · rw [← harranged]
    exact apart_arrange [] 0 t.segments
  · rw [← harranged]
    exact placed_arrange [] 0 t.segments

theorem mem_segments_of_mem_placeholders (hp : p ∈ t.placeholders) : .argument p ∈ t.segments := by
  obtain ⟨g, hg, hgp⟩ := List.mem_filterMap.1 hp
  cases g with
  | literal t => cases hgp
  | argument q =>
    cases hgp
    exact hg

theorem extract_span (h : t.WellFormed) (hp : p ∈ t.placeholders) :
    p.span.start ≤ p.span.stop ∧ p.span.stop ≤ t.text.length ∧
      t.text.extract p.span.start p.span.stop = p.text := by
  obtain ⟨before, after, hsplit⟩ := List.append_of_mem (mem_segments_of_mem_placeholders hp)
  have htext : t.text = text ⟨before⟩ ++ (p.text ++ text ⟨after⟩) := by
    rw [show t.text = text ⟨t.segments⟩ from rfl, hsplit, text_append]
    rfl
  have hspan := h.placed before p after hsplit
  rw [Nat.zero_add] at hspan
  rw [hspan, htext]
  refine ⟨Nat.le_add_right .., ?_, ?_⟩
  · simp only [List.length_append]
    omega
  · rw [List.extract_eq_take_drop, Nat.add_sub_cancel_left, List.drop_left, List.take_left]

/-- What is read is well-formed and writes the text back, and the text of every argument stands at
its span. Conversely, a well-formed template is read from its own text. -/
theorem read_text :
    (∀ (s : Text) (t : Template), read s = .ok t → t.text = s ∧ t.WellFormed ∧
      ∀ p ∈ t.placeholders, p.span.start ≤ p.span.stop ∧ p.span.stop ≤ s.length ∧
        s.extract p.span.start p.span.stop = p.text) ∧
      ∀ t : Template, t.WellFormed → read t.text = .ok t := by
  constructor
  · intro s t h
    have htext := (spells_of_read h).1.text_eq
    have hformed := wellFormed_of_read h
    refine ⟨htext, hformed, fun p hp => ?_⟩
    rw [← htext]
    exact extract_span hformed hp
  · intro t h
    rw [read_of_named ⟨h.allowed, rfl⟩ h.named, arrange_eq_self h.nonempty h.apart h.placed]

/-- The template `v{n:\d{2}}`. -/
def sample : Template :=
  ⟨[.literal ['v'], .argument ⟨['n'], some ['\\', 'd', '{', '2', '}'], ⟨1, 10⟩⟩]⟩

theorem wellFormed_sample : sample.WellFormed := by
  have hpattern : Balanced ['\\', 'd', '{', '2', '}'] :=
    .char (by decide) (by decide) (.char (by decide) (by decide)
      (.group (.single (by decide) (by decide)) .nil))
  refine ⟨?_, ?_, ?_, ⟨by decide, by decide⟩, ?_⟩
  · intro g hg
    obtain rfl | hg := List.mem_cons.1 hg
    · exact ⟨by decide, by decide⟩
    · cases List.mem_singleton.1 hg
      exact ⟨List.forall_mem_singleton.2 rfl, fun t ht => Option.some.inj ht ▸ hpattern⟩
  · intro text h
    obtain h | h := List.mem_cons.1 h
    · cases h
      exact List.cons_ne_nil _ _
    · cases List.mem_singleton.1 h
  · exact .cons_cons (fun hliteral => hliteral.2) (.singleton _)
  · exact placedFrom_literal.2 (placedFrom_argument.2 ⟨rfl, placedFrom_nil⟩)

theorem read_text_sample :
    sample.WellFormed ∧ read sample.text = .ok sample ∧
      ∀ p ∈ sample.placeholders, sample.text.extract p.span.start p.span.stop = p.text := by
  have hread := read_text.2 sample wellFormed_sample
  exact ⟨wellFormed_sample, hread, fun p hp => ((read_text.1 _ _ hread).2.2 p hp).2.2⟩

end Template

end PathTemplates
