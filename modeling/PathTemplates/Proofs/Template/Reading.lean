import Mathlib.Data.List.Induction
import PathTemplates.Proofs.Template.Grammar

namespace PathTemplates

namespace Template

variable {s : Text} {t d e : Template} {p : Placeholder} {gs hs : List Segment}

theorem placeholders_append (gs hs : List Segment) :
    placeholders ⟨gs ++ hs⟩ = placeholders ⟨gs⟩ ++ placeholders ⟨hs⟩ :=
  List.filterMap_append

theorem names_append (gs hs : List Segment) : names ⟨gs ++ hs⟩ = names ⟨gs⟩ ++ names ⟨hs⟩ := by
  rw [names, placeholders_append, List.map_append]
  rfl

theorem placeholders_literalSegment (t : Text) : placeholders ⟨literalSegment t⟩ = [] := by
  cases t <;> rfl

theorem names_eq_map_arguments (t : Template) : t.names = t.arguments.map Prod.fst := by
  rw [arguments, List.map_map]
  rfl

theorem Named.nil : Named ⟨[]⟩ := ⟨nofun, List.nodup_nil⟩

theorem arrange_append_argument (seen : Text) (n : Nat) (before after : List Segment)
    (p : Placeholder) :
    arrange seen n (before ++ .argument p :: after) =
      arrange seen n before ++
        .argument { p with
          span := ⟨n + (text ⟨before⟩).length, n + (text ⟨before⟩).length + p.text.length⟩ } ::
          arrange [] (n + (text ⟨before⟩).length + p.text.length) after := by
  induction before generalizing seen n with
  | nil => rfl
  | cons g before ih =>
    rw [add_length_text_cons]
    cases g with
    | literal t =>
      rw [List.cons_append, arrange, ih, arrange]
      rfl
    | argument q =>
      rw [List.cons_append, arrange, ih, arrange, List.append_assoc, List.cons_append]
      rfl

theorem arguments_arrange (seen : Text) (n : Nat) (gs : List Segment) :
    arguments ⟨arrange seen n gs⟩ = arguments ⟨gs⟩ := by
  induction gs generalizing seen n with
  | nil => rw [arrange, arguments, placeholders_literalSegment]; rfl
  | cons g gs ih =>
    cases g with
    | literal t => exact ih (seen ++ t) (n + t.length)
    | argument p =>
      have hrest := ih [] (n + p.text.length)
      rw [arguments] at hrest ⊢
      rw [arrange, placeholders_append, placeholders_literalSegment]
      exact congrArg ((p.name, p.pattern) :: ·) hrest

theorem names_arrange (seen : Text) (n : Nat) (gs : List Segment) :
    names ⟨arrange seen n gs⟩ = names ⟨gs⟩ := by
  rw [names_eq_map_arguments, arguments_arrange, names_eq_map_arguments]

theorem Named.arrange (h : Named ⟨gs⟩) (seen : Text) (n : Nat) : Named ⟨arrange seen n gs⟩ :=
  ⟨by rw [names_arrange]; exact h.nonempty, by rw [names_arrange]; exact h.distinct⟩

theorem arrange_eq_of_text_eq (hgs : ∀ g ∈ gs, g.Allowed) (hhs : ∀ h ∈ hs, h.Allowed)
    (h : text ⟨gs⟩ = text ⟨hs⟩) (seen : Text) (n : Nat) :
    arrange seen n gs = arrange seen n hs := by
  have hread : readSegments (.literal seen) n (text ⟨gs⟩) = _ := readSegments_text hgs
  rw [h, readSegments_text hhs] at hread
  exact (Except.ok.inj hread).symm

/-- A text is made of segments in one way, up to literals that are joined. -/
theorem arrange_eq_of_spells (hd : d.Spells s) (he : e.Spells s) :
    arrange [] 0 d.segments = arrange [] 0 e.segments :=
  arrange_eq_of_text_eq hd.allowed he.allowed (hd.text_eq.trans he.text_eq.symm) [] 0

theorem arguments_eq_of_spells (hd : d.Spells s) (he : e.Spells s) : d.arguments = e.arguments := by
  have harrange := arguments_arrange [] 0 d.segments
  rw [arrange_eq_of_spells hd he, arguments_arrange] at harrange
  exact harrange.symm

theorem firstBadName_append {earlier : List Text} {ps qs : List Placeholder}
    (h : firstBadName earlier ps = none) :
    firstBadName earlier (ps ++ qs) = firstBadName ((ps.map (·.name)).reverse ++ earlier) qs := by
  induction ps generalizing earlier with
  | nil => rfl
  | cons p ps ih =>
    rw [firstBadName] at h
    split at h
    · cases h
    · next hnonempty =>
      split at h
      · cases h
      · next hnew =>
        rw [List.cons_append, firstBadName, if_neg hnonempty, if_neg hnew, ih h, List.map_cons,
          List.reverse_cons, List.append_assoc]
        rfl

theorem firstBadName_nil_eq_none_iff : firstBadName [] t.placeholders = none ↔ t.Named := by
  rw [firstBadName_eq_none_iff]
  constructor
  · intro ⟨hnames, hnodup⟩
    refine ⟨fun n hn => ?_, hnodup⟩
    obtain ⟨p, hp, rfl⟩ := List.mem_map.1 hn
    exact (hnames p hp).1
  · intro h
    exact ⟨fun p hp => ⟨h.nonempty _ (List.mem_map_of_mem hp), nofun⟩, h.distinct⟩

theorem named_append_literal (h : Named ⟨gs⟩) (t : Text) : Named ⟨gs ++ [.literal t]⟩ := by
  have hnames : names ⟨gs ++ [.literal t]⟩ = names ⟨gs⟩ :=
    (names_append gs [.literal t]).trans (List.append_nil _)
  exact ⟨by rw [hnames]; exact h.nonempty, by rw [hnames]; exact h.distinct⟩

theorem named_append_argument (h : Named ⟨gs⟩) (hempty : p.name ≠ []) (hnew : p.name ∉ names ⟨gs⟩) :
    Named ⟨gs ++ [.argument p]⟩ := by
  have hnames : names ⟨gs ++ [.argument p]⟩ = names ⟨gs⟩ ++ [p.name] := names_append gs _
  refine ⟨?_, ?_⟩
  · rw [hnames]
    exact List.forall_mem_append.2 ⟨h.nonempty, List.forall_mem_singleton.2 hempty⟩
  · rw [hnames]
    exact List.nodup_append.2
      ⟨h.distinct, List.pairwise_singleton _ _, fun n hn m hm => by
        rw [List.mem_singleton.1 hm]
        exact fun heq => hnew (heq ▸ hn)⟩

/-- If not every argument has a name of its own, there is a first one that has not. -/
theorem exists_of_not_named (h : ¬Named ⟨gs⟩) :
    ∃ before p after, gs = before ++ .argument p :: after ∧ Named ⟨before⟩ ∧
      (p.name = [] ∨ p.name ≠ [] ∧ p.name ∈ names ⟨before⟩) := by
  induction gs using List.reverseRecOn with
  | nil => exact absurd .nil h
  | append_singleton gs g ih =>
    by_cases hgs : Named ⟨gs⟩
    · cases g with
      | literal t => exact absurd (named_append_literal hgs t) h
      | argument p =>
        refine ⟨gs, p, [], rfl, hgs, ?_⟩
        by_cases hempty : p.name = []
        · exact .inl hempty
        · by_cases hnew : p.name ∈ names ⟨gs⟩
          · exact .inr ⟨hempty, hnew⟩
          · exact absurd (named_append_argument hgs hempty hnew) h
    · obtain ⟨before, p, after, hsplit, hbefore, hbad⟩ := ih hgs
      refine ⟨before, p, after ++ [g], ?_, hbefore, hbad⟩
      rw [hsplit, List.append_assoc, List.cons_append]

theorem read_of_spells (h : d.Spells s) :
    read s = match firstBadName [] (placeholders ⟨arrange [] 0 d.segments⟩) with
      | some e => .error e
      | none => .ok ⟨arrange [] 0 d.segments⟩ := by
  have hread : readSegments (.literal []) 0 d.text = _ := readSegments_text h.allowed
  rw [read, ← h.text_eq, hread]
  rfl

theorem read_of_named (h : d.Spells s) (hnamed : d.Named) :
    read s = .ok ⟨arrange [] 0 d.segments⟩ := by
  rw [read_of_spells h, firstBadName_nil_eq_none_iff.2 (hnamed.arrange [] 0)]

theorem spells_of_read (h : read s = .ok t) : t.Spells s ∧ t.Named := by
  unfold read at h
  split at h
  · cases h
  · next gs hgs =>
    split at h
    · cases h
    · next hnone =>
      cases h
      exact ⟨spells_of_readSegments hgs Reading.sound_start, firstBadName_nil_eq_none_iff.1 hnone⟩

/-- The error is about the first argument that has no name of its own, at its opening brace. -/
theorem read_of_not_named {before after : List Segment} (h : d.Spells s)
    (hsplit : d.segments = before ++ .argument p :: after) (hbefore : Named ⟨before⟩) :
    (p.name = [] → read s = .error (.emptyName (text ⟨before⟩).length)) ∧
      (p.name ≠ [] → p.name ∈ names ⟨before⟩ →
        read s = .error (.repeatedName p.name (text ⟨before⟩).length)) := by
  have hread := read_of_spells h
  rw [hsplit, arrange_append_argument, placeholders_append,
    firstBadName_append (firstBadName_nil_eq_none_iff.2 (hbefore.arrange [] 0))] at hread
  have hearlier : ((placeholders ⟨arrange [] 0 before⟩).map (·.name)).reverse ++ [] =
      (names ⟨before⟩).reverse := by
    rw [List.append_nil, ← names_arrange [] 0 before]
    rfl
  rw [hearlier] at hread
  simp only [placeholders, Segment.filterMap_placeholder?_argument, firstBadName, Nat.zero_add,
    List.mem_reverse] at hread
  constructor
  · intro hempty
    rw [hread, if_pos hempty]
  · intro hnonempty hmem
    rw [hread, if_neg hnonempty, if_pos hmem]

/-- A text is read if it is made of literals and arguments that have names of their own; the
arguments are the same however it is taken apart. If only names are missing or taken, the error is
about the first one that is. Any other text is malformed. -/
theorem read_grammar (s : Text) :
    ((∃ t, read s = .ok t) ↔ ∃ d : Template, d.Spells s ∧ d.Named) ∧
      (∀ t d : Template, read s = .ok t → d.Spells s → t.arguments = d.arguments) ∧
      (∀ d e : Template, d.Spells s → e.Spells s → d.arguments = e.arguments) ∧
      (∀ d : Template, d.Spells s → ¬d.Named → ∃ before p after,
        d.segments = before ++ .argument p :: after ∧ Named ⟨before⟩ ∧
          (p.name = [] ∧ read s = .error (.emptyName (text ⟨before⟩).length) ∨
            p.name ≠ [] ∧ p.name ∈ names ⟨before⟩ ∧
              read s = .error (.repeatedName p.name (text ⟨before⟩).length))) ∧
      ((¬∃ d : Template, d.Spells s) → ∃ n, read s = .error (.malformed n)) := by
  refine ⟨⟨?_, ?_⟩, ?_, ?_, ?_, ?_⟩
  · intro ⟨t, ht⟩
    exact ⟨t, spells_of_read ht⟩
  · intro ⟨d, hspells, hnamed⟩
    exact ⟨_, read_of_named hspells hnamed⟩
  · intro t d ht hd
    exact arguments_eq_of_spells (spells_of_read ht).1 hd
  · intro d e hd he
    exact arguments_eq_of_spells hd he
  · intro d hd hnamed
    obtain ⟨before, p, after, hsplit, hbefore, hbad⟩ := exists_of_not_named hnamed
    obtain ⟨hempty, hrepeated⟩ := read_of_not_named hd hsplit hbefore
    refine ⟨before, p, after, hsplit, hbefore, ?_⟩
    cases hbad with
    | inl hname => exact .inl ⟨hname, hempty hname⟩
    | inr hname => exact .inr ⟨hname.1, hname.2, hrepeated hname.1 hname.2⟩
  · intro hnone
    obtain ⟨gs, hgs⟩ | ⟨n, hn⟩ := readSegments_eq_or (.literal []) 0 s
    · exact absurd ⟨_, spells_of_readSegments hgs Reading.sound_start⟩ hnone
    · refine ⟨n, ?_⟩
      rw [read, hn]

example : read ['a', '{', 'b', '}', '{', '}', '{', 'b', '}'] = .error (.emptyName 4) := rfl

end Template

end PathTemplates
