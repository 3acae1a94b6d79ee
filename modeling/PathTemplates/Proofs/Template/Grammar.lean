import PathTemplates.Template.Reader
import PathTemplates.Proofs.Outcome

namespace PathTemplates

/-- Every brace that is opened is closed again, and no other is closed. -/
inductive Balanced : Text → Prop
  | nil : Balanced []
  | char {c : Char} {rest : Text} :
      c ≠ '{' → c ≠ '}' → Balanced rest → Balanced (c :: rest)
  | group {inner rest : Text} :
      Balanced inner → Balanced rest → Balanced ('{' :: inner ++ '}' :: rest)

/-- Text that leaves some braces open. -/
inductive Unclosed : Nat → Text → Prop
  | zero {p : Text} : Balanced p → Unclosed 0 p
  | succ {depth : Nat} {p q : Text} :
      Unclosed depth p → Balanced q → Unclosed (depth + 1) (p ++ '{' :: q)

theorem Balanced.append {p q : Text} (hp : Balanced p) (hq : Balanced q) : Balanced (p ++ q) := by
  induction hp with
  | nil => exact hq
  | char hopen hclose _ ih => exact .char hopen hclose ih
  | @group inner rest hinner _ _ ih =>
    have hgroup := Balanced.group hinner ih
    simpa only [List.cons_append, List.append_assoc] using hgroup

theorem Balanced.single {c : Char} (hopen : c ≠ '{') (hclose : c ≠ '}') : Balanced [c] :=
  .char hopen hclose .nil

namespace Unclosed

variable {depth : Nat} {p q : Text}

theorem append (hp : Unclosed depth p) (hq : Balanced q) : Unclosed depth (p ++ q) := by
  cases hp with
  | zero hp => exact .zero (hp.append hq)
  | succ hp hr =>
    rw [List.append_assoc, List.cons_append]
    exact .succ hp (hr.append hq)

theorem opened (hp : Unclosed depth p) : Unclosed (depth + 1) (p ++ ['{']) := .succ hp .nil

theorem closed (hp : Unclosed (depth + 1) p) : Unclosed depth (p ++ ['}']) := by
  cases hp with
  | succ hp hr =>
    have hgroup := hp.append (Balanced.group hr .nil)
    simpa only [List.append_assoc, List.cons_append] using hgroup

theorem balanced (hp : Unclosed 0 p) : Balanced p := by
  cases hp with
  | zero hp => exact hp

end Unclosed

/-- The name is made of name characters, and braces balance in the pattern. -/
structure Placeholder.Allowed (p : Placeholder) : Prop where
  name : ∀ c ∈ p.name, isNameChar c = true
  pattern : ∀ t, p.pattern = some t → Balanced t

def Segment.Allowed : Segment → Prop
  | .literal t => '{' ∉ t ∧ '}' ∉ t
  | .argument p => p.Allowed

namespace Template

/-- The text is made of these segments, whatever their names and places are. -/
structure Spells (t : Template) (s : Text) : Prop where
  allowed : ∀ g ∈ t.segments, g.Allowed
  text_eq : t.text = s

/-- Every argument has a name of its own. -/
structure Named (t : Template) : Prop where
  nonempty : ∀ n ∈ t.names, n ≠ []
  distinct : t.names.Nodup

/-- What the arguments are called and how they are constrained. -/
def arguments (t : Template) : List (Text × Option Text) :=
  t.placeholders.map fun p => (p.name, p.pattern)

/-- The segments as they are read after some literal text: literals grow together, and arguments
remember where they stand. -/
def arrange (seen : Text) (position : Nat) : List Segment → List Segment
  | [] => literalSegment seen
  | .literal t :: rest => arrange (seen ++ t) (position + t.length) rest
  | .argument p :: rest =>
    literalSegment seen ++
      .argument { p with span := ⟨position, position + p.text.length⟩ } ::
        arrange [] (position + p.text.length) rest

variable {s t : Text} {p : Placeholder} {gs : List Segment}

theorem text_cons (g : Segment) (gs : List Segment) :
    text ⟨g :: gs⟩ = g.render (fun _ => none) ++ text ⟨gs⟩ := rfl

theorem add_length_text_cons (n : Nat) (g : Segment) (gs : List Segment) :
    n + (text ⟨g :: gs⟩).length = n + (g.render fun _ => none).length + (text ⟨gs⟩).length := by
  rw [text_cons, List.length_append, Nat.add_assoc]

theorem text_append (gs hs : List Segment) : text ⟨gs ++ hs⟩ = text ⟨gs⟩ ++ text ⟨hs⟩ :=
  List.flatMap_append

theorem text_literalSegment (t : Text) : text ⟨literalSegment t⟩ = t := by
  cases t with
  | nil => rfl
  | cons c t => exact List.append_nil _

theorem Spells.literal (h : Spells ⟨gs⟩ s) (hopen : '{' ∉ t) (hclose : '}' ∉ t) :
    Spells ⟨literalSegment t ++ gs⟩ (t ++ s) := by
  refine ⟨fun g hg => ?_, by rw [text_append, text_literalSegment, h.text_eq]⟩
  obtain hg | hg := List.mem_append.1 hg
  · cases t with
    | nil => cases hg
    | cons c t =>
      cases List.mem_singleton.1 hg
      exact ⟨hopen, hclose⟩
  · exact h.allowed g hg

theorem Spells.argument (h : Spells ⟨gs⟩ s) (hp : p.Allowed) :
    Spells ⟨.argument p :: gs⟩ (p.text ++ s) :=
  ⟨List.forall_mem_cons.2 ⟨hp, h.allowed⟩, congrArg (p.text ++ ·) h.text_eq⟩

namespace Reading

/-- The text from the start of what is being read. -/
def opening : Reading → Text
  | literal seen => seen
  | name _ seen => '{' :: seen
  | pattern _ label seen _ => '{' :: label ++ ':' :: seen

/-- What has been seen can be the start of what is being read. -/
def Sound : Reading → Prop
  | literal seen => '{' ∉ seen ∧ '}' ∉ seen
  | name _ seen => ∀ c ∈ seen, isNameChar c = true
  | pattern _ label seen depth => (∀ c ∈ label, isNameChar c = true) ∧ Unclosed depth seen

theorem sound_start : (literal []).Sound := ⟨nofun, nofun⟩

end Reading

/-- What is read is of the grammar, and spells what has been seen with the rest of the text. -/
theorem spells_of_readSegments {r : Reading} {n : Nat} (h : readSegments r n s = .ok gs)
    (hr : r.Sound) : Spells ⟨gs⟩ (r.opening ++ s) := by
  fun_induction readSegments r n s generalizing gs with
  | case1 seen _ =>
    cases h
    have hspells := (Spells.mk (t := ⟨[]⟩) nofun rfl).literal hr.1 hr.2
    rwa [List.append_nil] at hspells
  | case2 => cases h
  | case3 => cases h
  | case4 seen n rest ih =>
    obtain ⟨gs, hrest, rfl⟩ := exists_of_map_eq_ok h
    exact (ih hrest nofun).literal hr.1 hr.2
  | case5 => cases h
  | case6 seen n c rest hopen hclose ih =>
    have hspells := ih h ⟨by simpa [hr.1] using Ne.symm hopen, by simpa [hr.2] using Ne.symm hclose⟩
    simpa only [Reading.opening, List.append_assoc, List.cons_append, List.nil_append] using hspells
  | case7 start seen n rest ih =>
    obtain ⟨gs, hrest, rfl⟩ := exists_of_map_eq_ok h
    have hspells := (ih hrest Reading.sound_start).argument
      (p := ⟨seen, none, ⟨start, n + 1⟩⟩) ⟨hr, nofun⟩
    simpa only [Reading.opening, Placeholder.text, List.append_assoc, List.cons_append,
      List.nil_append] using hspells
  | case8 start seen n rest _ ih =>
    have hspells := ih h ⟨hr, .zero .nil⟩
    simpa only [Reading.opening, List.append_assoc, List.cons_append, List.nil_append] using hspells
  | case9 start seen n c rest _ _ hc ih =>
    have hspells := ih h (List.forall_mem_append.2 ⟨hr, List.forall_mem_singleton.2 hc⟩)
    simpa only [Reading.opening, List.append_assoc, List.cons_append, List.nil_append] using hspells
  | case10 => cases h
  | case11 start label seen depth n rest ih =>
    have hspells := ih h ⟨hr.1, hr.2.opened⟩
    simpa only [Reading.opening, List.append_assoc, List.cons_append, List.nil_append] using hspells
  | case12 start label seen n rest _ ih =>
    obtain ⟨gs, hrest, rfl⟩ := exists_of_map_eq_ok h
    have hspells := (ih hrest Reading.sound_start).argument
      (p := ⟨label, some seen, ⟨start, n + 1⟩⟩)
      ⟨hr.1, fun t ht => Option.some.inj ht ▸ hr.2.balanced⟩
    simpa only [Reading.opening, Placeholder.text, List.append_assoc, List.cons_append,
      List.nil_append] using hspells
  | case13 start label seen n rest depth _ ih =>
    have hspells := ih h ⟨hr.1, hr.2.closed⟩
    simpa only [Reading.opening, List.append_assoc, List.cons_append, List.nil_append] using hspells
  | case14 start label seen depth n c rest hopen hclose ih =>
    have hspells := ih h ⟨hr.1, hr.2.append (.single hopen hclose)⟩
    simpa only [Reading.opening, List.append_assoc, List.cons_append, List.nil_append] using hspells

/-- The reading of segments fails for no other reason than that the text is malformed. -/
theorem readSegments_eq_or (r : Reading) (n : Nat) (s : Text) :
    (∃ gs, readSegments r n s = .ok gs) ∨ ∃ k, readSegments r n s = .error (.malformed k) := by
  fun_induction readSegments r n s with
  | case1 seen => exact .inl ⟨_, rfl⟩
  | case2 | case3 | case5 | case10 => exact .inr ⟨_, rfl⟩
  | case4 _ _ _ ih | case7 _ _ _ _ ih | case12 _ _ _ _ _ _ ih =>
    obtain ⟨gs, hrest⟩ | ⟨k, hrest⟩ := ih
    · exact .inl ⟨_, by rw [hrest]; rfl⟩
    · exact .inr ⟨k, by rw [hrest]; rfl⟩
  | case6 _ _ _ _ _ _ ih | case8 _ _ _ _ _ ih | case9 _ _ _ _ _ _ _ _ ih | case11 _ _ _ _ _ _ ih
  | case13 _ _ _ _ _ _ _ ih | case14 _ _ _ _ _ _ _ _ _ ih => exact ih

section

variable {rest seen label : Text} {start depth n : Nat}

theorem readSegments_literal (hopen : '{' ∉ t) (hclose : '}' ∉ t) :
    readSegments (.literal seen) n (t ++ rest) =
      readSegments (.literal (seen ++ t)) (n + t.length) rest := by
  induction t generalizing seen n with
  | nil => simp
  | cons c t ih =>
    rw [List.mem_cons, not_or] at hopen hclose
    rw [List.cons_append, readSegments, if_neg (Ne.symm hopen.1), if_neg (Ne.symm hclose.1),
      ih hopen.2 hclose.2, List.append_assoc, List.length_cons, Nat.add_assoc, Nat.add_comm 1]
    rfl

theorem ne_of_isNameChar {c : Char} (hc : isNameChar c = true) : c ≠ '}' ∧ c ≠ ':' := by
  constructor
  · intro h
    subst h
    cases hc
  · intro h
    subst h
    cases hc

theorem readSegments_name (hlabel : ∀ c ∈ label, isNameChar c = true) :
    readSegments (.name start seen) n (label ++ rest) =
      readSegments (.name start (seen ++ label)) (n + label.length) rest := by
  induction label generalizing seen n with
  | nil => simp
  | cons c label ih =>
    obtain ⟨hc, hlabel⟩ := List.forall_mem_cons.1 hlabel
    obtain ⟨hclose, hcolon⟩ := ne_of_isNameChar hc
    rw [List.cons_append, readSegments, if_neg hclose, if_neg hcolon, if_pos hc, ih hlabel,
      List.append_assoc, List.length_cons, Nat.add_assoc, Nat.add_comm 1]
    rfl

theorem readSegments_char {c : Char} (hopen : c ≠ '{') (hclose : c ≠ '}') :
    readSegments (.pattern start label seen depth) n (c :: rest) =
      readSegments (.pattern start label (seen ++ [c]) depth) (n + 1) rest :=
  (if_neg hopen).trans (if_neg hclose)

theorem readSegments_open :
    readSegments (.pattern start label seen depth) n ('{' :: rest) =
      readSegments (.pattern start label (seen ++ ['{']) (depth + 1)) (n + 1) rest :=
  if_pos rfl

theorem readSegments_close :
    readSegments (.pattern start label seen (depth + 1)) n ('}' :: rest) =
      readSegments (.pattern start label (seen ++ ['}']) depth) (n + 1) rest :=
  (if_neg (by decide)).trans (if_pos rfl)

theorem readSegments_end :
    readSegments (.pattern start label seen 0) n ('}' :: rest) =
      (readSegments (.literal []) (n + 1) rest).map
        (.argument ⟨label, some seen, ⟨start, n + 1⟩⟩ :: ·) :=
  (if_neg (by decide)).trans (if_pos rfl)

/-- Balanced text leaves the number of open braces as it is. -/
theorem readSegments_balanced (hq : Balanced t) :
    readSegments (.pattern start label seen depth) n (t ++ rest) =
      readSegments (.pattern start label (seen ++ t) depth) (n + t.length) rest := by
  induction hq generalizing seen depth n rest with
  | nil => simp
  | @char c t hopen hclose _ ih =>
    rw [List.cons_append, readSegments_char hopen hclose, ih, List.append_assoc, List.length_cons,
      Nat.add_assoc, Nat.add_comm 1]
    rfl
  | @group inner t _ _ ihinner ih =>
    have htext : '{' :: inner ++ '}' :: t ++ rest = '{' :: (inner ++ '}' :: (t ++ rest)) := by simp
    have hseen : seen ++ ['{'] ++ inner ++ ['}'] ++ t = seen ++ ('{' :: inner ++ '}' :: t) := by
      simp
    have hlength : n + 1 + inner.length + 1 + t.length = n + ('{' :: inner ++ '}' :: t).length := by
      simp only [List.length_append, List.length_cons]
      omega
    rw [htext, readSegments_open, ihinner, readSegments_close, ih, hseen, hlength]

/-- An argument is read as a whole. -/
theorem readSegments_argument (hp : p.Allowed) :
    readSegments (.literal seen) n (p.text ++ rest) =
      (readSegments (.literal []) (n + p.text.length) rest).map fun gs =>
        literalSegment seen ++ .argument { p with span := ⟨n, n + p.text.length⟩ } :: gs := by
  obtain ⟨label, pattern, span⟩ := p
  have hmap (x : Except TemplateError (List Segment)) (f g : List Segment → List Segment) :
      (x.map f).map g = x.map fun gs => g (f gs) := by cases x <;> rfl
  cases pattern with
  | none =>
    have htext : Placeholder.text ⟨label, none, span⟩ ++ rest = '{' :: (label ++ '}' :: rest) := by
      simp [Placeholder.text]
    have hlength :
        n + 1 + label.length + 1 = n + (Placeholder.text ⟨label, none, span⟩).length := by
      simp [Placeholder.text]
      omega
    rw [htext, readSegments, if_pos rfl, readSegments_name hp.name, readSegments, if_pos rfl, hmap,
      hlength, List.nil_append]
  | some q =>
    have htext : Placeholder.text ⟨label, some q, span⟩ ++ rest =
        '{' :: (label ++ ':' :: (q ++ '}' :: rest)) := by
      simp [Placeholder.text]
    have hlength : n + 1 + label.length + 1 + q.length + 1 =
        n + (Placeholder.text ⟨label, some q, span⟩).length := by
      simp [Placeholder.text]
      omega
    rw [htext, readSegments, if_pos rfl, readSegments_name hp.name, readSegments,
      if_neg (by decide), if_pos rfl, readSegments_balanced (hp.pattern q rfl), readSegments_end,
      hmap,
      hlength, List.nil_append, List.nil_append]

end

/-- Whatever is of the grammar is read, and its segments are arranged. -/
theorem readSegments_text {seen : Text} {n : Nat} (h : ∀ g ∈ gs, g.Allowed) :
    readSegments (.literal seen) n (text ⟨gs⟩) = .ok (arrange seen n gs) := by
  induction gs generalizing seen n with
  | nil => rfl
  | cons g gs ih =>
    obtain ⟨hg, hgs⟩ := List.forall_mem_cons.1 h
    rw [text_cons]
    cases g with
    | literal t =>
      rw [Segment.render, readSegments_literal hg.1 hg.2, ih hgs]
      rfl
    | argument p =>
      rw [Segment.render, Option.getD_none, readSegments_argument hg, ih hgs]
      rfl

end Template

end PathTemplates
