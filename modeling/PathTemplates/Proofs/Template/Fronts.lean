import PathTemplates.Proofs.Template.Cutting
import PathTemplates.Proofs.Template.Edits

namespace PathTemplates

namespace Template

variable {s t : Template} {gs hs us : List Segment} {front : Text} {value : Text → Option Text}

/-- Names are made of name characters, and of the literals only one at the start may have braces. -/
structure Fronted (t : Template) : Prop where
  names : ∀ n ∈ t.names, ∀ c ∈ n, isNameChar c = true
  literals : ∀ text, .literal text ∈ t.segments.tail → '{' ∉ text ∧ '}' ∉ text

/-- Every brace that a pattern opens is closed by the pattern again, and no other is closed. -/
def PatternsBalanced (t : Template) : Prop :=
  ∀ p ∈ t.placeholders, ∀ text, p.pattern = some text → Balanced text

def BraceFree (t : Template) : Prop :=
  ∀ text, .literal text ∈ t.segments → '{' ∉ text ∧ '}' ∉ text

theorem allowed_of_fronted (h : t.Fronted) (hpatterns : t.PatternsBalanced)
    (hsub : ∀ g ∈ gs, g ∈ t.segments)
    (hliterals : ∀ text, .literal text ∈ gs → '{' ∉ text ∧ '}' ∉ text) :
    ∀ g ∈ gs, g.Allowed := by
  intro g hg
  cases g with
  | literal text => exact hliterals text hg
  | argument p =>
    have hp : p ∈ t.placeholders := List.mem_filterMap.2 ⟨_, hsub _ hg, rfl⟩
    exact ⟨h.names _ (List.mem_map_of_mem hp), hpatterns p hp⟩

theorem fronted_of_read {text : Text} (h : read text = .ok t) : t.Fronted := by
  have hallowed := (spells_of_read h).1.allowed
  refine ⟨List.forall_mem_map.2 fun p hp => ?_, fun text htext => ?_⟩
  · obtain hp : p.Allowed := hallowed _ (mem_segments_of_mem_placeholders hp)
    exact hp.name
  · exact hallowed _ (List.mem_of_mem_tail htext)

theorem Fronted.setPattern (h : t.Fronted) (name : Text) (pattern : Option Text) :
    (t.setPattern name pattern).Fronted := by
  refine ⟨by rw [names_setPattern]; exact h.names, fun text htext => h.literals text ?_⟩
  obtain ⟨gs⟩ := t
  cases gs with
  | nil => exact htext
  | cons g gs =>
    cases g with
    | literal t => exact literal_mem_setPatternIn.1 htext
    | argument p =>
      rw [Template.setPattern, setPatternIn] at htext
      split at htext
      · exact htext
      · exact literal_mem_setPatternIn.1 htext

theorem Fronted.prepend (h : t.Fronted) (front : Text) : (t.prepend front).Fronted := by
  refine ⟨by rw [names_prepend]; exact h.names, fun text htext => h.literals text ?_⟩
  obtain ⟨first, rest, hsegments, hprepend⟩ | ⟨hhead, hprepend⟩ := prepend_eq front t
  · rw [hprepend] at htext
    rw [hsegments]
    exact literal_mem_map_shift.1 htext
  · rw [hprepend] at htext
    have hmem : .literal text ∈ t.segments := literal_mem_map_shift.1 htext
    obtain ⟨gs⟩ := t
    cases gs with
    | nil => exact hmem
    | cons g gs =>
      obtain rfl | hmem := List.mem_cons.1 hmem
      · exact absurd trivial (hhead _ rfl)
      · exact hmem

theorem render_arrange (seen : Text) (n : Nat) (gs : List Segment) (value : Text → Option Text) :
    render ⟨arrange seen n gs⟩ value = seen ++ render ⟨gs⟩ value := by
  have hseen (seen : Text) (hs : List Segment) :
      render ⟨literalSegment seen ++ hs⟩ value = seen ++ render ⟨hs⟩ value := by
    cases seen <;> rfl
  induction gs generalizing seen n with
  | nil =>
    rw [arrange, ← List.append_nil (literalSegment seen), hseen]
  | cons g gs ih =>
    cases g with
    | literal t => rw [arrange, ih, List.append_assoc]; rfl
    | argument p =>
      rw [arrange, hseen]
      refine congrArg (seen ++ ·) ?_
      show _ ++ render ⟨arrange [] _ gs⟩ value = _ ++ render ⟨gs⟩ value
      rw [ih]
      rfl

/-- Without arguments there is only literal text. -/
theorem arrange_append_of_names_eq_nil (h : names ⟨us⟩ = []) (seen : Text) (n : Nat)
    (hs : List Segment) :
    arrange seen n (us ++ hs) = arrange (seen ++ text ⟨us⟩) (n + (text ⟨us⟩).length) hs := by
  induction us generalizing seen n with
  | nil => rw [show text ⟨[]⟩ = [] from rfl, List.append_nil]; rfl
  | cons g us ih =>
    cases g with
    | literal t =>
      rw [List.cons_append, arrange, ih h, text_cons, List.append_assoc, List.length_append,
        ← Nat.add_assoc]
      rfl
    | argument p => cases h

theorem render_eq_text (h : ∀ a ∈ arguments ⟨gs⟩, value a.1 = none) :
    render ⟨gs⟩ value = text ⟨gs⟩ := by
  induction gs with
  | nil => rfl
  | cons g gs ih =>
    cases g with
    | literal t => exact congrArg (t ++ ·) (ih h)
    | argument p =>
      obtain ⟨hp, hgs⟩ := List.forall_mem_cons.1
        (show ∀ a ∈ (p.name, p.pattern) :: arguments ⟨gs⟩, value a.1 = none from h)
      rw [text_cons, ← ih hgs]
      exact congrArg (· ++ render ⟨gs⟩ value) (congrArg (Option.getD · p.text) hp)

theorem exists_front (h : t.Fronted) (hpatterns : t.PatternsBalanced) : ∃ front gs,
    arrange [] 0 t.segments = arrange front front.length gs ∧ t.text = front ++ text ⟨gs⟩ ∧
      ∀ g ∈ gs, g.Allowed := by
  obtain ⟨gs⟩ := t
  cases gs with
  | nil => exact ⟨[], [], rfl, rfl, nofun⟩
  | cons g gs =>
    cases g with
    | literal first =>
      refine ⟨first, gs, ?_, rfl, allowed_of_fronted h hpatterns ?_ h.literals⟩
      · rw [arrange, List.nil_append, Nat.zero_add]
      · exact fun g hg => List.mem_cons_of_mem _ hg
    | argument p =>
      refine ⟨[], .argument p :: gs, rfl, rfl, allowed_of_fronted h hpatterns (fun g hg => hg) ?_⟩
      intro text htext
      obtain htext | htext := List.mem_cons.1 htext
      · cases htext
      · exact h.literals text htext

/-- The first template has some arguments more at its start. They are literal text of the other one;
but for that the templates are the same, up to borders of literals and places of arguments. -/
structure Exceeds (t s : Template) (extra : List (Text × Option Text)) : Prop where
  arguments : t.arguments = extra ++ s.arguments
  render : ∀ value, (∀ a ∈ extra, value a.1 = none) → t.render value = s.render value
  arranged : extra = [] → arrange [] 0 t.segments = arrange [] 0 s.segments

theorem exists_exceeds_of_fronts {w : Text} (hgs : ∀ g ∈ gs, g.Allowed) (hhs : ∀ g ∈ hs, g.Allowed)
    (ht : arrange [] 0 t.segments = arrange front front.length gs)
    (hs' : arrange [] 0 s.segments = arrange (front ++ w) (front ++ w).length hs)
    (h : text ⟨gs⟩ = w ++ text ⟨hs⟩) : ∃ extra, Exceeds t s extra := by
  obtain ⟨us, hus⟩ := exists_spells_of_append hgs hhs h
  have hsplit : arrange front front.length gs = arrange front front.length (us ++ hs) := by
    refine arrange_eq_of_text_eq hgs (List.forall_mem_append.2 ⟨hus.allowed, hhs⟩) ?_ _ _
    rw [h, text_append, hus.text_eq]
  rw [hsplit] at ht
  refine ⟨Template.arguments ⟨us⟩, ?_, fun value hvalue => ?_, fun hextra => ?_⟩
  · rw [← arguments_arrange [] 0 t.segments, ht, ← arguments_arrange [] 0 s.segments, hs',
      arguments_arrange, arguments_arrange, Template.arguments, placeholders_append,
      List.map_append]
    rfl
  · have hrender (t : Template) :
        t.render value = Template.render ⟨arrange [] 0 t.segments⟩ value :=
      (render_arrange [] 0 t.segments value).symm
    have happend : Template.render ⟨us ++ hs⟩ value =
        Template.render ⟨us⟩ value ++ Template.render ⟨hs⟩ value := List.flatMap_append
    rw [hrender t, hrender s, ht, hs', render_arrange, render_arrange, happend,
      render_eq_text hvalue, hus.text_eq, List.append_assoc]
  · have hnames : Template.names ⟨us⟩ = [] := by
      rw [names_eq_map_arguments, hextra]
      rfl
    rw [ht, hs', arrange_append_of_names_eq_nil hnames, hus.text_eq, List.length_append]

/-- Two templates with one text are the same, but for folders that look like arguments. -/
theorem exists_exceeds (ht : t.Fronted) (hs : s.Fronted) (htp : t.PatternsBalanced)
    (hsp : s.PatternsBalanced) (h : t.text = s.text) :
    ∃ extra, Exceeds t s extra ∨ Exceeds s t extra := by
  obtain ⟨front, gs, htarrange, httext, hgs⟩ := exists_front ht htp
  obtain ⟨front', hs, hsarrange, hstext, hhs⟩ := exists_front hs hsp
  rw [httext, hstext] at h
  -- The template with the shorter front has the other one's surplus `w` as arguments and literals.
  obtain ⟨w, rfl, hw⟩ | ⟨w, rfl, hw⟩ := List.append_eq_append_iff.1 h
  · obtain ⟨extra, hextra⟩ := exists_exceeds_of_fronts hgs hhs htarrange hsarrange hw
    exact ⟨extra, .inl hextra⟩
  · obtain ⟨extra, hextra⟩ := exists_exceeds_of_fronts hhs hgs hsarrange htarrange hw
    exact ⟨extra, .inr hextra⟩

end Template

end PathTemplates
