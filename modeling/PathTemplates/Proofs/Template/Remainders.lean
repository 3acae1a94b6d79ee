import PathTemplates.Proofs.Template.Edits
import PathTemplates.Proofs.Template.Rendering

namespace PathTemplates

namespace Segment

/-- The segment is an argument without a value. -/
def isOpen (value : Text → Option Text) : Segment → Bool
  | literal _ => false
  | argument p => (value p.name).isNone

def literal? : Segment → Option Text
  | literal t => some t
  | argument _ => none

end Segment

namespace Template

variable {s : Text} {t r : Template} {p : Placeholder} {gs : List Segment}
  {value : Text → Option Text}

def literals (t : Template) : List Text := t.segments.filterMap Segment.literal?

/-- What is written in front of the first open argument, between any two that follow each other and
behind the last one. -/
def runs (value : Text → Option Text) (t : Template) : List Text :=
  (t.segments.splitOnP (Segment.isOpen value)).map fun run => run.flatMap (Segment.render value)

theorem runs_of_open {g : Segment} (h : g.isOpen value = true) :
    runs value ⟨g :: gs⟩ = [] :: runs value ⟨gs⟩ := by
  rw [runs, List.splitOnP_cons_eq_if_modifyHead, if_pos h]
  rfl

theorem runs_of_closed {g : Segment} (h : g.isOpen value = false) :
    runs value ⟨g :: gs⟩ = (runs value ⟨gs⟩).modifyHead (g.render value ++ ·) := by
  rw [runs, List.splitOnP_cons_eq_if_modifyHead, if_neg (by simp [h]), runs]
  cases List.splitOnP (Segment.isOpen value) gs <;> rfl

theorem isOpen_fix (value : Text → Option Text) (g : Segment) :
    (g.fix value).isOpen (fun _ => none) = g.isOpen value := by
  cases g with
  | literal t => rfl
  | argument p =>
    cases hv : value p.name with
    | none => simp [Segment.fix, Segment.isOpen, hv]
    | some v => simp [Segment.fix, Segment.isOpen, hv]

/-- It makes no difference to the runs whether values are written for arguments or stand there as
literals. -/
theorem runs_map_fix (value : Text → Option Text) (gs : List Segment) :
    runs (fun _ => none) ⟨gs.map (Segment.fix value)⟩ = runs value ⟨gs⟩ := by
  induction gs with
  | nil => rfl
  | cons g gs ih =>
    rw [List.map_cons]
    have hfix := isOpen_fix value g
    cases hg : g.isOpen value with
    | true => rw [runs_of_open hg, runs_of_open (hfix.trans hg), ih]
    | false =>
      rw [runs_of_closed hg, runs_of_closed (hfix.trans hg), ih, Segment.render_fix]

theorem modifyHead_nil_append (ts : List Text) : ts.modifyHead ([] ++ ·) = ts := by
  cases ts <;> rfl

theorem runs_literalSegment (seen : Text) (gs : List Segment) :
    runs (fun _ => none) ⟨literalSegment seen ++ gs⟩ =
      (runs (fun _ => none) ⟨gs⟩).modifyHead (seen ++ ·) := by
  cases seen with
  | nil => exact (modifyHead_nil_append _).symm
  | cons c seen => exact runs_of_closed rfl

theorem literals_literalSegment (seen : Text) (gs : List Segment) :
    literals ⟨literalSegment seen ++ gs⟩ = [seen].filter (fun t => t ≠ []) ++ literals ⟨gs⟩ := by
  cases seen <;> rfl

/-- Arranging segments leaves the runs as they are. -/
theorem runs_arrange (seen : Text) (n : Nat) (gs : List Segment) :
    runs (fun _ => none) ⟨arrange seen n gs⟩ =
      (runs (fun _ => none) ⟨gs⟩).modifyHead (seen ++ ·) := by
  induction gs generalizing seen n with
  | nil =>
    have hseen := runs_literalSegment seen []
    rwa [List.append_nil] at hseen
  | cons g gs ih =>
    cases g with
    | literal t =>
      rw [arrange, ih, runs_of_closed (g := .literal t) rfl, List.modifyHead_modifyHead]
      exact congrArg (List.modifyHead · _) (funext fun run => List.append_assoc ..)
    | argument p =>
      rw [arrange, runs_literalSegment, runs_of_open (g := .argument _) rfl, ih,
        modifyHead_nil_append, runs_of_open (g := .argument p) rfl]

/-- The literals that are read are the runs in which something is written. -/
theorem literals_arrange (seen : Text) (n : Nat) (gs : List Segment) :
    literals ⟨arrange seen n gs⟩ =
      ((runs (fun _ => none) ⟨gs⟩).modifyHead (seen ++ ·)).filter fun t => t ≠ [] := by
  induction gs generalizing seen n with
  | nil =>
    have hseen := literals_literalSegment seen []
    rw [List.append_nil] at hseen
    rw [arrange, hseen, runs, List.splitOnP_nil]
    simp [literals]
  | cons g gs ih =>
    cases g with
    | literal t =>
      rw [arrange, ih, runs_of_closed (g := .literal t) rfl, List.modifyHead_modifyHead]
      exact congrArg (fun f => List.filter _ (List.modifyHead f _))
        (funext fun run => List.append_assoc ..)
    | argument p =>
      have hrest := ih [] (n + p.text.length)
      rw [modifyHead_nil_append] at hrest
      rw [arrange, literals_literalSegment, runs_of_open (g := .argument p) rfl,
        List.modifyHead_cons, List.append_nil]
      exact (congrArg (_ ++ ·) hrest).trans (List.filter_append ..).symm

theorem runs_fix (value : Text → Option Text) (t : Template) :
    (t.fix value).runs (fun _ => none) = t.runs value := by
  rw [fix, runs_arrange, modifyHead_nil_append, runs_map_fix]

theorem literals_fix (value : Text → Option Text) (t : Template) :
    (t.fix value).literals = (t.runs value).filter fun t => t ≠ [] := by
  rw [fix, literals_arrange, modifyHead_nil_append, runs_map_fix]

/-- An open argument stands behind what has been written in front of it. -/
theorem placeholder?_fix {before after : List Segment} (h : t.Named)
    (hsegments : t.segments = before ++ .argument p :: after) (hopen : value p.name = none) :
    (t.fix value).placeholder? p.name = some { p with span :=
      ⟨(render ⟨before⟩ value).length, (render ⟨before⟩ value).length + p.text.length⟩ } := by
  have hsegments' : t.segments.map (Segment.fix value) =
      before.map (Segment.fix value) ++ .argument p :: after.map (Segment.fix value) := by
    rw [hsegments, List.map_append, List.map_cons, Segment.fix, hopen]
  have hmem : .argument { p with
      span := ⟨(render ⟨before⟩ value).length, (render ⟨before⟩ value).length + p.text.length⟩ } ∈
        (t.fix value).segments := by
    rw [fix, hsegments', arrange_append_argument, text_map_fix, Nat.zero_add]
    exact List.mem_append_right _ (List.mem_cons_self ..)
  have hnodup : (t.fix value).names.Nodup := ((named_map_fix h value).arrange [] 0).distinct
  exact placeholder?_of_mem hnodup (List.mem_filterMap.2 ⟨_, hmem, rfl⟩)

/-- A template that has been read is written with values for some of its arguments, none of which
has a brace. What is read from that text has just the other arguments, with their patterns, each at
its place in the text. Its literals are the runs of literals and values in front of, between and
behind them; runs in which nothing is written are left out. -/
theorem read_render_remainder (reads : read s = .ok t)
    (hvalue : ∀ n v, value n = some v → '{' ∉ v ∧ '}' ∉ v) :
    ∃ r, read (t.render value) = .ok r ∧
      r.arguments = t.arguments.filter (fun a => (value a.1).isNone) ∧
      r.runs (fun _ => none) = t.runs value ∧
      r.literals = (t.runs value).filter (fun run => run ≠ []) ∧
      ∀ before p after, t.segments = before ++ .argument p :: after → value p.name = none →
        r.placeholder? p.name = some { p with span :=
          ⟨(render ⟨before⟩ value).length, (render ⟨before⟩ value).length + p.text.length⟩ } := by
  have h := wellFormed_of_read reads
  exact ⟨t.fix value, read_render h.allowed h.named hvalue, arguments_fix value t, runs_fix value t,
    literals_fix value t, fun _ _ _ => placeholder?_fix h.named⟩

/-- The template `{a}/{b:s*}{c}` with `t:/` for `a` and nothing for `c`. -/
theorem read_render_remainder_sample : ∃ (t r : Template) (value : Text → Option Text),
    read ['{', 'a', '}', '/', '{', 'b', ':', 's', '*', '}', '{', 'c', '}'] = .ok t ∧
    (∀ n v, value n = some v → '{' ∉ v ∧ '}' ∉ v) ∧
    t.render value = ['t', ':', '/', '/', '{', 'b', ':', 's', '*', '}'] ∧
    read (t.render value) = .ok r ∧ r.literals = [['t', ':', '/', '/']] ∧
    r.placeholder? ['b'] = some ⟨['b'], some ['s', '*'], ⟨4, 10⟩⟩ := by
  let value : Text → Option Text := Assignment.get? [⟨['a'], ['t', ':', '/']⟩, ⟨['c'], []⟩]
  obtain ⟨t, reads, hsegments⟩ : ∃ t,
      read ['{', 'a', '}', '/', '{', 'b', ':', 's', '*', '}', '{', 'c', '}'] = .ok t ∧
      t.segments = [.argument ⟨['a'], none, ⟨0, 3⟩⟩, .literal ['/'],
        .argument ⟨['b'], some ['s', '*'], ⟨4, 10⟩⟩, .argument ⟨['c'], none, ⟨10, 13⟩⟩] :=
    ⟨_, rfl, rfl⟩
  have hvalue : ∀ n v, value n = some v → '{' ∉ v ∧ '}' ∉ v := by
    intro n v hv
    obtain ⟨b, hb, rfl⟩ := Option.map_eq_some_iff.1 hv
    have hall : ∀ b ∈ ([⟨['a'], ['t', ':', '/']⟩, ⟨['c'], []⟩] : Assignment),
        '{' ∉ b.value ∧ '}' ∉ b.value := by decide
    exact hall b (List.mem_of_find?_eq_some hb)
  have hruns : t.runs value = [['t', ':', '/', '/'], []] := by
    rw [runs, hsegments]; rfl
  obtain ⟨r, hr, -, -, hliterals, hplace⟩ := read_render_remainder reads hvalue
  refine ⟨t, r, value, reads, hvalue, ?_, hr, ?_, ?_⟩
  · rw [render, hsegments]; rfl
  · rw [hliterals, hruns]; rfl
  · exact hplace [.argument ⟨['a'], none, ⟨0, 3⟩⟩, .literal ['/']] ⟨['b'], some ['s', '*'], ⟨4, 10⟩⟩
      [.argument ⟨['c'], none, ⟨10, 13⟩⟩] hsegments rfl

end Template

end PathTemplates
