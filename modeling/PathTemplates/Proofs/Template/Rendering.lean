import PathTemplates.Proofs.Crumb.Shapes
import PathTemplates.Proofs.Template.Reading

namespace PathTemplates

namespace Segment

/-- The segment with the value of its argument for a literal, where there is one. -/
def fix (value : Text → Option Text) : Segment → Segment
  | literal t => literal t
  | argument p =>
    match value p.name with
    | some v => literal v
    | none => argument p

variable {value : Text → Option Text} {g : Segment}

theorem render_fix (g : Segment) : (g.fix value).render (fun _ => none) = g.render value := by
  cases g with
  | literal t => rfl
  | argument p => cases hv : value p.name <;> simp [fix, render, hv]

theorem allowed_fix (hg : g.Allowed)
    (hvalue : ∀ n v, value n = some v → '{' ∉ v ∧ '}' ∉ v) : (g.fix value).Allowed := by
  cases g with
  | literal t => exact hg
  | argument p =>
    rw [fix]
    cases hv : value p.name with
    | none => exact hg
    | some v => exact hvalue _ _ hv

theorem atoms_fix (values : NameMap Text) (g : Segment) :
    (g.fix values.get?).atoms .empty = g.atoms values := by
  cases g with
  | literal t => rfl
  | argument p => cases hv : values.get? p.name <;> simp [fix, atoms, hv, NameMap.get?_empty]

end Segment

namespace Template

variable {t : Template} {value : Text → Option Text} {f : Placeholder → Placeholder}

theorem text_map_fix (value : Text → Option Text) (t : Template) :
    text ⟨t.segments.map (Segment.fix value)⟩ = t.render value := by
  rw [text, render, List.flatMap_map]
  exact congrArg (List.flatMap · t.segments) (funext Segment.render_fix)

theorem arguments_map_fix (value : Text → Option Text) (gs : List Segment) :
    arguments ⟨gs.map (Segment.fix value)⟩ =
      (arguments ⟨gs⟩).filter fun a => (value a.1).isNone := by
  induction gs with
  | nil => rfl
  | cons g gs ih =>
    cases g with
    | literal t => exact ih
    | argument p =>
      have hcons : arguments ⟨.argument p :: gs⟩ = (p.name, p.pattern) :: arguments ⟨gs⟩ := rfl
      rw [List.map_cons, hcons, List.filter_cons, ← ih]
      cases hv : value p.name with
      | none => rw [Segment.fix, hv]; rfl
      | some v => rw [Segment.fix, hv]; rfl

theorem named_map_fix (h : t.Named) (value : Text → Option Text) :
    Named ⟨t.segments.map (Segment.fix value)⟩ := by
  have hsublist : (names ⟨t.segments.map (Segment.fix value)⟩).Sublist t.names := by
    rw [names_eq_map_arguments, arguments_map_fix, names_eq_map_arguments]
    exact List.filter_sublist.map Prod.fst
  exact ⟨fun n hn => h.nonempty n (hsublist.subset hn), h.distinct.sublist hsublist⟩

/-- The template with values for literals, where there are any: neighbours are joined, and the
arguments that are left have their places in the new text. -/
def fix (value : Text → Option Text) (t : Template) : Template :=
  ⟨arrange [] 0 (t.segments.map (Segment.fix value))⟩

theorem arguments_fix (value : Text → Option Text) (t : Template) :
    (t.fix value).arguments = t.arguments.filter fun a => (value a.1).isNone := by
  rw [fix, arguments_arrange, arguments_map_fix]

/-- Values without braces do not disturb the reading of the other arguments. -/
theorem read_render (hallowed : ∀ g ∈ t.segments, g.Allowed) (hnamed : t.Named)
    (hvalue : ∀ n v, value n = some v → '{' ∉ v ∧ '}' ∉ v) :
    read (t.render value) = .ok (t.fix value) := by
  refine read_of_named (d := ⟨t.segments.map (Segment.fix value)⟩)
    ⟨List.forall_mem_map.2 fun g hg => ?_, text_map_fix value t⟩ (named_map_fix hnamed value)
  exact Segment.allowed_fix (hallowed g hg) hvalue

/-- Arranging segments moves nothing but the borders of literals and the places of arguments. -/
theorem relabel_arrange (hf : ∀ p span, f { p with span } = f p) (values : NameMap Text)
    (seen : Text) (n : Nat) (gs : List Segment) :
    Component.relabel f ((arrange seen n gs).flatMap (Segment.atoms values)) =
      Component.relabel f (seen.map .char ++ gs.flatMap (Segment.atoms values)) := by
  have hseen (seen : Text) :
      (literalSegment seen).flatMap (Segment.atoms values) = seen.map .char := by
    cases seen with
    | nil => rfl
    | cons c seen => exact List.append_nil _
  induction gs generalizing seen n with
  | nil => rw [arrange, hseen, List.flatMap_nil, List.append_nil]
  | cons g gs ih =>
    cases g with
    | literal t =>
      rw [arrange, ih, List.map_append, List.append_assoc]
      rfl
    | argument p =>
      have hhead : Component.relabel f
          (Segment.atoms values (.argument { p with span := ⟨n, n + p.text.length⟩ })) =
            Component.relabel f (Segment.atoms values (.argument p)) := by
        cases hv : values.get? p.name <;>
          simp [Segment.atoms, hv, Component.relabel, Atom.relabel, hf]
      rw [arrange, List.flatMap_append, hseen, List.flatMap_cons, List.flatMap_cons,
        Component.relabel_append, Component.relabel_append, Component.relabel_append,
        Component.relabel_append, hhead, ih]
      rfl

theorem relabel_fix (hf : ∀ p span, f { p with span } = f p) (values : NameMap Text)
    (t : Template) :
    Component.relabel f ((t.fix values.get?).segments.flatMap (Segment.atoms .empty)) =
      Component.relabel f (t.segments.flatMap (Segment.atoms values)) := by
  rw [fix, relabel_arrange hf, List.map_nil, List.nil_append, List.flatMap_map,
    funext (Segment.atoms_fix values)]

end Template

end PathTemplates
