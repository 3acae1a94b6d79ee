import PathTemplates.Crumb.Basic

namespace PathTemplates

theorem Text.flatten_splitBy {α : Type} (isSeparator : α → Bool) (xs : List α) :
    (Text.splitBy isSeparator xs).flatten = xs.filter fun x => !isSeparator x := by
  induction xs with
  | nil => rfl
  | cons x xs ih =>
    obtain ⟨p, ps, h⟩ := List.exists_cons_of_ne_nil (Text.splitBy_ne_nil isSeparator xs)
    rw [h] at ih
    cases hx : isSeparator x with
    | true => simpa [Text.splitBy, hx, h] using ih
    | false => simpa [Text.splitBy, hx, h] using ih

theorem NameMap.contains_eq_false_iff {β : Type} {m : NameMap β} {name : Text} :
    m.contains name = false ↔ m.get? name = none := by
  simp [contains]

theorem Component.flatMap_names (cs : List Component) :
    cs.flatMap Component.names = Component.names cs.flatten := by
  induction cs with
  | nil => rfl
  | cons k cs ih => rw [List.flatMap_cons, ih, List.flatten_cons, names_append]

theorem Component.isOpen_eq_false_iff {k : Component} : k.isOpen = false ↔ k.names = [] := by
  simp [Component.isOpen]

theorem Component.flatMap_names_eq_nil_iff {cs : List Component} :
    cs.flatMap Component.names = [] ↔ ∀ k ∈ cs, k.isOpen = false := by
  simp only [List.flatMap_eq_nil_iff, isOpen_eq_false_iff]

theorem Component.flatMap_names_take_append_drop (n : Nat) (cs : List Component) :
    (cs.take n).flatMap Component.names ++ (cs.drop n).flatMap Component.names =
      cs.flatMap Component.names := by
  rw [← List.flatMap_append, List.take_append_drop]

theorem Component.names_filter_not_isSlash (k : Component) :
    Component.names (k.filter fun a => !a.isSlash) = k.names := by
  induction k with
  | nil => rfl
  | cons a k ih =>
    cases a with
    | char c =>
      cases hc : (Atom.char c).isSlash with
      | true => simpa [hc] using ih
      | false => simpa [hc] using ih
    | argument p =>
      have hp : (Atom.argument p).isSlash = false := rfl
      simpa [hp] using ih

theorem Segment.names_atoms (values : NameMap Text) (segments : List Segment) :
    Component.names (segments.flatMap (Segment.atoms values)) =
      (Template.mk segments).names.filter fun n => !values.contains n := by
  unfold Template.names Template.placeholders
  induction segments with
  | nil => rfl
  | cons g rest ih =>
    rw [List.flatMap_cons, Component.names_append, ih]
    cases g with
    | literal t => simp [Segment.atoms]
    | argument p =>
      cases hv : values.get? p.name with
      | some v => simp [Segment.atoms, hv, NameMap.contains]
      | none => simp [Segment.atoms, hv, NameMap.contains]

namespace Crumb

theorem flatMap_names_components (c : Crumb) :
    c.components.flatMap Component.names = c.openNames := by
  unfold components Component.ofTemplate
  rw [Component.flatMap_names, Text.flatten_splitBy, Component.names_filter_not_isSlash,
    Segment.names_atoms]
  rfl

theorem nodup_names_of_mem_components {c : Crumb} {k : Component} (h : k ∈ c.components) :
    k.names.Nodup := by
  have hopen : c.openNames.Nodup := c.distinct.filter _
  rw [← flatMap_names_components] at hopen
  exact hopen.sublist (List.sublist_flatten_of_mem (List.mem_map_of_mem h))

theorem hasOpenNames_eq_false_iff {c : Crumb} :
    c.hasOpenNames = false ↔ ∀ k ∈ c.components, k.isOpen = false := by
  simp only [← Component.flatMap_names_eq_nil_iff, flatMap_names_components, hasOpenNames,
    Bool.not_eq_false', List.isEmpty_iff]

end Crumb

end PathTemplates
