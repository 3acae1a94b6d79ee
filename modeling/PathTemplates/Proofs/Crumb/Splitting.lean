import Mathlib.Data.List.TakeWhile
import PathTemplates.Proofs.Crumb.Binding
import PathTemplates.Proofs.Template.Repatterning

namespace PathTemplates

namespace Path

variable {p folder rest : Text}

/-- A path cut into a folder and the rest at a slash that is left out. The root folder is the slash
itself, and without a folder all of the path is the rest. -/
def CutInto (p folder rest : Text) : Prop :=
  (folder ≠ [] ∧ p = folder ++ '/' :: rest) ∨
    ((folder = [] ∨ folder = ['/']) ∧ p = folder ++ rest)

theorem CutInto.append (h : CutInto p folder rest) (t : Text) :
    CutInto (p ++ t) folder (rest ++ t) := by
  obtain ⟨hne, rfl⟩ | ⟨hroot, rfl⟩ := h
  · exact .inl ⟨hne, by rw [List.append_assoc, List.cons_append]⟩
  · exact .inr ⟨hroot, List.append_assoc ..⟩

end Path

namespace Component

/-- Components joined again are the text that they are the pieces of, and the root folder where
there is no text. -/
theorem joined_splitBy (atoms : List Atom) :
    joined (Text.splitBy Atom.isSlash atoms) = if text atoms = [] then ['/'] else text atoms := by
  have hjoin : Text.join ['/'] ((Text.splitBy Atom.isSlash atoms).map text) = text atoms :=
    Text.join_map_splitBy fun a _ ha => by
      cases of_decide_eq_true ha
      rfl
  have hne : (Text.splitBy Atom.isSlash atoms).isEmpty = false :=
    List.isEmpty_eq_false_iff.2 (Text.splitBy_ne_nil _ _)
  simp [joined, hjoin, hne]

theorem joined_cons {k : Component} (ks : List Component) (h : k.text ≠ []) :
    joined (k :: ks) = k.text ∨ ∃ rest, joined (k :: ks) = k.text ++ '/' :: rest := by
  cases ks with
  | nil => exact .inl (if_neg (by simpa [Text.join] using h))
  | cons l ks =>
    refine .inr ⟨Text.join ['/'] ((l :: ks).map text), ?_⟩
    rw [joined, List.map_cons, List.map_cons, Text.join_cons_cons, List.append_assoc]
    exact if_neg (by simp)

theorem closed_of_mem_splitBy {atoms : List Atom} (h : names atoms = []) :
    ∀ k : Component, k ∈ Text.splitBy Atom.isSlash atoms → k.isOpen = false := by
  rw [← names_filter_not_isSlash, ← Text.flatten_splitBy, ← flatMap_names] at h
  exact flatMap_names_eq_nil_iff.1 h

/-- The text in front of some atoms is cut at its last slash: the components before it are their
own, and what stands behind it is the beginning of the next component. -/
theorem exists_front (t : Text) (atoms : List Atom) :
    ∃ front lead, '/' ∉ lead ∧ Path.CutInto t (joined front) lead ∧
      (∀ k ∈ front, k.isOpen = false) ∧
      Text.splitBy Atom.isSlash (t.map .char ++ atoms) =
        front ++ Text.splitBy Atom.isSlash (lead.map .char ++ atoms) := by
  by_cases hslash : '/' ∈ t
  · obtain ⟨folder, lead, rfl, hlead⟩ := Text.exists_cut_last hslash
    refine ⟨Text.splitBy Atom.isSlash (folder.map .char), lead, hlead, ?_,
      closed_of_mem_splitBy (names_map_char folder), ?_⟩
    · rw [joined_splitBy, text_map_char]
      by_cases hroot : folder = []
      · exact .inr ⟨.inr (if_pos hroot), by rw [if_pos hroot, hroot]; rfl⟩
      · rw [if_neg hroot]
        exact .inl ⟨hroot, rfl⟩
    · rw [List.map_append, List.append_assoc]
      exact Text.splitBy_append_separator (x := Atom.char '/') rfl ..
  · exact ⟨[], t, hslash, .inr ⟨.inl rfl, rfl⟩, nofun, rfl⟩

theorem splitBy_lead {lead : Text} (h : '/' ∉ lead) (p : Placeholder) (atoms : List Atom) :
    ∃ own ks, Text.splitBy Atom.isSlash (lead.map .char ++ .argument p :: atoms) =
      (lead.map .char ++ .argument p :: own) :: ks := by
  obtain ⟨own, ks, hatoms⟩ := List.exists_cons_of_ne_nil (Text.splitBy_ne_nil Atom.isSlash atoms)
  have hunslashed : ∀ a ∈ lead.map Atom.char ++ [.argument p], a.isSlash = false := by
    intro a ha
    obtain ha | ha := List.mem_append.1 ha
    · obtain ⟨x, hx, rfl⟩ := List.mem_map.1 ha
      exact decide_eq_false fun e => h (Atom.char.inj e ▸ hx)
    · cases List.mem_singleton.1 ha
      rfl
  refine ⟨own, ks, ?_⟩
  rw [List.append_cons, Text.splitBy_append hunslashed hatoms, List.append_assoc]
  rfl

end Component

theorem Segment.text_atoms (values : NameMap Text) (gs : List Segment) :
    Component.text (gs.flatMap (Segment.atoms values)) = Template.render ⟨gs⟩ values.get? := by
  have hnone : ∀ n, values.get? n = (values.get? n).or ((fun _ => none) n) := fun n =>
    (Option.or_none ..).symm
  rw [Component.text, List.flatMap_assoc]
  refine congrArg (List.flatMap · gs) (funext fun g => ?_)
  rw [Segment.render_of_get? hnone, Component.fill_none]
  rfl

namespace Crumb

variable {c : Crumb} {before after : List Segment} {p : Placeholder} {k : Component}
  {front ks : List Component}

/-- The template at its first open argument: all arguments before it are bound. -/
structure FirstOpen (c : Crumb) (before : List Segment) (p : Placeholder) (after : List Segment) :
    Prop where
  segments : c.template.segments = before ++ .argument p :: after
  bound : ∀ n ∈ Template.names ⟨before⟩, c.values.contains n = true
  isOpen : c.values.contains p.name = false

theorem exists_firstOpen (h : c.openNames ≠ []) : ∃ before p after, c.FirstOpen before p after := by
  obtain ⟨name, rest, hcons⟩ := List.exists_cons_of_ne_nil h
  obtain ⟨us, vs, hnames, hus, hopen, -⟩ := List.filter_eq_cons_iff.1 hcons
  obtain ⟨qs, ps, hplaceholders, rfl, hps⟩ := List.map_eq_append_iff.1 hnames
  obtain ⟨p, ps, rfl, rfl, -⟩ := List.map_eq_cons_iff.1 hps
  obtain ⟨before, after, hsegments, rfl, -⟩ := Template.exists_segments_eq hplaceholders
  exact ⟨before, p, after, hsegments, by simpa [Template.names] using hus, by simpa using hopen⟩

namespace FirstOpen

/-- What stands before the first open argument comes out as characters. -/
theorem atoms_before (h : c.FirstOpen before p after) :
    before.flatMap (Segment.atoms c.values) =
      (Template.render ⟨before⟩ c.values.get?).map .char := by
  have hnames : Component.names (before.flatMap (Segment.atoms c.values)) = [] := by
    rw [Segment.names_atoms]
    exact List.filter_eq_nil_iff.2 fun n hn => by simp [h.bound n hn]
  rw [← Segment.text_atoms]
  exact Component.eq_map_char_of_closed (Component.isOpen_eq_false_iff.2 hnames)

theorem components (h : c.FirstOpen before p after) :
    c.components = Text.splitBy Atom.isSlash
      ((Template.render ⟨before⟩ c.values.get?).map .char ++
        .argument p :: after.flatMap (Segment.atoms c.values)) := by
  have hp : Segment.atoms c.values (.argument p) = [.argument p] := by
    rw [Segment.atoms, NameMap.contains_eq_false_iff.1 h.isOpen]
  rw [Crumb.components, Component.ofTemplate, h.segments, List.flatMap_append, List.flatMap_cons,
    h.atoms_before, hp]
  rfl

theorem path (h : c.FirstOpen before p after) :
    c.path = Template.render ⟨before⟩ c.values.get? ++
      (p.text ++ Template.render ⟨after⟩ c.values.get?) := by
  have hp : (Segment.argument p).render c.values.get? = p.text := by
    rw [Segment.render, NameMap.contains_eq_false_iff.1 h.isOpen, Option.getD_none]
  rw [Crumb.path, Template.render, h.segments, List.flatMap_append, List.flatMap_cons, hp]
  rfl

end FirstOpen

theorem split_of_components (h : c.components = front ++ k :: ks)
    (hfront : ∀ l ∈ front, l.isOpen = false) (hk : k.isOpen = true) :
    c.split = (Component.joined front, Component.joined (k :: ks)) := by
  have hclosed : ∀ l ∈ front, (!l.isOpen) = true := fun l hl => by simp [hfront l hl]
  have htake : (front ++ k :: ks).takeWhile (fun l => !l.isOpen) = front := by
    rw [List.takeWhile_append_of_pos hclosed, List.takeWhile_cons_of_neg (by simp [hk]),
      List.append_nil]
  have hdrop : (front ++ k :: ks).dropWhile (fun l => !l.isOpen) = k :: ks := by
    rw [List.dropWhile_append_of_pos hclosed, List.dropWhile_cons_of_neg (by simp [hk])]
  simp only [split, h, htake, hdrop]
  rfl

/-- The component of the first open argument starts behind the last slash in front of it, and the
crumb is split there. -/
theorem FirstOpen.split (h : c.FirstOpen before p after) :
    ∃ lead own ks, '/' ∉ lead ∧
      Path.CutInto (Template.render ⟨before⟩ c.values.get?) c.split.1 lead ∧
      c.components.find? Component.isOpen = some (lead.map .char ++ .argument p :: own) ∧
      c.split.2 = Component.joined ((lead.map .char ++ .argument p :: own) :: ks) ∧
      c.split.2 = lead ++ (p.text ++ Template.render ⟨after⟩ c.values.get?) := by
  obtain ⟨front, lead, hlead, hcut, hclosed, hfront⟩ := Component.exists_front
    (Template.render ⟨before⟩ c.values.get?) (.argument p :: after.flatMap (Segment.atoms c.values))
  obtain ⟨own, ks, hpieces⟩ :=
    Component.splitBy_lead hlead p (after.flatMap (Segment.atoms c.values))
  have hcomponents : c.components = front ++ (lead.map .char ++ .argument p :: own) :: ks := by
    rw [h.components, hfront, hpieces]
  have hopen : Component.isOpen (lead.map .char ++ .argument p :: own) = true := by
    simp [Component.isOpen]
  have htext : Component.text (lead.map .char ++ .argument p ::
      after.flatMap (Segment.atoms c.values)) =
        lead ++ (p.text ++ Template.render ⟨after⟩ c.values.get?) := by
    rw [← Segment.text_atoms, Component.text_append, Component.text_map_char,
      Component.text_argument]
  rw [split_of_components hcomponents hclosed hopen]
  refine ⟨lead, own, ks, hlead, hcut, ?_, rfl, ?_⟩
  · rw [hcomponents, List.find?_append, List.find?_eq_none.2 (by simpa using hclosed),
      List.find?_cons_of_pos hopen]
    rfl
  · rw [← hpieces, Component.joined_splitBy, htext, if_neg (by simp [Placeholder.text_ne_nil])]

/-- A crumb is split in front of the component that holds its first open argument, and no text is
lost: the folder comes from literals and bound values only, and the rest starts with the whole
component. Without open arguments the path stays in one piece. -/
theorem split_at_firstOpen (c : Crumb) :
    (c.openNames = [] → c.split = (c.path, [])) ∧
    (c.openNames ≠ [] → c.split.2 ≠ [] ∧ Path.CutInto c.path c.split.1 c.split.2 ∧
      ∃ before p after lead own k, c.FirstOpen before p after ∧ '/' ∉ lead ∧
        Path.CutInto (Template.render ⟨before⟩ c.values.get?) c.split.1 lead ∧
        c.split.2 = lead ++ (p.text ++ Template.render ⟨after⟩ c.values.get?) ∧
        c.components.find? Component.isOpen = some k ∧ k = lead.map .char ++ .argument p :: own ∧
        (c.split.2 = k.text ∨ ∃ rest, c.split.2 = k.text ++ '/' :: rest)) := by
  refine ⟨fun hclosed => ?_, fun hopen => ?_⟩
  · have hnone : c.components.dropWhile (fun k => !k.isOpen) = [] := by
      have hnames : c.hasOpenNames = false := by simp [hasOpenNames, hclosed]
      simpa [List.dropWhile_eq_nil_iff] using hasOpenNames_eq_false_iff.1 hnames
    simp [split, hnone]
  · obtain ⟨before, p, after, h⟩ := exists_firstOpen hopen
    obtain ⟨lead, own, ks, hlead, hcut, hfind, hjoined, hrest⟩ := h.split
    have hne : lead ++ (p.text ++ Template.render ⟨after⟩ c.values.get?) ≠ [] := by
      simp [Placeholder.text_ne_nil]
    have hpath : Path.CutInto c.path c.split.1 c.split.2 := by
      rw [h.path, hrest]
      exact hcut.append _
    refine ⟨hrest ▸ hne, hpath, before, p, after, lead, own, _, h, hlead, hcut, hrest, hfind, rfl,
      ?_⟩
    rw [hjoined]
    exact Component.joined_cons ks (by simp [Placeholder.text_ne_nil])

/-- Slashes of a pattern cut nothing, those of a value do. -/
example : ((read ['{', 'r', '}', 'x', '{', 'b', ':', 'p', '/', 'q', '}', '/', 'z'] {}).bind
    fun c => Failure.returning (c.bind ['r'] ['/', 'd', '/', '/', 'e'])).map split =
      .ok (['/', 'd', '/'], ['e', 'x', '{', 'b', ':', 'p', '/', 'q', '}', '/', 'z']) := rfl

end Crumb

end PathTemplates
