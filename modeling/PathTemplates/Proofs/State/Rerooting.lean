import PathTemplates.Proofs.Crumb.Rooting
import PathTemplates.Proofs.State.Consistency
import PathTemplates.Proofs.Text.Utf8

namespace PathTemplates

namespace Path

/-- What a folder puts in front of a path. -/
def front (folder : Text) : Text := if endsInSlash folder then folder else folder ++ ['/']

theorem front_append (p : Text) {folder : Text} (h : folder ≠ []) :
    front (p ++ folder) = p ++ front folder := by
  have hslash : endsInSlash (p ++ folder) = endsInSlash folder := by
    rw [endsInSlash, endsInSlash, List.getLast?_append_of_ne_nil p h]
  unfold front
  rw [hslash]
  split
  · rfl
  · exact List.append_assoc ..

end Path

namespace Template

variable {t : Template}

/-- Every span covers exactly the text of its argument. -/
def Marked (t : Template) : Prop :=
  ∀ p ∈ t.placeholders, p.span.start ≤ p.span.stop ∧ p.span.stop ≤ t.text.length ∧
    t.text.extract p.span.start p.span.stop = p.text

instance (t : Template) : Decidable t.Marked :=
  inferInstanceAs (Decidable (∀ p ∈ t.placeholders, _))

theorem placeholders_shift (n : Nat) (gs : List Segment) :
    placeholders ⟨gs.map (Segment.shift n)⟩ = (placeholders ⟨gs⟩).map (Placeholder.moved n) := by
  induction gs with
  | nil => rfl
  | cons g gs ih =>
    cases g with
    | literal t => exact ih
    | argument p => exact congrArg (p.moved n :: ·) ih

theorem placeholders_prepend (front : Text) (t : Template) :
    (t.prepend front).placeholders = t.placeholders.map (Placeholder.moved front.length) := by
  obtain ⟨gs⟩ := t
  obtain ⟨first, rest, rfl, h⟩ | ⟨_, h⟩ := prepend_eq front ⟨gs⟩
  · rw [h]
    exact placeholders_shift front.length rest
  · rw [h]
    exact placeholders_shift front.length gs

theorem text_prepend (front : Text) (t : Template) : (t.prepend front).text = front ++ t.text :=
  render_prepend ..

theorem Marked.prepend (h : t.Marked) (front : Text) : (t.prepend front).Marked := by
  intro q hq
  rw [placeholders_prepend] at hq
  obtain ⟨p, hp, rfl⟩ := List.mem_map.1 hq
  obtain ⟨hle, hstop, hextract⟩ := h p hp
  rw [text_prepend, List.length_append]
  show p.span.start + front.length ≤ p.span.stop + front.length ∧ _ ∧
    (front ++ t.text).extract (p.span.start + front.length) (p.span.stop + front.length) = p.text
  refine ⟨by omega, ?_, ?_⟩
  · show p.span.stop + front.length ≤ _
    omega
  · rw [List.extract_eq_take_drop] at hextract ⊢
    rw [Nat.add_sub_add_right, Nat.add_comm, List.drop_length_add_append, hextract]

theorem shift_shift (m n : Nat) (gs : List Segment) :
    (gs.map (Segment.shift m)).map (Segment.shift n) = gs.map (Segment.shift (n + m)) := by
  rw [List.map_map]
  refine List.map_congr_left fun g _ => ?_
  cases g with
  | literal t => rfl
  | argument p => simp [Segment.shift, Span.shift, Nat.add_assoc, Nat.add_comm m n]

theorem prepend_prepend (outer inner : Text) (t : Template) :
    (t.prepend inner).prepend outer = t.prepend (outer ++ inner) := by
  have hshift (gs : List Segment) :
      (gs.map (Segment.shift inner.length)).map (Segment.shift outer.length) =
        gs.map (Segment.shift (outer ++ inner).length) := by
    rw [shift_shift, List.length_append]
  obtain ⟨gs⟩ := t
  cases gs with
  | nil => rfl
  | cons g gs =>
    cases g with
    | literal first =>
      refine congrArg Template.mk (congrArg₂ List.cons ?_ (hshift gs))
      exact congrArg Segment.literal (List.append_assoc ..).symm
    | argument p =>
      exact congrArg Template.mk
        (congrArg (.literal (outer ++ inner) :: ·) (hshift (.argument p :: gs)))

end Template

namespace Crumb

variable {c : Crumb} {permitted : Operation → Prop}

theorem rootedAt_rootedAt (c : Crumb) (outer : Text) {inner : Text} (h : inner ≠ []) :
    (c.rootedAt inner).rootedAt outer = c.rootedAt (Path.front outer ++ inner) := by
  have htemplate : (c.template.prepend (Path.front inner)).prepend (Path.front outer) =
      c.template.prepend (Path.front (Path.front outer ++ inner)) := by
    rw [Template.prepend_prepend, Path.front_append _ h]
  obtain ⟨template, values, patterns, ignore, checkExists, distinct⟩ := c
  exact (Crumb.mk.injEq ..).mpr ⟨htemplate, rfl, rfl, rfl, rfl⟩

theorem rootedAtBytes_utf8 (c : Crumb) (folder : Text) :
    c.rootedAtBytes folder.utf8 = .ok (c.rootedAt folder) := by
  rw [rootedAtBytes, Utf8.text?_utf8]

/-- A folder in front changes the template at its front only: its text and the path begin with the
path of the folder, and the spans move with the text. Two folders put in front one after the other
are one folder. -/
theorem Reachable.rootedAt_rewrites (h : Reachable permitted c) (folder : Text) :
    ∃ r, c.rootedAtBytes folder.utf8 = .ok r ∧
      r.template.text = Path.front folder ++ c.template.text ∧
      r.path = Path.front folder ++ c.path ∧
      r.template.arguments = c.template.arguments ∧ r.openNames = c.openNames ∧
      r.values = c.values ∧ r.patterns = c.patterns ∧ r.mode = c.mode ∧ r.ignore = c.ignore ∧
      r.checkExists = c.checkExists ∧
      r.template.segments.IsChain Segment.Apart ∧
      (c.template.Marked → r.template.Marked) ∧
      (folder ≠ [] → ∀ outer : Text, ∃ s, r.rootedAtBytes outer.utf8 = .ok s ∧
        c.rootedAtBytes (Path.front outer ++ folder).utf8 = .ok s) := by
  refine ⟨c.rootedAt folder, rootedAtBytes_utf8 c folder, Template.text_prepend ..,
    path_rootedAt .., Template.arguments_prepend .., openNames_rootedAt .., rfl, rfl, rfl, rfl, rfl,
    Template.isChain_apart_prepend _ h.consistent.apart, fun hmarked => hmarked.prepend _,
    fun hne outer => ⟨_, rootedAtBytes_utf8 .., ?_⟩⟩
  rw [rootedAtBytes_utf8, rootedAt_rootedAt c outer hne]

/-- The template `{a:x*}/{b}` with a value for `b`, in the folder `ä` and this in the folder
`/{r}`. -/
theorem Reachable.rootedAt_rewrites_sample : ∃ c r s, Reachable (fun _ => True) c ∧
    c.template.Marked ∧ c.rootedAtBytes (Text.utf8 ['ä']) = .ok r ∧
    r.path = ['ä', '/', '{', 'a', ':', 'x', '*', '}', '/', 'v'] ∧ r.template.Marked ∧
    r.rootedAtBytes (Text.utf8 ['/', '{', 'r', '}']) = .ok s ∧
    c.rootedAtBytes (Text.utf8 ['/', '{', 'r', '}', '/', 'ä']) = .ok s := by
  obtain ⟨c, h, hpath, hmarked⟩ : ∃ c, Reachable (fun _ => True) c ∧
      c.path = ['{', 'a', ':', 'x', '*', '}', '/', 'v'] ∧ c.template.Marked :=
    ⟨_, .step gapFiles (.bind ['b'] ['v'])
      (.start ['{', 'a', ':', 'x', '*', '}', '/', '{', 'b', '}'] {} rfl) trivial
      (List.mem_singleton_self _), rfl, by decide⟩
  obtain ⟨r, hr, -, hpath', -, -, -, -, -, -, -, -, hmark, htwice⟩ :=
    Reachable.rootedAt_rewrites h ['ä']
  obtain ⟨s, hs, honce⟩ := htwice (by decide) ['/', '{', 'r', '}']
  exact ⟨c, r, s, h, hmarked, hr, hpath'.trans (congrArg _ hpath), hmark hmarked, hs, honce⟩

end Crumb

end PathTemplates
