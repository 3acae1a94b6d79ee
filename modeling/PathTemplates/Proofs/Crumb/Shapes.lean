import PathTemplates.Proofs.Crumb.Matching

namespace PathTemplates

namespace Text

theorem splitBy_map {α β : Type} {isSeparator : α → Bool} {isSeparator' : β → Bool} {f : α → β}
    (h : ∀ x, isSeparator' (f x) = isSeparator x) (xs : List α) :
    splitBy isSeparator' (xs.map f) = (splitBy isSeparator xs).map (List.map f) := by
  induction xs with
  | nil => rfl
  | cons x xs ih =>
    obtain ⟨p, ps, hp⟩ := List.exists_cons_of_ne_nil (splitBy_ne_nil isSeparator xs)
    rw [hp] at ih
    cases hx : isSeparator x with
    | true => simp [splitBy, h, hx, ih, hp]
    | false => simp [splitBy, h, hx, ih, hp]

end Text

namespace Placeholder

/-- The argument wherever it stands. -/
def unplaced (p : Placeholder) : Placeholder := { p with span := ⟨0, 0⟩ }

/-- The name of the argument and nothing else. -/
def bare (p : Placeholder) : Placeholder := ⟨p.name, none, ⟨0, 0⟩⟩

theorem name_unplaced (p : Placeholder) : p.unplaced.name = p.name := rfl

theorem text_unplaced (p : Placeholder) : p.unplaced.text = p.text := rfl

theorem name_bare (p : Placeholder) : p.bare.name = p.name := rfl

end Placeholder

namespace Atom

/-- The atom with another placeholder if it is an argument. -/
def relabel (f : Placeholder → Placeholder) : Atom → Atom
  | char c => char c
  | argument p => argument (f p)

theorem isSlash_relabel (f : Placeholder → Placeholder) (a : Atom) :
    (a.relabel f).isSlash = a.isSlash := by
  cases a <;> rfl

end Atom

namespace Component

variable {f g : Placeholder → Placeholder} {k l : Component}

def relabel (f : Placeholder → Placeholder) (k : Component) : Component :=
  List.map (Atom.relabel f) k

theorem relabel_append (f : Placeholder → Placeholder) (k l : Component) :
    (k ++ l).relabel f = k.relabel f ++ l.relabel f :=
  List.map_append

theorem relabel_map_char (f : Placeholder → Placeholder) (t : Text) :
    relabel f (t.map .char) = t.map .char := by
  rw [relabel, List.map_map]
  rfl

theorem relabel_relabel (f g : Placeholder → Placeholder) (k : Component) :
    (k.relabel f).relabel g = k.relabel fun p => g (f p) := by
  rw [relabel, relabel, List.map_map]
  refine List.map_congr_left fun a _ => ?_
  cases a <;> rfl

theorem text_relabel (hf : ∀ p, (f p).text = p.text) (k : Component) :
    (k.relabel f).text = k.text := by
  rw [text, relabel, List.flatMap_map]
  refine congrArg (List.flatMap · k) (funext fun a => ?_)
  cases a with
  | char c => rfl
  | argument p => exact hf p

section

variable (hf : ∀ p, (f p).name = p.name)
include hf

theorem names_relabel (k : Component) : (k.relabel f).names = k.names := by
  induction k with
  | nil => rfl
  | cons a k ih =>
    cases a with
    | char c => exact ih
    | argument p =>
      show (f p).name :: names (relabel f k) = p.name :: names k
      rw [hf, ih]

theorem isOpen_relabel (k : Component) : (k.relabel f).isOpen = k.isOpen := by
  rw [isOpen, isOpen, names_relabel hf]

theorem matchAtoms_relabel (k : Component) (entry : Text) :
    matchAtoms (k.relabel f) entry = matchAtoms k entry := by
  induction k generalizing entry with
  | nil => rfl
  | cons a k ih =>
    cases a with
    | char c =>
      cases entry with
      | nil => rfl
      | cons d entry => exact ite_congr rfl (fun _ => ih entry) fun _ => rfl
    | argument p =>
      have hrest : matchAtoms (relabel f k) = matchAtoms k := funext ih
      show (matchValue (matchAtoms (relabel f k)) entry).map
        (fun r => Binding.mk (f p).name r.1 :: r.2) = _
      rw [hrest, hf]
      rfl

/-- The names of the arguments and the text around them decide what an entry is taken apart
into. -/
theorem matchEntry_relabel (k : Component) (entry : Text) :
    (k.relabel f).matchEntry entry = k.matchEntry entry := by
  by_cases hk : ∃ p, k = [.argument p]
  · obtain ⟨p, rfl⟩ := hk
    show some [Binding.mk (f p).name entry] = some [⟨p.name, entry⟩]
    rw [hf]
  · have hk' : ∀ p, k ≠ [.argument p] := fun p e => hk ⟨p, e⟩
    have hrelabel : ∀ p, k.relabel f ≠ [.argument p] := by
      intro p e
      obtain ⟨a, rfl, ha⟩ := List.map_eq_singleton_iff.1 e
      cases a with
      | char c => cases ha
      | argument q => exact hk' q rfl
    rw [matchEntry_eq_matchAtoms hk', matchEntry_eq_matchAtoms hrelabel, matchAtoms_relabel hf]

end

/-- Without open arguments there is nothing to relabel. -/
theorem relabel_of_closed (h : k.isOpen = false) : k.relabel f = k := by
  rw [eq_map_char_of_closed h, relabel_map_char]

/-- Two components that are relabelled to the same one are both open or the same. -/
theorem eq_of_relabel_eq (hf : ∀ p, (f p).name = p.name) (h : k.relabel f = l.relabel f)
    (hk : k.isOpen = false) : k = l := by
  have hl : l.isOpen = false := by rw [← isOpen_relabel hf, ← h, isOpen_relabel hf, hk]
  rwa [relabel_of_closed hk, relabel_of_closed hl] at h

theorem map_relabel_ofTemplate (f : Placeholder → Placeholder) (t : Template)
    (values : NameMap Text) : (ofTemplate t values).map (relabel f) =
      Text.splitBy Atom.isSlash (relabel f (t.segments.flatMap (Segment.atoms values))) :=
  (Text.splitBy_map (Atom.isSlash_relabel f) _).symm

end Component

end PathTemplates
