import PathTemplates.Proofs.FileSystem.Below
import PathTemplates.Proofs.Listing.Likeness
import PathTemplates.Proofs.Template.Edits

namespace PathTemplates

namespace Placeholder

/-- The argument further on in the text. -/
def moved (n : Nat) (p : Placeholder) : Placeholder := { p with span := p.span.shift n }

theorem name_moved (n : Nat) (p : Placeholder) : (p.moved n).name = p.name := rfl

end Placeholder

theorem Segment.atoms_shift (values : NameMap Text) (n : Nat) (g : Segment) :
    (g.shift n).atoms values = Component.relabel (Placeholder.moved n) (g.atoms values) := by
  cases g with
  | literal t => exact (Component.relabel_map_char _ t).symm
  | argument p =>
    simp only [Segment.shift, Segment.atoms]
    cases values.get? p.name with
    | some v => exact (Component.relabel_map_char _ v).symm
    | none => rfl

theorem Segment.render_shift (value : Text → Option Text) (n : Nat) (g : Segment) :
    (g.shift n).render value = g.render value := by
  cases g <;> rfl

namespace Template

variable {gs : List Segment}

theorem flatMap_atoms_shift (values : NameMap Text) (n : Nat) (gs : List Segment) :
    (gs.map (Segment.shift n)).flatMap (Segment.atoms values) =
      Component.relabel (Placeholder.moved n) (gs.flatMap (Segment.atoms values)) := by
  rw [List.flatMap_map, Component.relabel, List.map_flatMap]
  exact congrArg (List.flatMap · gs) (funext fun g => Segment.atoms_shift values n g)

theorem flatMap_atoms_prepend (values : NameMap Text) (front : Text) (t : Template) :
    (t.prepend front).segments.flatMap (Segment.atoms values) = front.map .char ++
      Component.relabel (Placeholder.moved front.length)
        (t.segments.flatMap (Segment.atoms values)) := by
  obtain ⟨first, rest, hsegments, hprepend⟩ | ⟨_, hprepend⟩ := prepend_eq front t
  · rw [hprepend, hsegments, List.flatMap_cons, List.flatMap_cons, flatMap_atoms_shift,
      Component.relabel_append]
    simp only [Segment.atoms, Component.relabel_map_char, List.map_append, List.append_assoc]
  · rw [hprepend, List.flatMap_cons, flatMap_atoms_shift]
    rfl

theorem render_prepend (front : Text) (t : Template) (value : Text → Option Text) :
    (t.prepend front).render value = front ++ t.render value := by
  have hshift (gs : List Segment) :
      (gs.map (Segment.shift front.length)).flatMap (Segment.render value) =
        gs.flatMap (Segment.render value) := by
    rw [List.flatMap_map]
    exact congrArg (List.flatMap · gs) (funext fun g => Segment.render_shift value _ g)
  unfold render
  obtain ⟨first, rest, hsegments, hprepend⟩ | ⟨_, hprepend⟩ := prepend_eq front t
  · rw [hprepend, hsegments, List.flatMap_cons, List.flatMap_cons, hshift]
    exact List.append_assoc ..
  · rw [hprepend, List.flatMap_cons, hshift]
    rfl

theorem setPatternIn_shift (name : Text) (pattern : Option Text) (n : Nat) (gs : List Segment) :
    setPatternIn name pattern (gs.map (Segment.shift n)) =
      (setPatternIn name pattern gs).map (Segment.shift n) := by
  induction gs with
  | nil => rfl
  | cons g gs ih =>
    cases g with
    | literal t => exact congrArg (Segment.literal t :: ·) ih
    | argument p =>
      rw [List.map_cons, setPatternIn, Segment.shift, setPatternIn]
      dsimp only
      split
      · rfl
      · exact congrArg (_ :: ·) ih

/-- It makes no difference whether a pattern is set before or after text is put in front. -/
theorem setPattern_prepend (front : Text) (t : Template) (name : Text) (pattern : Option Text) :
    (t.prepend front).setPattern name pattern = (t.setPattern name pattern).prepend front := by
  obtain ⟨gs⟩ := t
  cases gs with
  | nil => rfl
  | cons g gs =>
    have hshift := setPatternIn_shift name pattern front.length
    cases g with
    | literal first =>
      show Template.mk (.literal (front ++ first) :: setPatternIn name pattern (gs.map _)) = _
      rw [hshift]
      rfl
    | argument p =>
      by_cases hp : p.name = name <;>
        simp [setPattern, prepend, setPatternIn, Segment.shift, hp, hshift]

end Template

namespace Path

theorem isAbsolute_join_cons {t : Text} (ht : t ≠ []) (ts : List Text) :
    isAbsolute (Text.join ['/'] (t :: ts)) = isAbsolute t := by
  cases ts with
  | nil => rfl
  | cons u us =>
    rw [Text.join_cons_cons, List.append_assoc]
    exact isAbsolute_append ht

theorem isAbsolute_join_cons_cons {t : Text} (ht : '/' ∉ t) (u : Text) (us : List Text) :
    isAbsolute (Text.join ['/'] (t :: u :: us)) = decide (t = []) := by
  cases t with
  | nil => rfl
  | cons c t =>
    rw [isAbsolute_join_cons (List.cons_ne_nil c t), isAbsolute_of_no_slash ht]
    rfl

end Path

namespace Component

variable {k : Component}

/-- The text of an open component starts with a character of its own or with a brace. -/
theorem exists_text_eq_cons (hopen : k.isOpen = true) (h : k.Unslashed) :
    ∃ c t, k.text = c :: t ∧ c ≠ '/' := by
  cases k with
  | nil => cases hopen
  | cons a k =>
    cases a with
    | char c =>
      have hc : (Atom.char c).isSlash = false := h _ (List.mem_cons_self ..)
      exact ⟨c, text k, rfl, fun e => by simp [Atom.isSlash, e] at hc⟩
    | argument p =>
      obtain ⟨t, ht⟩ := p.exists_text_eq_cons
      exact ⟨'{', t ++ text k, congrArg (· ++ text k) ht, by decide⟩

end Component

/-- What is said about a crumb that has a folder in front. -/
def CrumbError.below (folder : Text) : CrumbError → CrumbError
  | .unknownArgument name path => .unknownArgument name (Path.below folder path)
  | e => e

namespace Crumb

open PathTemplates.Path (trunk)

variable {fs : FileSystem} {c : Crumb} {folder : Text}

theorem path_rootedAt (c : Crumb) (folder : Text) :
    (c.rootedAt folder).path = Path.below folder c.path :=
  Template.render_prepend ..

/-- The literal components that a folder brings in. -/
def trunkOf (folder : Text) : List Component := (trunk folder).map fun t => t.map .char

theorem map_text_trunkOf (folder : Text) : (trunkOf folder).map Component.text = trunk folder := by
  rw [trunkOf, List.map_map]
  exact (List.map_congr_left fun t _ => Component.text_map_char t).trans (List.map_id _)

theorem closed_of_mem_trunkOf (folder : Text) : ∀ k ∈ trunkOf folder, k.isOpen = false := by
  refine List.forall_mem_map.2 fun t _ => Component.isOpen_eq_false_iff.2 ?_
  exact Component.names_map_char t

/-- The pieces of the folder come in front of the components, in which only places change. -/
theorem components_rootedAt (c : Crumb) (folder : Text) : ∃ n, (c.rootedAt folder).components =
    trunkOf folder ++ c.components.map (Component.relabel (Placeholder.moved n)) := by
  have htext : (if Path.endsInSlash folder then folder else folder ++ ['/']) =
      Path.stem folder ++ ['/'] := by
    have hbelow := Path.below_eq folder []
    rwa [Path.below, List.append_nil] at hbelow
  have hsegments : (c.rootedAt folder).template = c.template.prepend (Path.stem folder ++ ['/']) :=
    congrArg c.template.prepend htext
  have hslash : ∀ a : Char, (Atom.char a).isSlash = decide (a = '/') := fun a => by
    simp [Atom.isSlash]
  refine ⟨(Path.stem folder ++ ['/']).length, ?_⟩
  rw [components, hsegments, Component.ofTemplate, Template.flatMap_atoms_prepend, List.map_append,
    List.append_assoc, List.map_singleton, List.singleton_append,
    Text.splitBy_append_separator (by rfl), components, Component.map_relabel_ofTemplate,
    Text.splitBy_map hslash]
  rfl

/-- The crumb is absolute exactly if its path starts with a slash. -/
theorem isAbsolute_eq (c : Crumb) : c.isAbsolute = Path.isAbsolute c.path := by
  by_cases hback : c.back = []
  · rw [isAbsolute, split_of_closed (back_eq_nil_iff.1 hback)]
  · obtain ⟨k, ks, hk⟩ := List.exists_cons_of_ne_nil hback
    have hopen := isOpen_of_back_eq_cons hk
    have unslashed : k.Unslashed := unslashed_back k (hk ▸ List.mem_cons_self ..)
    rw [isAbsolute, split_of_back_ne_nil hback, (Path.follows_ofPieces slashless_front).absolute,
      path_eq_join, ← front_append_back, hk]
    have hslash := slashless_front (c := c)
    cases hfront : c.front with
    | nil =>
      obtain ⟨a, t, htext, ha⟩ := Component.exists_text_eq_cons hopen unslashed
      rw [List.nil_append, List.map_cons, htext, Path.isAbsolute_join_cons (List.cons_ne_nil a t)]
      simp [Path.isAbsolute, ha]
    | cons l ls =>
      rw [hfront] at hslash
      have hl : '/' ∉ l.text := hslash _ (List.mem_cons_self ..)
      obtain ⟨t, ts, hts⟩ : ∃ t ts, (ls ++ k :: ks).map Component.text = t :: ts :=
        List.exists_cons_of_ne_nil (by simp)
      rw [List.cons_append, List.map_cons, List.map_cons, hts, Path.isAbsolute_join_cons_cons hl]
      simp

theorem mentions_rootedAt (c : Crumb) (folder name : Text) :
    (c.rootedAt folder).mentions name = c.mentions name := by
  have hnames : (c.rootedAt folder).template.names = c.template.names :=
    Template.names_prepend ..
  rw [mentions, mentions, Template.mentions, Template.mentions, hnames]

theorem openNames_rootedAt (c : Crumb) (folder : Text) :
    (c.rootedAt folder).openNames = c.openNames := by
  have hnames : (c.rootedAt folder).names = c.names := Template.names_prepend ..
  rw [openNames, openNames, hnames]
  rfl

theorem checkName_rootedAt (c : Crumb) (folder name : Text) :
    (c.rootedAt folder).checkName name = (c.checkName name).mapError (.below folder) := by
  rw [checkName, checkName, mentions_rootedAt, path_rootedAt]
  split <;> rfl

theorem setPattern_rootedAt (c : Crumb) (folder name text : Text) :
    (c.rootedAt folder).setPattern name text =
      ((c.setPattern name text).map fun d => d.rootedAt folder).mapError
        (.map (.below folder)) := by
  rw [setPattern, setPattern, checkName_rootedAt]
  cases c.checkName name with
  | error e => rfl
  | ok u =>
    have htable : (c.rootedAt folder).patterns.set name text = c.patterns.set name text := rfl
    rw [htable]
    cases c.patterns.set name text with
    | error e => cases e <;> rfl
    | ok table =>
      refine congrArg Except.ok ?_
      simp only [rootedAt, withTemplate, Template.setPattern_prepend]

theorem withTargets_rootedAt (c : Crumb) (folder : Text) (ts : List Target) :
    (c.rootedAt folder).withTargets ts =
      ((c.withTargets ts).map fun d => d.rootedAt folder).mapError (.map (.below folder)) := by
  induction ts generalizing c with
  | nil => rfl
  | cons t ts ih =>
    rw [withTargets, withTargets, checkName_rootedAt]
    cases c.checkName t.name with
    | error e => rfl
    | ok u =>
      cases t.pattern with
      | none => exact ih c
      | some text =>
        have hrooted := setPattern_rootedAt c folder t.name text
        dsimp only
        cases hset : c.setPattern t.name text with
        | error e =>
          rw [hset] at hrooted
          rw [hrooted]
          rfl
        | ok d =>
          rw [hset] at hrooted
          rw [hrooted]
          exact ih d

/-- With an absolute folder in front, a crumb is absolute. -/
theorem isAbsolute_rootedAt (h : Path.isAbsolute folder = true) (c : Crumb) :
    (c.rootedAt folder).isAbsolute = true := by
  have hne : folder ≠ [] := by
    rintro rfl
    cases h
  rw [isAbsolute_eq, path_rootedAt, Path.isAbsolute_below hne, h]

theorem absolute_of_isAbsolute (fs : FileSystem) (h : c.isAbsolute = true) :
    c.absolute fs = .ok c := if_pos h

theorem absolute_eq_rootedAt (h : c.isAbsolute = false) (hthere : fs.isFolderAt fs.current = true)
    (hfolder : Utf8.text? fs.currentPath = some folder) :
    c.absolute fs = .ok (c.rootedAt folder) := by
  rw [absolute, h, FileSystem.currentPath?, if_pos hthere]
  dsimp only
  rw [rootedAtBytes, hfolder]
  rfl

/-- A current folder that has been taken away has no path. -/
theorem absolute_of_gone (h : c.isAbsolute = false) (hgone : fs.isFolderAt fs.current = false) :
    c.absolute fs = .error (.file ['.'] .notFound) := by
  rw [absolute, h, FileSystem.currentPath?, hgone]
  rfl

end Crumb

end PathTemplates
