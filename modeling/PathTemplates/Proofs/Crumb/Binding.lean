import PathTemplates.Proofs.Crumb.Components
import PathTemplates.Proofs.Text.Pieces

namespace PathTemplates

namespace Assignment

variable {t : Assignment}

theorem get?_cons (b : Binding) (t : Assignment) (name : Text) :
    get? (b :: t) name = if b.name = name then some b.value else t.get? name := by
  by_cases h : b.name = name <;> simp [get?, h]

theorem get?_filter (kept : Text → Bool) (t : Assignment) (name : Text) :
    get? (t.filter fun b => kept b.name) name = if kept name then t.get? name else none := by
  induction t with
  | nil => simp [get?]
  | cons b t ih =>
    by_cases hb : b.name = name
    · by_cases hkept : kept name
      · simp [get?_cons, hb, hkept]
      · simpa [hb, hkept] using ih
    · by_cases hkept : kept b.name
      · simpa [get?_cons, hb, hkept] using ih
      · simpa [get?_cons, hb, hkept] using ih

theorem mem_of_get? {name value : Text} (h : t.get? name = some value) : ⟨name, value⟩ ∈ t := by
  induction t with
  | nil => cases h
  | cons b t ih =>
    rw [get?_cons] at h
    split at h
    · next hb =>
      cases h
      cases hb
      exact List.mem_cons_self ..
    · exact List.mem_cons_of_mem _ (ih h)

theorem map_names (h : t.names.Nodup) :
    (t.names.map fun n => (⟨n, (t.get? n).getD []⟩ : Binding)) = t := by
  rw [names, List.map_map]
  refine (List.map_congr_left fun b hb => ?_).trans (List.map_id t)
  simp [get?_of_mem h hb]

end Assignment

namespace NameMap

/-- Adds some bindings, one after another. -/
def insertAll (m : NameMap Text) (t : Assignment) : NameMap Text :=
  t.foldl (fun m b => m.insert b.name b.value) m

theorem get?_insertAll (m : NameMap Text) {t : Assignment} (h : t.names.Nodup) (name : Text) :
    (m.insertAll t).get? name = (t.get? name).or (m.get? name) := by
  induction t generalizing m with
  | nil => rfl
  | cons b t ih =>
    obtain ⟨hb, ht⟩ := List.nodup_cons.1 h
    have hrest := ih (m.insert b.name b.value) ht
    rw [insertAll, List.foldl_cons, ← insertAll, hrest, get?_insert, Assignment.get?_cons]
    by_cases hname : b.name = name
    · subst hname
      have hnone : Assignment.get? t b.name = none := Assignment.get?_eq_none_iff.2 hb
      simp [hnone]
    · simp [hname]

/-- Of several values for a name the last one counts. -/
theorem get?_insertAll_eq_or (m : NameMap Text) (t : Assignment) (name : Text) :
    (m.insertAll t).get? name = (Assignment.get? t.reverse name).or (m.get? name) := by
  induction t generalizing m with
  | nil => rfl
  | cons b t ih =>
    have hrest := ih (m.insert b.name b.value)
    rw [insertAll, List.foldl_cons, ← insertAll, hrest, get?_insert, List.reverse_cons,
      Assignment.get?_append, Option.or_assoc, Assignment.get?_cons]
    by_cases hname : b.name = name <;> simp [hname, Assignment.get?]

/-- A name may be bound several times to one value. -/
theorem get?_insertAll_of_forall (m : NameMap Text) (value : Text → Option Text) {t : Assignment}
    (h : ∀ b ∈ t, value b.name = some b.value) (name : Text) :
    (m.insertAll t).get? name = if name ∈ t.names then value name else m.get? name := by
  induction t generalizing m with
  | nil => rfl
  | cons b t ih =>
    obtain ⟨hb, ht⟩ := List.forall_mem_cons.1 h
    have hrest := ih (m.insert b.name b.value) ht
    rw [insertAll, List.foldl_cons, ← insertAll, hrest, get?_insert]
    have hcons : name ∈ Assignment.names (b :: t) ↔ name = b.name ∨ name ∈ Assignment.names t :=
      List.mem_cons
    by_cases hname : b.name = name
    · subst hname
      simp [hcons, hb]
    · simp [hcons, hname, Ne.symm hname]

end NameMap

theorem Placeholder.exists_text_eq_cons (p : Placeholder) : ∃ t, p.text = '{' :: t := by
  unfold Placeholder.text
  split <;> exact ⟨_, rfl⟩

theorem Placeholder.text_ne_nil (p : Placeholder) : p.text ≠ [] := by
  obtain ⟨t, ht⟩ := p.exists_text_eq_cons
  exact ht ▸ List.cons_ne_nil _ _

namespace Atom

/-- An argument that has a value becomes the characters of the value. -/
def bind (value : Text → Option Text) : Atom → List Atom
  | char c => [char c]
  | argument p =>
    match value p.name with
    | some v => v.map char
    | none => [argument p]

def fill (value : Text → Option Text) : Atom → Text
  | char c => [c]
  | argument p => (value p.name).getD p.text

end Atom

namespace Component

variable {value other : Text → Option Text} {k : Component}

def bind (value : Text → Option Text) (k : Component) : Component := k.flatMap (Atom.bind value)

/-- The text of a component with the values of its arguments. -/
def fill (value : Text → Option Text) (k : Component) : Text := k.flatMap (Atom.fill value)

@[simp] theorem fill_nil : fill value [] = [] := rfl

theorem fill_cons (a : Atom) (k : Component) : fill value (a :: k) = a.fill value ++ fill value k :=
  rfl

theorem fill_append (k l : Component) : fill value (k ++ l) = fill value k ++ fill value l :=
  List.flatMap_append

@[simp] theorem fill_map_char (t : Text) : fill value (t.map .char) = t := by
  rw [fill, List.flatMap_map]
  exact List.flatMap_singleton' t

@[simp] theorem bind_nil : bind value [] = [] := rfl

theorem bind_cons (a : Atom) (k : Component) : bind value (a :: k) = a.bind value ++ bind value k :=
  rfl

@[simp] theorem bind_map_char (t : Text) : bind value (t.map .char) = t.map .char := by
  rw [bind, List.flatMap_map, List.map_eq_flatMap]
  rfl

theorem fill_none (k : Component) : fill (fun _ => none) k = k.text := by
  induction k with
  | nil => rfl
  | cons a k ih =>
    rw [fill_cons, ih]
    cases a <;> rfl

@[simp] theorem text_map_char (t : Text) : text (t.map .char) = t := by
  rw [← fill_none, fill_map_char]

@[simp] theorem text_append (k l : Component) : text (k ++ l) = text k ++ text l :=
  List.flatMap_append

@[simp] theorem text_argument (p : Placeholder) (k : Component) :
    text (.argument p :: k) = p.text ++ text k := rfl

theorem names_bind (value : Text → Option Text) (k : Component) :
    (k.bind value).names = k.names.filter fun n => (value n).isNone := by
  induction k with
  | nil => rfl
  | cons a k ih =>
    rw [bind_cons, names_append, ih]
    cases a with
    | char c => rfl
    | argument p => cases hv : value p.name <;> simp [Atom.bind, hv]

/-- To bind some arguments and fill in the others is to fill in all of them. -/
theorem fill_bind (value other : Text → Option Text) (k : Component) :
    (k.bind value).fill other = k.fill fun n => (value n).or (other n) := by
  induction k with
  | nil => rfl
  | cons a k ih =>
    rw [bind_cons, fill_append, ih, fill_cons]
    congr 1
    cases a with
    | char c => rfl
    | argument p => cases hv : value p.name <;> simp [Atom.bind, Atom.fill, hv, fill_cons]

theorem text_bind (value : Text → Option Text) (k : Component) :
    (k.bind value).text = k.fill value := by
  rw [← fill_none, fill_bind]
  simp

theorem fill_congr (h : ∀ n ∈ k.names, value n = other n) : k.fill value = k.fill other := by
  induction k with
  | nil => rfl
  | cons a k ih =>
    cases a with
    | char c => rw [fill_cons, fill_cons, ih (by simpa using h)]; rfl
    | argument p =>
      obtain ⟨hp, hk⟩ := List.forall_mem_cons.1 (show ∀ n ∈ p.name :: names k, _ from h)
      rw [fill_cons, fill_cons, ih hk, Atom.fill, Atom.fill, hp]

theorem bind_eq_self (h : ∀ n ∈ k.names, value n = none) : k.bind value = k := by
  induction k with
  | nil => rfl
  | cons a k ih =>
    cases a with
    | char c => rw [bind_cons, ih (by simpa using h)]; rfl
    | argument p =>
      obtain ⟨hp, hk⟩ := List.forall_mem_cons.1 (show ∀ n ∈ p.name :: names k, _ from h)
      rw [bind_cons, ih hk, Atom.bind, hp]
      rfl

theorem bind_of_closed (h : k.isOpen = false) : k.bind value = k :=
  bind_eq_self (by simp [isOpen_eq_false_iff.1 h])

theorem isOpen_bind_of_closed (h : k.isOpen = false) : (k.bind value).isOpen = false := by
  rw [bind_of_closed h, h]

theorem fill_of_closed (h : k.isOpen = false) : k.fill value = k.text := by
  rw [← fill_none]
  exact fill_congr (by simp [isOpen_eq_false_iff.1 h])

/-- Without open arguments there are characters only. -/
theorem eq_map_char_of_closed (h : k.isOpen = false) : k = k.text.map .char := by
  have hnames := isOpen_eq_false_iff.1 h
  clear h
  induction k with
  | nil => rfl
  | cons a k ih =>
    cases a with
    | char c => exact congrArg (Atom.char c :: ·) (ih hnames)
    | argument p => cases hnames

/-- Nothing between two slashes is a slash. -/
def Unslashed (k : Component) : Prop := ∀ a ∈ k, a.isSlash = false

theorem unslashed_of_mem_splitBy {atoms : List Atom} (h : k ∈ Text.splitBy Atom.isSlash atoms) :
    k.Unslashed := by
  intro a ha
  have hflat : a ∈ (Text.splitBy Atom.isSlash atoms).flatten := List.mem_flatten_of_mem h ha
  rw [Text.flatten_splitBy] at hflat
  simpa using (List.mem_filter.1 hflat).2

theorem Unslashed.text (h : k.Unslashed) (hclosed : k.isOpen = false) : '/' ∉ k.text := by
  intro hmem
  rw [eq_map_char_of_closed hclosed] at h
  have hslash := h (.char '/') (List.mem_map_of_mem hmem)
  cases hslash

end Component

namespace Segment

variable {m m' : NameMap Text} {value : Text → Option Text}

theorem atoms_of_get? (h : ∀ n, m'.get? n = (m.get? n).or (value n)) (s : Segment) :
    s.atoms m' = Component.bind value (s.atoms m) := by
  cases s with
  | literal t => exact (Component.bind_map_char t).symm
  | argument p =>
    cases hm : m.get? p.name with
    | some v => simp [atoms, h, hm]
    | none => cases hv : value p.name <;> simp [atoms, h, hm, hv, Component.bind_cons, Atom.bind]

theorem render_of_get? (h : ∀ n, m'.get? n = (m.get? n).or (value n)) (s : Segment) :
    s.render m'.get? = Component.fill value (s.atoms m) := by
  cases s with
  | literal t => exact (Component.fill_map_char t).symm
  | argument p =>
    cases hm : m.get? p.name with
    | some v => simp [atoms, render, h, hm]
    | none => simp [atoms, render, h, hm, Component.fill_cons, Atom.fill]

end Segment

theorem Atom.fill_of_isSlash {value : Text → Option Text} {a : Atom} (h : a.isSlash = true) :
    a.fill value = ['/'] := by
  cases of_decide_eq_true h
  rfl

namespace Crumb

variable {c : Crumb} {t : Assignment}

/-- The crumb with some bindings; names that are no arguments do nothing. -/
def bindAll (c : Crumb) (t : Assignment) : Crumb := { c with values := c.values.insertAll t }

theorem replace_eq_bindAll (h : ∀ b ∈ t, c.mentions b.name = true) :
    c.replace t = .ok (c.bindAll t) := by
  induction t generalizing c with
  | nil => rfl
  | cons b t ih =>
    obtain ⟨hb, ht⟩ := List.forall_mem_cons.1 h
    have hbind : c.bind b.name b.value =
        .ok { c with values := c.values.insert b.name b.value } := by
      rw [bind, checkName, if_pos hb]
      rfl
    rw [replace, List.foldlM_cons, hbind]
    exact ih ht

theorem bindAll_append (c : Crumb) (t u : Assignment) :
    c.bindAll (t ++ u) = (c.bindAll t).bindAll u := by
  simp [bindAll, NameMap.insertAll]

/-- The bindings are for open arguments, one for each. -/
structure Opens (c : Crumb) (t : Assignment) : Prop where
  nodup : t.names.Nodup
  isOpen : ∀ b ∈ t, b.name ∈ c.openNames

theorem Opens.mentions (h : c.Opens t) : ∀ b ∈ t, c.mentions b.name = true := fun b hb => by
  simpa [Crumb.mentions, Template.mentions, names] using (List.mem_filter.1 (h.isOpen b hb)).1

theorem Opens.replace (h : c.Opens t) : c.replace t = .ok (c.bindAll t) :=
  replace_eq_bindAll h.mentions

theorem Opens.get? (h : c.Opens t) (name : Text) :
    (c.bindAll t).values.get? name = (c.values.get? name).or (t.get? name) := by
  show (c.values.insertAll t).get? name = _
  rw [NameMap.get?_insertAll _ h.nodup]
  cases ht : t.get? name with
  | none => simp
  | some v =>
    have hopen := (List.mem_filter.1 (h.isOpen _ (Assignment.mem_of_get? ht))).2
    have hnone : c.values.get? name = none :=
      NameMap.contains_eq_false_iff.1 (by simpa using hopen)
    rw [hnone]
    rfl

theorem components_bindAll (h : c.Opens t) (hslash : ∀ b ∈ t, '/' ∉ b.value) :
    (c.bindAll t).components = c.components.map (Component.bind t.get?) := by
  have hatoms : (c.bindAll t).components = Text.splitBy Atom.isSlash
      ((c.template.segments.flatMap (Segment.atoms c.values)).flatMap (Atom.bind t.get?)) := by
    rw [List.flatMap_assoc, components, Component.ofTemplate]
    exact congrArg (Text.splitBy _ <| List.flatMap · c.template.segments)
      (funext fun s => Segment.atoms_of_get? h.get? s)
  rw [hatoms]
  refine Text.splitBy_flatMap (fun a _ ha => ?_) fun a _ ha b hb => ?_
  · cases of_decide_eq_true ha
    exact ⟨_, rfl, rfl⟩
  · cases a with
    | char c =>
      cases List.mem_singleton.1 hb
      exact ha
    | argument p =>
      simp only [Atom.bind] at hb
      split at hb
      · next v hv =>
        obtain ⟨x, hx, rfl⟩ := List.mem_map.1 hb
        refine decide_eq_false fun e => hslash _ (Assignment.mem_of_get? hv) ?_
        cases e
        exact hx
      · cases List.mem_singleton.1 hb
        rfl

theorem path_bindAll (h : c.Opens t) :
    (c.bindAll t).path = Text.join ['/'] (c.components.map (Component.fill t.get?)) := by
  have hrender : (c.bindAll t).path =
      (c.template.segments.flatMap (Segment.atoms c.values)).flatMap (Atom.fill t.get?) := by
    rw [List.flatMap_assoc]
    exact congrArg (List.flatMap · c.template.segments)
      (funext fun s => Segment.render_of_get? h.get? s)
  rw [hrender]
  exact (Text.join_map_splitBy fun a _ => Atom.fill_of_isSlash).symm

theorem path_eq_join (c : Crumb) : c.path = Text.join ['/'] (c.components.map Component.text) := by
  have h := path_bindAll (c := c) (t := []) ⟨.nil, nofun⟩
  have htext : Component.fill (Assignment.get? []) = Component.text := funext Component.fill_none
  rwa [htext] at h

theorem openNames_bindAll (h : c.Opens t) :
    (c.bindAll t).openNames = c.openNames.filter fun n => (t.get? n).isNone := by
  unfold openNames
  rw [List.filter_filter]
  refine List.filter_congr fun n _ => ?_
  rw [NameMap.contains, NameMap.contains, h.get?]
  cases c.values.get? n <;> cases t.get? n <;> rfl

end Crumb

end PathTemplates
