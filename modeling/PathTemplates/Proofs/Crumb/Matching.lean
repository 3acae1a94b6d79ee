import PathTemplates.Proofs.Crumb.Binding

namespace PathTemplates

namespace Component

variable {k atoms : Component} {entry : Text} {bindings : Assignment}
  {value : Text → Option Text}

/-- With these values the atoms read as the entry. Each value has a character, and no line feed. -/
inductive Decomposes : List Atom → Text → Assignment → Prop
  | nil : Decomposes [] [] []
  | char {c atoms entry bindings} (rest : Decomposes atoms entry bindings) :
      Decomposes (.char c :: atoms) (c :: entry) bindings
  | argument {p v atoms entry bindings} (nonempty : v ≠ []) (noFeed : '\n' ∉ v)
      (rest : Decomposes atoms entry bindings) :
      Decomposes (.argument p :: atoms) (v ++ entry) (⟨p.name, v⟩ :: bindings)

theorem ne_nil_of_matchValue {rest : Text → Option Assignment} {r : Text × Assignment}
    (h : matchValue rest entry = some r) : r.1 ≠ [] ∧ '\n' ∉ r.1 := by
  induction entry generalizing r with
  | nil => cases h
  | cons c entry ih =>
    unfold matchValue at h
    split at h
    · cases h
    · next hc =>
      split at h
      · cases h
        exact ⟨by simp, by simpa using Ne.symm hc⟩
      · obtain ⟨r', hr', rfl⟩ := Option.map_eq_some_iff.1 h
        exact ⟨by simp, by simpa using ⟨Ne.symm hc, (ih hr').2⟩⟩

theorem decomposes_of_matchAtoms (h : matchAtoms atoms entry = some bindings) :
    Decomposes atoms entry bindings := by
  induction atoms generalizing entry bindings with
  | nil =>
    cases entry with
    | nil => cases h; exact .nil
    | cons c entry => cases h
  | cons a atoms ih =>
    cases a with
    | char c =>
      cases entry with
      | nil => cases h
      | cons d entry =>
        obtain ⟨e, hrest⟩ := Option.ite_none_right_eq_some.1 h
        subst e
        exact .char (ih hrest)
    | argument p =>
      obtain ⟨r, hr, rfl⟩ := Option.map_eq_some_iff.1 h
      obtain ⟨behind, rfl, hbehind⟩ := matchValue_eq_some hr
      obtain ⟨hne, hfeed⟩ := ne_nil_of_matchValue hr
      exact .argument hne hfeed (ih hbehind)

theorem matchValue_ne_none {rest : Text → Option Assignment} {v behind : Text} (hne : v ≠ [])
    (hfeed : '\n' ∉ v) (h : rest behind ≠ none) : matchValue rest (v ++ behind) ≠ none := by
  induction v with
  | nil => exact absurd rfl hne
  | cons c v ih =>
    simp only [List.mem_cons, not_or] at hfeed
    rw [List.cons_append, matchValue, if_neg (Ne.symm hfeed.1)]
    cases hrest : rest (v ++ behind) with
    | some bindings => simp
    | none =>
      by_cases hv : v = []
      · rw [hv] at hrest
        exact absurd hrest h
      · simpa using ih hv hfeed.2

theorem matchAtoms_ne_none (h : Decomposes atoms entry bindings) :
    matchAtoms atoms entry ≠ none := by
  induction h with
  | nil => simp [matchAtoms]
  | char rest ih => simpa [matchAtoms] using ih
  | argument nonempty noFeed rest ih =>
    simpa [matchAtoms] using matchValue_ne_none nonempty noFeed ih

theorem matchAtoms_eq_none_iff :
    matchAtoms atoms entry = none ↔ ∀ bindings, ¬Decomposes atoms entry bindings := by
  constructor
  · exact fun h bindings hd => matchAtoms_ne_none hd h
  · intro h
    cases hm : matchAtoms atoms entry with
    | none => rfl
    | some bindings => exact absurd (decomposes_of_matchAtoms hm) (h bindings)

theorem Decomposes.names_eq (h : Decomposes atoms entry bindings) :
    bindings.names = names atoms := by
  induction h with
  | nil => rfl
  | char rest ih => exact ih
  | argument nonempty noFeed rest ih => exact congrArg (_ :: ·) ih

theorem Decomposes.of_mem (h : Decomposes atoms entry bindings) :
    ∀ b ∈ bindings, b.value ≠ [] ∧ '\n' ∉ b.value ∧ ∀ c ∈ b.value, c ∈ entry := by
  induction h with
  | nil => simp
  | char rest ih =>
    intro b hb
    obtain ⟨hne, hfeed, hmem⟩ := ih b hb
    exact ⟨hne, hfeed, fun c hc => List.mem_cons_of_mem _ (hmem c hc)⟩
  | argument nonempty noFeed rest ih =>
    refine List.forall_mem_cons.2 ⟨⟨nonempty, noFeed, fun c hc => List.mem_append_left _ hc⟩, ?_⟩
    intro b hb
    obtain ⟨hne, hfeed, hmem⟩ := ih b hb
    exact ⟨hne, hfeed, fun c hc => List.mem_append_right _ (hmem c hc)⟩

theorem Decomposes.fill (h : Decomposes atoms entry bindings)
    (hvalue : ∀ b ∈ bindings, value b.name = some b.value) : atoms.fill value = entry := by
  induction h with
  | nil => rfl
  | char rest ih => exact congrArg (_ :: ·) (ih hvalue)
  | argument nonempty noFeed rest ih =>
    obtain ⟨hv, hrest⟩ := List.forall_mem_cons.1 hvalue
    rw [fill_cons, ih hrest, Atom.fill, hv]
    rfl

/-- Any values will do to take the text apart that they have been filled into. -/
theorem decomposes_fill (h : ∀ n ∈ names atoms, ∃ v, value n = some v ∧ v ≠ [] ∧ '\n' ∉ v) :
    Decomposes atoms (atoms.fill value)
      ((names atoms).map fun n => ⟨n, (value n).getD []⟩) := by
  induction atoms with
  | nil => exact .nil
  | cons a atoms ih =>
    cases a with
    | char c => exact .char (ih h)
    | argument p =>
      obtain ⟨⟨v, hv, hne, hfeed⟩, hrest⟩ :=
        List.forall_mem_cons.1 (show ∀ n ∈ p.name :: names atoms, _ from h)
      rw [fill_cons, names_argument, List.map_cons, Atom.fill, hv]
      exact .argument hne hfeed (ih hrest)

theorem matchAtoms_map_char_append (t : Text) (atoms : List Atom) (entry : Text) :
    matchAtoms (t.map .char ++ atoms) (t ++ entry) = matchAtoms atoms entry := by
  induction t with
  | nil => rfl
  | cons c t ih =>
    rw [List.map_cons, List.cons_append, List.cons_append, matchAtoms, if_pos rfl, ih]

theorem exists_decomposes_of_map_char_append {t : Text}
    (h : Decomposes (t.map .char ++ atoms) entry bindings) :
    ∃ behind, entry = t ++ behind ∧ Decomposes atoms behind bindings := by
  induction t generalizing entry with
  | nil => exact ⟨entry, rfl, h⟩
  | cons c t ih =>
    cases h with
    | char rest =>
      obtain ⟨behind, rfl, hbehind⟩ := ih rest
      exact ⟨behind, rfl, hbehind⟩

/-- What can be taken apart with some values bound can be taken apart without. -/
theorem exists_decomposes_of_bind
    (hvalue : ∀ n ∈ names atoms, ∀ v, value n = some v → v ≠ [] ∧ '\n' ∉ v)
    (h : Decomposes (atoms.bind value) entry bindings) :
    ∃ bindings', Decomposes atoms entry bindings' := by
  induction atoms generalizing entry bindings with
  | nil => exact ⟨bindings, h⟩
  | cons a atoms ih =>
    cases a with
    | char c =>
      cases h with
      | char rest =>
        obtain ⟨bindings', h'⟩ := ih hvalue rest
        exact ⟨bindings', .char h'⟩
    | argument p =>
      obtain ⟨hp, hrest⟩ := List.forall_mem_cons.1
        (show ∀ n ∈ p.name :: names atoms, _ from hvalue)
      cases hv : value p.name with
      | some v =>
        simp only [bind_cons, Atom.bind, hv] at h
        obtain ⟨behind, rfl, hbehind⟩ := exists_decomposes_of_map_char_append h
        obtain ⟨bindings', h'⟩ := ih hrest hbehind
        exact ⟨_, .argument (hp v hv).1 (hp v hv).2 h'⟩
      | none =>
        simp only [bind_cons, Atom.bind, hv, List.singleton_append] at h
        cases h with
        | argument nonempty noFeed rest =>
          obtain ⟨bindings', h'⟩ := ih hrest rest
          exact ⟨_, .argument nonempty noFeed h'⟩

/-- The shortest value stays the shortest one if what is read behind it becomes harder to read. -/
theorem matchValue_congr {rest rest' : Text → Option Assignment} {v : Text}
    {found found' : Assignment} (h : matchValue rest entry = some (v, found))
    (hsome : ∀ behind, entry = v ++ behind → rest' behind = some found')
    (hnone : ∀ x, rest x = none → rest' x = none) :
    matchValue rest' entry = some (v, found') := by
  induction entry generalizing v with
  | nil => cases h
  | cons c entry ih =>
    unfold matchValue at h ⊢
    split at h
    · cases h
    · next hc =>
      rw [if_neg hc]
      split at h
      · cases h
        rw [hsome entry rfl]
      · next hrest =>
        obtain ⟨⟨v', _⟩, hr, e⟩ := Option.map_eq_some_iff.1 h
        cases e
        rw [hnone _ hrest, ih hr fun behind e => hsome behind (congrArg (c :: ·) e)]
        rfl

/-- Where nothing is found, nothing is found with values bound that have been found elsewhere. -/
theorem matchAtoms_bind_eq_none {behind : Text} (h : matchAtoms atoms behind = some bindings)
    (hvalue : ∀ b ∈ bindings, ∀ v, value b.name = some v → v = b.value)
    (hnone : matchAtoms atoms entry = none) : matchAtoms (atoms.bind value) entry = none := by
  have hd := decomposes_of_matchAtoms h
  rw [matchAtoms_eq_none_iff] at hnone ⊢
  intro bindings' hbind
  refine absurd (exists_decomposes_of_bind (fun n hn v hv => ?_) hbind) (not_exists.2 hnone)
  rw [← hd.names_eq] at hn
  obtain ⟨b, hb, rfl⟩ := List.mem_map.1 hn
  obtain ⟨hne, hfeed, _⟩ := hd.of_mem b hb
  rw [hvalue b hb v hv]
  exact ⟨hne, hfeed⟩

theorem matchAtoms_bind (h : matchAtoms atoms entry = some bindings)
    (hvalue : ∀ b ∈ bindings, ∀ v, value b.name = some v → v = b.value) :
    matchAtoms (atoms.bind value) entry =
      some (bindings.filter fun b => (value b.name).isNone) := by
  induction atoms generalizing entry bindings with
  | nil =>
    cases entry with
    | nil => cases h; rfl
    | cons c entry => cases h
  | cons a atoms ih =>
    cases a with
    | char c =>
      cases entry with
      | nil => cases h
      | cons d entry =>
        obtain ⟨e, hmatch⟩ := Option.ite_none_right_eq_some.1 h
        subst e
        have hrest := ih hmatch hvalue
        simpa [bind_cons, Atom.bind, matchAtoms] using hrest
    | argument p =>
      obtain ⟨⟨v, found⟩, hr, rfl⟩ := Option.map_eq_some_iff.1 h
      obtain ⟨behind, hentry, hbehind⟩ := matchValue_eq_some hr
      obtain ⟨hv, hfound⟩ := List.forall_mem_cons.1 hvalue
      have hrest := ih hbehind hfound
      cases hp : value p.name with
      | some w =>
        cases hv w hp
        simp only [bind_cons, Atom.bind, hp, hentry, matchAtoms_map_char_append, hrest]
        simp [hp]
      | none =>
        -- The argument stays open: its value is the shortest one still, since no shorter one leaves
        -- a text that the bound atoms fit.
        have hvalue' := matchValue_congr hr
          (fun x e => List.append_cancel_left (hentry.symm.trans e) ▸ hrest)
          fun x => matchAtoms_bind_eq_none hbehind hfound
        simp only [bind_cons, Atom.bind, hp, List.singleton_append, matchAtoms, hvalue']
        simp [hp]

theorem matchEntry_argument (p : Placeholder) (entry : Text) :
    matchEntry [.argument p] entry = some [⟨p.name, entry⟩] := rfl

theorem matchEntry_eq_matchAtoms (h : ∀ p, k ≠ [.argument p]) (entry : Text) :
    k.matchEntry entry = matchAtoms k entry := by
  unfold matchEntry
  split
  · next p => exact absurd rfl (h p)
  · exact headD_matchTable _ entry

/-- The whole entry is the shortest value for a single argument too. -/
theorem matchEntry_of_matchAtoms (h : matchAtoms k entry = some bindings) :
    k.matchEntry entry = some bindings := by
  unfold matchEntry
  split
  · next p =>
    cases decomposes_of_matchAtoms h with
    | argument _ _ rest =>
      cases rest
      simp
  · rw [headD_matchTable, h]

theorem matchEntry_eq_some (h : k.matchEntry entry = some bindings) :
    (∃ p, k = [.argument p] ∧ bindings = [⟨p.name, entry⟩]) ∨
      matchAtoms k entry = some bindings ∧ ∀ p, k ≠ [.argument p] := by
  unfold matchEntry at h
  split at h
  · next p => exact .inl ⟨p, rfl, (Option.some.inj h).symm⟩
  · next hk => exact .inr ⟨by rwa [headD_matchTable] at h, hk⟩

/-- The name of the entry is the component with the values filled in. -/
theorem fill_of_matchEntry (h : k.matchEntry entry = some bindings)
    (hvalue : ∀ b ∈ bindings, value b.name = some b.value) : k.fill value = entry := by
  obtain ⟨p, rfl, rfl⟩ | ⟨hmatch, _⟩ := matchEntry_eq_some h
  · have hp := hvalue _ (List.mem_singleton_self _)
    simp [fill_cons, Atom.fill, hp]
  · exact (decomposes_of_matchAtoms hmatch).fill hvalue

theorem value_of_matchEntry (hentry : entry ≠ []) (h : k.matchEntry entry = some bindings) :
    ∀ b ∈ bindings, b.value ≠ [] ∧ ∀ c ∈ b.value, c ∈ entry := by
  obtain ⟨p, rfl, rfl⟩ | ⟨hmatch, _⟩ := matchEntry_eq_some h
  · simpa using hentry
  · intro b hb
    obtain ⟨hne, _, hmem⟩ := (decomposes_of_matchAtoms hmatch).of_mem b hb
    exact ⟨hne, hmem⟩

/-- To bind some of the values that have been found leaves the others as they are. -/
theorem matchEntry_bind (h : k.matchEntry entry = some bindings)
    (hvalue : ∀ b ∈ bindings, ∀ v, value b.name = some v → v = b.value) :
    (k.bind value).matchEntry entry =
      some (bindings.filter fun b => (value b.name).isNone) := by
  obtain ⟨p, rfl, rfl⟩ | ⟨hmatch, _⟩ := matchEntry_eq_some h
  · cases hp : value p.name with
    | none => simp [bind_cons, Atom.bind, hp, matchEntry_argument]
    | some v =>
      have hv : v = entry := hvalue _ (List.mem_singleton_self _) v hp
      have hchars := matchAtoms_map_char_append entry [] []
      rw [List.append_nil, List.append_nil] at hchars
      simp only [bind_cons, bind_nil, Atom.bind, hp, hv, List.append_nil]
      rw [matchEntry_of_matchAtoms hchars]
      simp [hp]
  · exact matchEntry_of_matchAtoms (matchAtoms_bind hmatch hvalue)

/-- The text tells the value of the only argument. -/
theorem eq_of_fill_eq {other : Text → Option Text} {n v w : Text} (hnames : k.names = [n])
    (hv : value n = some v) (hw : other n = some w) (h : k.fill value = k.fill other) : v = w := by
  induction k with
  | nil => cases hnames
  | cons a k ih =>
    cases a with
    | char c => exact ih hnames (List.append_cancel_left h)
    | argument p =>
      obtain ⟨rfl, hrest⟩ := List.cons_eq_cons.1 (show p.name :: names k = [n] from hnames)
      have hclosed : fill value k = fill other k := fill_congr (by simp [hrest])
      rw [fill_cons, fill_cons, hclosed, Atom.fill, Atom.fill, hv, hw] at h
      exact List.append_cancel_right h

/-- The value of the only argument is found again in the text that it has been filled into, but for
a line feed next to other atoms. -/
theorem matchEntry_fill_iff {n v : Text} (hnames : k.names = [n]) (hv : value n = some v)
    (hne : v ≠ []) :
    k.matchEntry (k.fill value) = some bindings ↔
      bindings = [⟨n, v⟩] ∧ ('\n' ∈ v → k.length = 1) := by
  have hfound {bindings : Assignment} (h : k.matchEntry (k.fill value) = some bindings) :
      bindings = [⟨n, v⟩] ∧ ('\n' ∈ v → k.length = 1) := by
    obtain ⟨p, rfl, rfl⟩ | ⟨hmatch, _⟩ := matchEntry_eq_some h
    · cases hnames
      refine ⟨?_, fun _ => rfl⟩
      simp [fill_cons, Atom.fill, hv]
    · have hd := decomposes_of_matchAtoms hmatch
      obtain ⟨b, rfl, rfl⟩ := List.map_eq_singleton_iff.1 (hd.names_eq.trans hnames)
      obtain ⟨_, hfeed, _⟩ := hd.of_mem b (List.mem_singleton_self b)
      have hfill : k.fill (fun _ => some b.value) = k.fill value :=
        hd.fill fun b' hb' => by rw [List.mem_singleton.1 hb']
      obtain rfl : v = b.value := eq_of_fill_eq hnames hv rfl hfill.symm
      exact ⟨rfl, fun h => absurd h hfeed⟩
  refine ⟨hfound, ?_⟩
  rintro ⟨rfl, halone⟩
  by_cases hfeed : '\n' ∈ v
  · obtain ⟨a, rfl⟩ := List.length_eq_one_iff.1 (halone hfeed)
    cases a with
    | char c => cases hnames
    | argument p =>
      cases hnames
      simp [fill_cons, Atom.fill, hv, matchEntry_argument]
  · have hd : Decomposes k (k.fill value) _ := decomposes_fill fun m hm => by
      rw [hnames, List.mem_singleton] at hm
      exact ⟨v, hm ▸ hv, hne, hfeed⟩
    obtain ⟨bindings, hmatch⟩ := Option.ne_none_iff_exists'.1 (matchAtoms_ne_none hd)
    have hentry := matchEntry_of_matchAtoms hmatch
    rw [hentry, (hfound hentry).1]

end Component

end PathTemplates
