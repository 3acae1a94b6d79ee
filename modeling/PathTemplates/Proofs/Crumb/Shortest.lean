import PathTemplates.Proofs.Crumb.Matching

namespace PathTemplates

namespace Assignment

/-- How long the values are, in order. -/
def lengths (t : Assignment) : List Nat := t.map (·.value.length)

end Assignment

namespace Component

variable {k atoms : Component} {entry : Text} {t u : Assignment}

/-- The entry is the text of the component with these values, one for each argument in order. Each
value has a character, and no line feed. -/
structure ReadsAs (k : Component) (entry : Text) (t : Assignment) : Prop where
  names : t.names = k.names
  nonempty : ∀ b ∈ t, b.value ≠ []
  noFeed : ∀ b ∈ t, '\n' ∉ b.value
  fill : k.fill t.get? = entry

theorem decomposes_iff_readsAs (h : k.names.Nodup) : Decomposes k entry t ↔ k.ReadsAs entry t := by
  constructor
  · intro hd
    have hnodup : t.names.Nodup := hd.names_eq ▸ h
    exact ⟨hd.names_eq, fun b hb => (hd.of_mem b hb).1, fun b hb => (hd.of_mem b hb).2.1,
      hd.fill fun b hb => Assignment.get?_of_mem hnodup hb⟩
  · rintro ⟨hnames, hne, hfeed, rfl⟩
    have hnodup : t.names.Nodup := hnames ▸ h
    have hd : Decomposes k (k.fill t.get?) _ := decomposes_fill fun n hn => by
      rw [← hnames] at hn
      obtain ⟨b, hb, rfl⟩ := List.mem_map.1 hn
      exact ⟨b.value, Assignment.get?_of_mem hnodup hb, hne b hb, hfeed b hb⟩
    rwa [← hnames, Assignment.map_names hnodup] at hd

/-- No shorter value would have done. -/
theorem length_le_of_matchValue {rest : Text → Option Assignment} {r : Text × Assignment}
    {v behind : Text} (h : matchValue rest (v ++ behind) = some r) (hne : v ≠ [])
    (hrest : rest behind ≠ none) : r.1.length ≤ v.length := by
  induction v generalizing r with
  | nil => exact absurd rfl hne
  | cons c v ih =>
    rw [List.cons_append, matchValue] at h
    split at h
    · cases h
    · split at h
      · cases h
        simp
      · next hnone =>
        obtain ⟨r', hr', rfl⟩ := Option.map_eq_some_iff.1 h
        have hv : v ≠ [] := by
          rintro rfl
          exact hrest hnone
        exact Nat.succ_le_succ (ih hr' hv)

/-- Any other way to take the entry apart gives the first value that differs more characters. -/
theorem lengths_lt_of_matchAtoms (h : matchAtoms atoms entry = some t)
    (hu : Decomposes atoms entry u) : u = t ∨ t.lengths < u.lengths := by
  induction hu generalizing t with
  | nil =>
    cases h
    exact .inl rfl
  | char rest ih =>
    rw [matchAtoms, if_pos rfl] at h
    exact ih h
  | @argument p w atoms behind u nonempty noFeed rest ih =>
    obtain ⟨⟨v, found⟩, hr, rfl⟩ := Option.map_eq_some_iff.1 h
    obtain ⟨behind', hentry, hbehind⟩ := matchValue_eq_some hr
    obtain hlt | heq := Nat.lt_or_eq_of_le
      (length_le_of_matchValue hr nonempty (matchAtoms_ne_none rest))
    · exact .inr (List.Lex.rel hlt)
    · obtain ⟨rfl, rfl⟩ := List.append_inj hentry heq.symm
      obtain rfl | hlater := ih hbehind
      · exact .inl rfl
      · exact .inr (List.Lex.cons hlater)

theorem exists_matchAtoms_iff :
    (∃ t, matchAtoms atoms entry = some t) ↔ ∃ t, Decomposes atoms entry t :=
  ⟨fun ⟨t, ht⟩ => ⟨t, decomposes_of_matchAtoms ht⟩,
    fun ⟨_, ht⟩ => Option.ne_none_iff_exists'.1 (matchAtoms_ne_none ht)⟩

theorem matchAtoms_eq_some_iff : matchAtoms atoms entry = some t ↔
    Decomposes atoms entry t ∧ ∀ u, Decomposes atoms entry u → u = t ∨ t.lengths < u.lengths := by
  constructor
  · exact fun h => ⟨decomposes_of_matchAtoms h, fun _ hu => lengths_lt_of_matchAtoms h hu⟩
  · intro ⟨ht, hleast⟩
    obtain ⟨s, hs⟩ := exists_matchAtoms_iff.2 ⟨t, ht⟩
    obtain rfl | hlt := lengths_lt_of_matchAtoms hs ht
    · exact hs
    · obtain rfl | hgt := hleast s (decomposes_of_matchAtoms hs)
      · exact hs
      · exact absurd hlt (List.lt_asymm hgt)

end Component

namespace Crumb

variable {c : Crumb} {k : Component}

/-- A component that is one argument takes every entry as the value of that argument. Any other
takes an entry exactly if there are values with which it reads as that entry, and finds the ones
whose lengths come first in lexicographic order. -/
theorem matchEntry_shortest (h : k ∈ c.components) (entry : Text) :
    (∀ p, k = [.argument p] → k.matchEntry entry = some [⟨p.name, entry⟩]) ∧
      ((∀ p, k ≠ [.argument p]) →
        ((∃ t, k.matchEntry entry = some t) ↔ ∃ t, k.ReadsAs entry t) ∧
        ∀ t, k.matchEntry entry = some t ↔ k.ReadsAs entry t ∧
          ∀ u, k.ReadsAs entry u → u = t ∨ t.lengths < u.lengths) := by
  have hnodup := nodup_names_of_mem_components h
  refine ⟨?_, fun hk => ?_⟩
  · rintro p rfl
    exact Component.matchEntry_argument p entry
  · simp only [Component.matchEntry_eq_matchAtoms hk, ← Component.decomposes_iff_readsAs hnodup]
    exact ⟨Component.exists_matchAtoms_iff, fun t => Component.matchAtoms_eq_some_iff⟩

/-- In the name `s_1_2` the component `{a}_{b}` finds `s` and `1_2`, though `s_1` and `2` would do
as well. -/
theorem matchEntry_shortest_sample : ∃ (c : Crumb) (k : Component),
    read ['{', 'a', '}', '_', '{', 'b', '}'] {} = .ok c ∧ k ∈ c.components ∧
      k.ReadsAs ['s', '_', '1', '_', '2'] [⟨['a'], ['s', '_', '1']⟩, ⟨['b'], ['2']⟩] ∧
      k.matchEntry ['s', '_', '1', '_', '2'] =
        some [⟨['a'], ['s']⟩, ⟨['b'], ['1', '_', '2']⟩] ∧
      ∀ u, k.ReadsAs ['s', '_', '1', '_', '2'] u →
        u = [⟨['a'], ['s']⟩, ⟨['b'], ['1', '_', '2']⟩] ∨ [1, 3] < u.lengths := by
  let k : Component :=
    [.argument ⟨['a'], none, ⟨0, 3⟩⟩, .char '_', .argument ⟨['b'], none, ⟨4, 7⟩⟩]
  obtain ⟨c, hread, hk⟩ : ∃ c : Crumb,
      read ['{', 'a', '}', '_', '{', 'b', '}'] {} = .ok c ∧ k ∈ c.components :=
    ⟨_, rfl, List.mem_singleton_self _⟩
  have hother : k.ReadsAs ['s', '_', '1', '_', '2'] [⟨['a'], ['s', '_', '1']⟩, ⟨['b'], ['2']⟩] :=
    ⟨rfl, by decide, by decide, rfl⟩
  have hfound : k.matchEntry ['s', '_', '1', '_', '2'] =
      some [⟨['a'], ['s']⟩, ⟨['b'], ['1', '_', '2']⟩] := rfl
  obtain ⟨_, hpair⟩ := matchEntry_shortest hk ['s', '_', '1', '_', '2']
  obtain ⟨_, hleast⟩ := ((hpair (by simp [k])).2 _).1 hfound
  exact ⟨c, k, hread, hk, hother, hfound, hleast⟩

end Crumb

end PathTemplates
