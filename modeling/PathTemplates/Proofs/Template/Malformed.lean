import PathTemplates.Proofs.Template.Grammar

namespace PathTemplates

namespace Template

variable {s t : Text} {n k : Nat} {r : Reading} {gs : List Segment}

/-- Some text that goes on from here is made of literals and arguments, whatever these are
called. -/
def Begins (s : Text) : Prop := ∃ rest, ∃ d : Template, d.Spells (s ++ rest)

theorem Begins.of_append (h : Begins (s ++ t)) : Begins s := by
  obtain ⟨rest, d, hd⟩ := h
  exact ⟨t ++ rest, d, List.append_assoc s t rest ▸ hd⟩

theorem Begins.take_of_le (h : Begins (s.take n)) (hle : k ≤ n) : Begins (s.take k) := by
  rw [← List.take_append_drop k (s.take n), List.take_take, Nat.min_eq_left hle] at h
  exact h.of_append

theorem exists_spells_iff :
    (∃ d : Template, d.Spells s) ↔ ∃ gs, readSegments (.literal []) 0 s = .ok gs := by
  constructor
  · rintro ⟨d, hallowed, rfl⟩
    exact ⟨_, readSegments_text hallowed⟩
  · intro ⟨gs, hgs⟩
    exact ⟨⟨gs⟩, spells_of_readSegments hgs Reading.sound_start⟩

theorem begins_iff :
    Begins s ↔ ∃ rest gs, readSegments (.literal []) 0 (s ++ rest) = .ok gs :=
  exists_congr fun _ => exists_spells_iff

/-- A character is refused whatever is behind it, or the reading goes on behind it. -/
theorem readSegments_cons (r : Reading) (n : Nat) (c : Char) :
    (∀ rest, readSegments r n (c :: rest) = .error (.malformed n)) ∨
      ∃ r' f, ∀ rest, readSegments r n (c :: rest) = (readSegments r' (n + 1) rest).map f := by
  have hgoes {r' : Reading}
      (h : ∀ rest, readSegments r n (c :: rest) = readSegments r' (n + 1) rest) :
      ∃ r' f, ∀ rest, readSegments r n (c :: rest) = (readSegments r' (n + 1) rest).map f :=
    ⟨r', id, fun rest => by rw [h rest, Except.map_id, id]⟩
  cases r with
  | literal seen =>
    by_cases hopen : c = '{'
    · exact .inr ⟨_, _, fun rest => if_pos hopen⟩
    · by_cases hclose : c = '}'
      · exact .inl fun rest => (if_neg hopen).trans (if_pos hclose)
      · exact .inr (hgoes fun rest => (if_neg hopen).trans (if_neg hclose))
  | name start seen =>
    by_cases hclose : c = '}'
    · exact .inr ⟨_, _, fun rest => if_pos hclose⟩
    · by_cases hcolon : c = ':'
      · exact .inr (hgoes fun rest => (if_neg hclose).trans (if_pos hcolon))
      · by_cases hname : isNameChar c = true
        · exact .inr (hgoes fun rest =>
            (if_neg hclose).trans ((if_neg hcolon).trans (if_pos hname)))
        · exact .inl fun rest => (if_neg hclose).trans ((if_neg hcolon).trans (if_neg hname))
  | pattern start label seen depth =>
    refine .inr ?_
    by_cases hopen : c = '{'
    · exact hgoes fun rest => if_pos hopen
    · by_cases hclose : c = '}'
      · subst hclose
        cases depth with
        | zero => exact ⟨_, _, fun rest => readSegments_end⟩
        | succ depth => exact hgoes fun rest => readSegments_close
      · exact hgoes fun rest => readSegments_char hopen hclose

/-- Whatever is being read can be brought to an end. -/
theorem exists_readSegments_eq_ok (r : Reading) (n : Nat) :
    ∃ rest gs, readSegments r n rest = .ok gs := by
  cases r with
  | literal seen => exact ⟨[], _, rfl⟩
  | name start seen => exact ⟨['}'], _, rfl⟩
  | pattern start label seen depth =>
    induction depth generalizing seen n with
    | zero => exact ⟨['}'], _, rfl⟩
    | succ depth ih =>
      obtain ⟨rest, gs, hrest⟩ := ih (n + 1) (seen ++ ['}'])
      exact ⟨'}' :: rest, gs, readSegments_close.trans hrest⟩

/-- A text that is refused has a front part that can be brought to an end, and the next character,
if there is one, keeps any text from being read. -/
theorem exists_front_of_malformed (h : readSegments r n s = .error (.malformed k)) :
    ∃ front behind, s = front ++ behind ∧ k = n + front.length ∧
      (∃ rest gs, readSegments r n (front ++ rest) = .ok gs) ∧
      ∀ c later, behind = c :: later →
        ∀ rest gs, readSegments r n (front ++ c :: rest) ≠ .ok gs := by
  induction s generalizing r n with
  | nil =>
    have hk : k = n := by
      cases r with
      | literal seen => cases h
      | name start seen => cases h; rfl
      | pattern start label seen depth => cases h; rfl
    exact ⟨[], [], rfl, hk, exists_readSegments_eq_ok r n, nofun⟩
  | cons c s ih =>
    obtain hrefused | ⟨r', f, hgoes⟩ := readSegments_cons r n c
    · have hk : k = n := by
        rw [hrefused] at h
        cases h
        rfl
      refine ⟨[], c :: s, rfl, hk, exists_readSegments_eq_ok r n, ?_⟩
      rintro d later ⟨rfl, rfl⟩ rest gs hok
      rw [List.nil_append, hrefused] at hok
      cases hok
    · rw [hgoes, map_eq_error_iff] at h
      obtain ⟨front, behind, rfl, rfl, ⟨rest, gs, hrest⟩, hstop⟩ := ih h
      refine ⟨c :: front, behind, rfl, by rw [List.length_cons]; omega, ⟨rest, f gs, ?_⟩, ?_⟩
      · rw [List.cons_append, hgoes, hrest]
        rfl
      · intro d later hd rest gs hok
        rw [List.cons_append, hgoes] at hok
        obtain ⟨gs', hgs', _⟩ := exists_of_map_eq_ok hok
        exact hstop d later hd rest gs' hgs'

theorem firstBadName_ne_malformed (earlier : List Text) (ps : List Placeholder) :
    firstBadName earlier ps ≠ some (.malformed n) := by
  induction ps generalizing earlier with
  | nil => simp [firstBadName]
  | cons p ps ih =>
    rw [firstBadName]
    split
    · simp
    · split
      · simp
      · exact ih _

theorem read_eq_malformed_iff :
    read s = .error (.malformed n) ↔ readSegments (.literal []) 0 s = .error (.malformed n) := by
  unfold read
  split
  · next e he => rw [he, Except.error.injEq, Except.error.injEq]
  · next gs hgs =>
    rw [hgs]
    refine ⟨fun h => ?_, nofun⟩
    split at h
    · next e hbad =>
      cases h
      exact absurd hbad (firstBadName_ne_malformed _ _)
    · cases h

/-- The text cannot be a template from `n` on: the part in front of the place begins one, and the
character there keeps every text from going on as one, or the text ends there and is none. -/
structure StopsAt (s : Text) (n : Nat) : Prop where
  le : n ≤ s.length
  begins : Begins (s.take n)
  stuck : n = s.length ∧ (¬∃ d : Template, d.Spells s) ∨
    n < s.length ∧ ¬Begins (s.take (n + 1))

theorem stopsAt_of_read (h : read s = .error (.malformed n)) : StopsAt s n := by
  rw [read_eq_malformed_iff] at h
  obtain ⟨front, behind, rfl, rfl, hfront, hstop⟩ := exists_front_of_malformed h
  have hbegins : Begins front := begins_iff.2 hfront
  rw [Nat.zero_add]
  refine ⟨by simp, by rwa [List.take_left], ?_⟩
  cases behind with
  | nil =>
    refine .inl ⟨by rw [List.append_nil], fun hspells => ?_⟩
    obtain ⟨gs, hgs⟩ := exists_spells_iff.1 hspells
    cases hgs.symm.trans h
  | cons c later =>
    refine .inr ⟨by simp, fun hbegins => ?_⟩
    obtain ⟨rest, gs, hgs⟩ := begins_iff.1 hbegins
    rw [List.take_length_add_append, List.append_assoc] at hgs
    exact hstop c later rfl rest gs hgs

theorem StopsAt.not_spells (h : StopsAt s n) : ¬∃ d : Template, d.Spells s := by
  obtain ⟨_, hnone⟩ | ⟨_, hnone⟩ := h.stuck
  · exact hnone
  · rintro ⟨d, hd⟩
    exact hnone ⟨s.drop (n + 1), d, by rwa [List.take_append_drop]⟩

/-- No longer part of the text begins a template. -/
theorem StopsAt.le_of_begins (h : StopsAt s n) (hk : k ≤ s.length) (hbegins : Begins (s.take k)) :
    k ≤ n := by
  obtain ⟨rfl, _⟩ | ⟨_, hnone⟩ := h.stuck
  · exact hk
  · exact Nat.le_of_not_lt fun hlt => hnone (hbegins.take_of_le hlt)

theorem StopsAt.unique (hn : StopsAt s n) (hk : StopsAt s k) : n = k :=
  Nat.le_antisymm (hk.le_of_begins hn.le hn.begins) (hn.le_of_begins hk.le hk.begins)

/-- A text is reported as malformed at the place where it stops being a template, and only there. -/
theorem read_malformed_iff (s : Text) (n : Nat) :
    read s = .error (.malformed n) ↔ StopsAt s n := by
  refine ⟨stopsAt_of_read, fun hstops => ?_⟩
  obtain ⟨gs, hgs⟩ | ⟨k, hk⟩ := readSegments_eq_or (.literal []) 0 s
  · exact absurd (exists_spells_iff.2 ⟨gs, hgs⟩) hstops.not_spells
  · have hread := read_eq_malformed_iff.2 hk
    rwa [(stopsAt_of_read hread).unique hstops] at hread

example : read ['{', 'a', ':', '{', '}'] = .error (.malformed 5) := rfl

end Template

end PathTemplates
