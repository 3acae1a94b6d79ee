import PathTemplates.Command.Invocation
import PathTemplates.Proofs.Outcome
import PathTemplates.Proofs.Text.Pieces
import PathTemplates.Proofs.Text.Trimming

namespace PathTemplates

variable {piece s : Text} {b : Binding} {t : Assignment}

namespace Text

/-- There is an equals sign, and something that is no blank in front of the first one. -/
def IsNamed (piece : Text) : Prop :=
  ∃ before value, piece = before ++ '=' :: value ∧ '=' ∉ before ∧ ∃ c ∈ before, isBlank c = false

/-- The text in front of the first equals sign is the name of the binding, with blanks around it
perhaps, and all that is behind the sign is its value. -/
structure Writes (piece : Text) (b : Binding) : Prop where
  name_ne_nil : b.name ≠ []
  trimmed : Trimmed isBlank b.name
  first : '=' ∉ b.name
  spelled : ∃ left right, piece = left ++ b.name ++ right ++ '=' :: b.value ∧
    (∀ c ∈ left, isBlank c = true) ∧ ∀ c ∈ right, isBlank c = true

end Text

namespace Invocation

theorem not_mem_of_blanks {blanks : Text} (h : ∀ c ∈ blanks, isBlank c = true) : '=' ∉ blanks :=
  fun hmem => by
    have hblank : isBlank '=' = true := h _ hmem
    exact absurd hblank (by decide)

theorem readBinding_eq_some_iff : readBinding piece = some b ↔ piece.Writes b := by
  constructor
  · intro h
    unfold readBinding at h
    split at h
    · cases h
    · next before value hcut =>
      obtain ⟨hfree, rfl⟩ := Text.cut_eq_some_iff.1 hcut
      dsimp only at h
      obtain ⟨hname, e⟩ := Option.ite_none_left_eq_some.1 h
      cases e
      obtain ⟨htrimmed, left, right, hbefore, hblanks⟩ := Text.trim_eq_iff.1 rfl
      refine ⟨hname, htrimmed, fun hmem => hfree ?_, left, right, ?_, hblanks⟩
      · rw [hbefore]
        exact List.mem_append_left _ (List.mem_append_right _ hmem)
      · exact congrArg (· ++ '=' :: value) hbefore
  · rintro ⟨hname, htrimmed, hfirst, left, right, rfl, hleft, hright⟩
    -- An equals sign is no blank, so the first one stands behind the name.
    have hfree : '=' ∉ left ++ b.name ++ right := by
      simp [not_mem_of_blanks hleft, not_mem_of_blanks hright, hfirst]
    have htrim : Text.trim isBlank (left ++ b.name ++ right) = b.name :=
      Text.trim_append hleft hright htrimmed
    rw [readBinding, Text.cut_append hfree]
    dsimp only
    rw [htrim, if_neg hname]

theorem isNamed_iff : piece.IsNamed ↔ ∃ b, readBinding piece = some b := by
  constructor
  · rintro ⟨before, value, rfl, hfree, c, hc, hblank⟩
    have hname : before.trim isBlank ≠ [] := fun hnil => by
      rw [Text.trim_eq_nil_iff.1 hnil c hc] at hblank
      cases hblank
    refine ⟨⟨before.trim isBlank, value⟩, ?_⟩
    rw [readBinding, Text.cut_append hfree]
    exact if_neg hname
  · rintro ⟨b, hb⟩
    obtain ⟨hname, htrimmed, hfirst, left, right, rfl, hleft, hright⟩ :=
      readBinding_eq_some_iff.1 hb
    obtain ⟨c, rest, hrest⟩ := List.exists_cons_of_ne_nil hname
    refine ⟨left ++ b.name ++ right, b.value, rfl, ?_, c, ?_, htrimmed.head c rest hrest⟩
    · simp [not_mem_of_blanks hleft, not_mem_of_blanks hright, hfirst]
    · simp [hrest]

theorem readRow_eq_some_iff : readRow s = some t ↔
    ∃ pieces, Text.Separated ',' pieces s ∧ List.Forall₂ Text.Writes pieces t := by
  simp only [Text.separated_iff, exists_eq_left', readRow, mapM_eq_some_iff,
    readBinding_eq_some_iff]

theorem exists_readRow_iff : (∃ t, readRow s = some t) ↔
    ∃ pieces, Text.Separated ',' pieces s ∧ ∀ p ∈ pieces, p.IsNamed := by
  simp only [Text.separated_iff, exists_eq_left', readRow, isNamed_iff, exists_mapM_eq_some_iff]

end Invocation

namespace Binding

/-- The binding as a piece of a row. -/
def equation (b : Binding) : Text := b.name ++ '=' :: b.value

/-- Nothing in the binding is lost in a row, and nothing in it ends its name or its piece. -/
structure Plain (b : Binding) : Prop where
  name_ne_nil : b.name ≠ []
  trimmed : Text.Trimmed isBlank b.name
  comma_not_mem_name : ',' ∉ b.name
  equals_not_mem_name : '=' ∉ b.name
  comma_not_mem_value : ',' ∉ b.value

theorem Plain.comma_not_mem (h : b.Plain) : ',' ∉ b.equation := by
  simp [equation, h.comma_not_mem_name, h.comma_not_mem_value]

theorem Plain.writes (h : b.Plain) : b.equation.Writes b :=
  ⟨h.name_ne_nil, h.trimmed, h.equals_not_mem_name, [], [], by simp [equation], by simp, by simp⟩

/-- A piece without a comma writes nothing but plain bindings. -/
theorem plain_of_writes (h : piece.Writes b) (hcomma : ',' ∉ piece) : b.Plain := by
  obtain ⟨hname, htrimmed, hfirst, left, right, rfl, -, -⟩ := h
  simp only [List.mem_append, List.mem_cons, not_or] at hcomma
  exact ⟨hname, htrimmed, hcomma.1.1.2, hfirst, hcomma.2.2⟩

end Binding

namespace Assignment

/-- The bindings as one row, with commas between them. -/
def equations (t : Assignment) : Text := Text.join [','] (t.map Binding.equation)

theorem plain_of_writes {pieces : List Text} (h : List.Forall₂ Text.Writes pieces t)
    (hfree : ∀ p ∈ pieces, ',' ∉ p) : ∀ b ∈ t, b.Plain := by
  induction h with
  | nil => exact fun b hb => nomatch hb
  | cons hwrites _ ih =>
    obtain ⟨hp, hps⟩ := List.forall_mem_cons.1 hfree
    exact List.forall_mem_cons.2 ⟨Binding.plain_of_writes hwrites hp, ih hps⟩

theorem separated_equations (hne : t ≠ []) (h : ∀ b ∈ t, b.Plain) :
    Text.Separated ',' (t.map Binding.equation) t.equations where
  ne_nil := fun hnil => hne (List.map_eq_nil_iff.1 hnil)
  free := List.forall_mem_map.2 fun b hb => (h b hb).comma_not_mem
  joined := rfl

end Assignment

namespace Invocation

theorem readRow_equations (hne : t ≠ []) (h : ∀ b ∈ t, b.Plain) :
    readRow t.equations = some t := by
  refine readRow_eq_some_iff.2 ⟨_, Assignment.separated_equations hne h, ?_⟩
  rw [List.forall₂_map_left_iff, List.forall₂_same]
  exact fun b hb => (h b hb).writes

theorem plain_of_readRow (h : readRow s = some t) : t ≠ [] ∧ ∀ b ∈ t, b.Plain := by
  obtain ⟨pieces, ⟨hne, hfree, -⟩, hwrites⟩ := readRow_eq_some_iff.1 h
  refine ⟨?_, Assignment.plain_of_writes hwrites hfree⟩
  rintro rfl
  exact hne (List.forall₂_nil_right_iff.1 hwrites)

/-- A text is a row if each of its pieces between commas has a name in front of its first equals
sign. The row has a binding for each piece, in turn: its name has no blanks around it, and its value
is all that is behind the sign. Rows of plain bindings are found again after they have been written,
and no others. -/
theorem readRow_exact :
    (∀ s, (∃ t, readRow s = some t) ↔
      ∃ pieces, Text.Separated ',' pieces s ∧ ∀ p ∈ pieces, p.IsNamed) ∧
    (∀ s t, readRow s = some t ↔
      ∃ pieces, Text.Separated ',' pieces s ∧ List.Forall₂ Text.Writes pieces t) ∧
    ∀ t : Assignment, readRow t.equations = some t ↔ t ≠ [] ∧ ∀ b ∈ t, b.Plain :=
  ⟨fun _ => exists_readRow_iff, fun _ _ => readRow_eq_some_iff,
    fun _ => ⟨plain_of_readRow, fun h => readRow_equations h.1 h.2⟩⟩

example : readRow [' ', 'a', '\t', '=', ' ', '1', '=', '2', ',', 'b', '='] =
    some [⟨['a'], [' ', '1', '=', '2']⟩, ⟨['b'], []⟩] := rfl

end Invocation

end PathTemplates
