import PathTemplates.Pattern
import PathTemplates.Proofs.Regex.Groups
import PathTemplates.Proofs.Regex.Matching

namespace PathTemplates

namespace Regex

open Reader

variable {f : Flags} {s rest rest' : Text} {e e' : Nested CharExpr} {x : CharExpr} {n room : Nat}
  {names : List Text}

/-- What is read of a text, up to its end or to a parenthesis that closes no group of it, if groups
may be nested at will. -/
def Reads (f : Flags) (s : Text) (e : Nested CharExpr) (rest : Text) : Prop :=
  ∃ room names, readAlternatives (s.length + 1) room f [] .start s = some (e, names, rest)

/-- The text is an expression by itself. -/
def Stands (f : Flags) (s : Text) (e : Nested CharExpr) : Prop := Reads f s e []

/-- The text has a parenthesis that closes no group of it. -/
def ClosesOutside (f : Flags) (s : Text) : Prop := ∃ e rest, Reads f s e (')' :: rest)

/-- The text is the same expression with a parenthesis behind it, which is then part of a
comment. -/
def EndsInComment (f : Flags) (s : Text) : Prop := ∃ e, Stands f s e ∧ Stands f (s ++ [')']) e

theorem alternatives_eq_some_iff {o : OpenAlternatives} {names' : List Text} :
    alternatives n room f names o s = some ((e, names'), rest) ↔
      readAlternatives n room f names o s = some (e, names', rest) := by
  rw [alternatives, Option.map_eq_some_iff]
  constructor
  · rintro ⟨⟨_, _, _⟩, h, hp⟩
    cases hp
    exact h
  · exact fun h => ⟨_, h, rfl⟩

theorem reads_of_alternatives (hn : s.length < n)
    (h : alternatives n room f [] .start s = some ((e, names), rest)) : Reads f s e rest := by
  rw [← agree_alternatives room f [] .start hn s s.length.lt_succ_self] at h
  exact ⟨room, names, alternatives_eq_some_iff.1 h⟩

namespace Reads

theorem alternatives (h : Reads f s e rest) (hn : s.length < n) (hroom : e.depth ≤ room) :
    ∃ names, alternatives n room f [] .start s = some ((e, names), rest) := by
  obtain ⟨room', names, h⟩ := h
  have hread := alternatives_eq_some_iff.2 h
  rw [agree_alternatives room' f [] .start hn s s.length.lt_succ_self] at hread
  exact ⟨names, (roomy_alternatives n room' room f [] .start s _ _ hread).2 hroom⟩

theorem unique (h : Reads f s e rest) (h' : Reads f s e' rest') : e = e' ∧ rest = rest' := by
  obtain ⟨names, h⟩ := h.alternatives s.length.lt_succ_self (le_max_left e.depth e'.depth)
  obtain ⟨names', h'⟩ := h'.alternatives s.length.lt_succ_self (le_max_right e.depth e'.depth)
  cases h.symm.trans h'
  exact ⟨rfl, rfl⟩

theorem suffix (h : Reads f s e rest) : rest <:+ s := by
  obtain ⟨names, h⟩ := h.alternatives s.length.lt_succ_self le_rfl
  exact (steady_alternatives _ _ f [] .start).suffix h

end Reads

/-- An expression is a text that stands by itself and is not nested too deeply. -/
theorem read_eq_some_iff :
    read f s = some x ↔ ∃ e, Stands f s e ∧ e.depth ≤ Nesting.limit ∧ e.value = x := by
  unfold read
  constructor
  · intro h
    split at h
    next e names hread =>
      obtain ⟨hdepth, hx⟩ := Option.ite_none_right_eq_some.1 h
      exact ⟨e, ⟨_, names, hread⟩, hdepth, Option.some.inj hx⟩
    · cases h
  · rintro ⟨e, hstands, hdepth, rfl⟩
    obtain ⟨names, h⟩ := hstands.alternatives s.length.lt_succ_self hdepth
    rw [alternatives_eq_some_iff.1 h]
    exact if_pos hdepth

/-- Only a text that is no expression by itself closes anything outside. -/
theorem Stands.not_closesOutside (h : Stands f s e) : ¬ ClosesOutside f s :=
  fun ⟨_, _, houtside⟩ => nomatch (h.unique houtside).2

theorem ClosesOutside.mem (h : ClosesOutside f s) : ')' ∈ s := by
  obtain ⟨e, rest, h⟩ := h
  exact h.suffix.mem (List.mem_cons_self ..)

/-- With a parenthesis behind it, an expression is followed by the parenthesis or ends in a
comment. -/
theorem Stands.concat (h : Stands f s e) :
    Reads f (s ++ [')']) e [')'] ∨ HasSign s ∧ Stands f (s ++ [')']) e := by
  have hlength : (s ++ [')']).length = s.length + 1 := List.length_append
  obtain ⟨names, h⟩ := h.alternatives (n := s.length + 2) (by omega) le_rfl
  have hsteady := steady_alternatives (s.length + 2) e.depth f [] .start s
  rw [h] at hsteady
  generalize hy : alternatives (s.length + 2) e.depth f [] .start (s ++ [')']) = y at hsteady
  cases hsteady with
  | kept _ _ => exact .inl (reads_of_alternatives (by omega) hy)
  | swallowed _ hsign => exact .inr ⟨hsign, reads_of_alternatives (by omega) hy⟩

/-- Where a parenthesis is left with one put behind the text, it is that one or one of the text that
closes no group of it. -/
theorem stands_of_concat (h : Reads f (s ++ [')']) e (')' :: rest))
    (hclosed : ¬ ClosesOutside f s) : Stands f s e ∧ rest = [] := by
  have hlength : (s ++ [')']).length = s.length + 1 := List.length_append
  obtain ⟨names, h⟩ := h.alternatives (n := s.length + 2) (by omega) le_rfl
  have hsteady := steady_alternatives (s.length + 2) e.depth f [] .start s
  rw [h] at hsteady
  generalize hx : alternatives (s.length + 2) e.depth f [] .start s = x at hsteady
  generalize hleft : ')' :: rest = left at hsteady
  cases hsteady with
  | @kept _ r _ =>
    have hread := reads_of_alternatives (by omega) hx
    -- without the one behind the text, either nothing is left or another parenthesis in front
    rcases r with _ | ⟨c, r⟩
    · cases hleft
      exact ⟨hread, rfl⟩
    · cases hleft
      exact absurd ⟨e, r, hread⟩ hclosed
  | swallowed _ _ => cases hleft
  | lost h => cases hleft.trans h

/-- Only a text with a number sign in its last line ends in a comment. -/
theorem EndsInComment.hasSign (h : EndsInComment f s) : HasSign s := by
  obtain ⟨e, hstands, hclosed⟩ := h
  rcases hstands.concat with hleft | ⟨hsign, _⟩
  · cases (hclosed.unique hleft).2
  · exact hsign

/-- The start of the text has been read. -/
def anchor : OpenAlternatives := .push .start (.check .textStart) 0

/-- The expression tied to the start of the text. -/
def tied (e : Nested CharExpr) : Nested CharExpr :=
  ⟨.seq (.check .textStart) e.value, e.depth + 2⟩

theorem expr_anchor_push (e : Nested CharExpr) :
    (anchor.push e.value (e.depth + 1)).expr = tied e := by
  have hdepth : (anchor.push e.value (e.depth + 1)).expr.depth = e.depth + 2 := by
    show max (max 0 (e.depth + 1)) 0 + 1 = e.depth + 2
    omega
  exact congrArg (Nested.mk _) hdepth

theorem alternatives_nil {o : OpenAlternatives} :
    alternatives (n + 1) room f names o [] = some ((o.expr, names), []) := by
  rw [alternatives_succ, skipped_bind, skip_nil]
  exact if_pos (.inl rfl)

theorem alternatives_anchored (hline : f.multiLine = false) :
    alternatives (n + 2) (room + 1) f [] .start (Pattern.anchored s) =
      grouped n room f f [] anchor (s ++ [')']) := by
  have hcaret (rest : Text) : readItem f ('^' :: rest) = some (.check .textStart, rest) := by
    simp [readItem, hline]
  have hgroup (rest : Text) : readGroupHead ('?' :: ':' :: rest) = some (.group [], rest) := by
    simp [readGroupHead_eq, switchesHead, headOf, isSwitch, Flags.wellFormed]
  have hskip {c : Char} {rest : Text} (hblank : isBlank c = false) (hsign : c ≠ '#') :
      skip f (c :: rest) = c :: rest := skip_cons hblank hsign
  show alternatives (n + 2) (room + 1) f [] .start ('^' :: '(' :: '?' :: ':' :: (s ++ [')'])) = _
  rw [alternatives_succ, skipped_bind, hskip (by decide) (by decide)]
  simp [orEnd, bind_of_eq_some (hcaret _)]
  rw [alternatives_succ, skipped_bind, hskip (by decide) (by decide)]
  simp [orEnd, hskip (show isBlank '?' = false by decide) (by decide), bind_of_eq_some (hgroup _)]
  rfl

/-- A text that closes no group but its own is an expression between the start of the text and a
parenthesis if it is one by itself and leaves the parenthesis alone. -/
theorem stands_anchored_iff (hline : f.multiLine = false) (hclosed : ¬ ClosesOutside f s) :
    Stands f (Pattern.anchored s) e ↔
      ¬ EndsInComment f s ∧ ∃ e', Stands f s e' ∧ tied e' = e := by
  have hanchored : (Pattern.anchored s).length = s.length + 5 := by simp [Pattern.anchored]
  have hlength : (s ++ [')']).length = s.length + 1 := List.length_append
  constructor
  · intro h
    obtain ⟨names, h⟩ := h.alternatives (n := s.length + 6) (by omega) e.depth.le_succ
    rw [alternatives_anchored hline] at h
    obtain ⟨⟨e', names'⟩, rest, hinner, houter⟩ := grouped_eq_some_iff.1 h
    have hread : Reads f (s ++ [')']) e' (')' :: rest) := reads_of_alternatives (by omega) hinner
    -- the parenthesis behind the text closes the group, so that nothing follows the group
    obtain ⟨hstands, rfl⟩ := stands_of_concat hread hclosed
    rw [alternatives_nil, expr_anchor_push] at houter
    cases houter
    refine ⟨?_, e', hstands, rfl⟩
    rintro ⟨_, _, hcomment⟩
    cases (hcomment.unique hread).2
  · rintro ⟨hcomment, e', hstands, rfl⟩
    have hread : Reads f (s ++ [')']) e' [')'] :=
      hstands.concat.resolve_right fun h => hcomment ⟨e', hstands, h.2⟩
    obtain ⟨names, hinner⟩ := hread.alternatives (n := s.length + 4) (by omega) le_rfl
    have hgrouped : grouped (s.length + 4) e'.depth f f [] anchor (s ++ [')']) =
        some ((tied e', names), []) := by
      refine grouped_eq_some_iff.2 ⟨(e', names), [], hinner, ?_⟩
      rw [alternatives_nil, expr_anchor_push]
    rw [← alternatives_anchored hline] at hgrouped
    exact reads_of_alternatives (by omega) hgrouped

theorem occursIn_tied_iff {name : Text} : occursIn (tied e).value name = true ↔
    ∃ stop, e.value.Matches (fun before after b => b.between before after) name 0 stop := by
  rw [occursIn, Expr.matchesWithin_iff]
  constructor
  · rintro ⟨start, stop, hstart, k, ⟨rfl, hcheck⟩, h⟩
    obtain rfl : start = 0 := (Expr.symbolBefore_isNone_iff hstart).1 hcheck
    exact ⟨stop, h⟩
  · rintro ⟨stop, h⟩
    exact ⟨0, stop, Nat.zero_le _, 0, ⟨rfl, rfl⟩, h⟩

end Regex

namespace Pattern

open Regex

variable {mode : PatternMode} {text : Text} {p : Pattern}

theorem compile_eq_ok_iff (hmode : mode ≠ .glob) (htext : text ≠ []) : compile mode text = .ok p ↔
    ∃ x, Regex.read mode.flags (anchored text) = some x ∧ .regex text x = p := by
  unfold compile
  rw [if_neg htext]
  cases mode with
  | glob => exact absurd rfl hmode
  | regex | regexIgnoreCase =>
    dsimp only
    split
    next x hx => simp [hx]
    next hx => simp [hx]

/-- A text that closes no group but its own is a pattern exactly if it is an expression by itself,
does not end in a comment and is not nested too deeply. The pattern then matches the names that the
expression matches from their start on. -/
theorem compile_regex (hmode : mode ≠ .glob) (htext : text ≠ [])
    (hclosed : ¬ ClosesOutside mode.flags text) :
    ((∃ p, compile mode text = .ok p) ↔ ¬ EndsInComment mode.flags text ∧
      ∃ e, Stands mode.flags text e ∧ e.depth + 2 ≤ Nesting.limit) ∧
    ∀ p, compile mode text = .ok p → ∃ x, Regex.read mode.flags text = some x ∧
      ∀ name, p.matchesName name = true ↔
        ∃ stop, x.Matches (fun before after b => b.between before after) name 0 stop := by
  have hline : mode.flags.multiLine = false := by cases mode <;> rfl
  have hcompile (p : Pattern) : compile mode text = .ok p ↔ ¬ EndsInComment mode.flags text ∧
      ∃ e, Stands mode.flags text e ∧ e.depth + 2 ≤ Nesting.limit ∧
        .regex text (tied e).value = p := by
    rw [compile_eq_ok_iff hmode htext]
    constructor
    · rintro ⟨x, hx, rfl⟩
      obtain ⟨_, hanchored, hdepth, rfl⟩ := read_eq_some_iff.1 hx
      obtain ⟨hcomment, e, hstands, rfl⟩ := (stands_anchored_iff hline hclosed).1 hanchored
      exact ⟨hcomment, e, hstands, hdepth, rfl⟩
    · rintro ⟨hcomment, e, hstands, hdepth, rfl⟩
      have hanchored := (stands_anchored_iff hline hclosed).2 ⟨hcomment, e, hstands, rfl⟩
      exact ⟨_, read_eq_some_iff.2 ⟨tied e, hanchored, hdepth, rfl⟩, rfl⟩
  constructor
  · constructor
    · rintro ⟨p, hp⟩
      obtain ⟨hcomment, e, hstands, hdepth, -⟩ := (hcompile p).1 hp
      exact ⟨hcomment, e, hstands, hdepth⟩
    · rintro ⟨hcomment, e, hstands, hdepth⟩
      exact ⟨_, (hcompile _).2 ⟨hcomment, e, hstands, hdepth, rfl⟩⟩
  · intro p hp
    obtain ⟨-, e, hstands, hdepth, rfl⟩ := (hcompile p).1 hp
    have hlimit : e.depth ≤ Nesting.limit := (Nat.le_add_right _ _).trans hdepth
    exact ⟨e.value, read_eq_some_iff.2 ⟨e, hstands, hlimit, rfl⟩, fun name => occursIn_tied_iff⟩

theorem compile_regex_sample : ∃ p, compile .regex ['(', 'a', ')', '|', 'b'] = .ok p ∧
    ∃ x, Regex.read PatternMode.regex.flags ['(', 'a', ')', '|', 'b'] = some x ∧
      ∀ name, p.matchesName name = true ↔
        ∃ stop, x.Matches (fun before after b => b.between before after) name 0 stop := by
  have hsign : ¬ HasSign ['(', 'a', ')', '|', 'b'] := fun ⟨front, comment, htext, _⟩ =>
    absurd (htext ▸ List.mem_append_right front (List.mem_cons_self ..) :
      '#' ∈ ['(', 'a', ')', '|', 'b']) (by decide)
  obtain ⟨e, hstands, hdepth⟩ :
      ∃ e, Stands PatternMode.regex.flags ['(', 'a', ')', '|', 'b'] e ∧
        e.depth + 2 ≤ Nesting.limit := ⟨_, ⟨1, [], rfl⟩, by decide⟩
  have hregex := compile_regex (by decide) (by decide) hstands.not_closesOutside
  obtain ⟨p, hp⟩ := hregex.1.2 ⟨mt EndsInComment.hasSign hsign, e, hstands, hdepth⟩
  exact ⟨p, hp, hregex.2 p hp⟩

/-- A text that is torn apart by its own parentheses becomes a pattern, of which only the first
alternative is tied to the start, and a text that ends in a comment does not become one. -/
theorem exists_compile_unlike_text :
    (Regex.read PatternMode.regex.flags ['a', ')', '|', '(', 'b'] = none ∧
      (compile .regex ['a', ')', '|', '(', 'b']).toOption.map (·.matchesName ['x', 'b']) =
        some true) ∧
    (Regex.read PatternMode.regex.flags ['(', '?', 'x', ')', 'a', '#', 'b']).isSome = true ∧
      (compile .regex ['(', '?', 'x', ')', 'a', '#', 'b']).toOption.isNone = true := by
  decide

end Pattern

end PathTemplates
