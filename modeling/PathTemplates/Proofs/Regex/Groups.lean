import PathTemplates.Proofs.Nesting
import PathTemplates.Proofs.Regex.Sets

namespace PathTemplates

namespace Regex

open Reader

variable {f : Flags} {r s : Text} {c : Char} {n m room : Nat} {names : List Text}
  {o : OpenAlternatives}

def namedHead : Reader GroupHead :=
  Reader.bind (Text.cut '>') fun name =>
    give (if isGroupName name then some (.named name) else none)

/-- Whether a character may stand among switches. -/
def isSwitch (c : Char) : Bool := c ≠ ':' && c ≠ ')'

/-- The head with the given switches, from the text behind them. -/
def headOf (switches rest : Text) : Option (GroupHead × Text) :=
  if !Flags.wellFormed switches then none
  else match rest with
    | ':' :: rest => some (.group switches, rest)
    | ')' :: rest => if switches = [] then none else some (.flags switches, rest)
    | _ => none

def switchesHead : Reader GroupHead := fun s => headOf (s.takeWhile isSwitch) (s.dropWhile isSwitch)

theorem namedHead_eq (s : Text) : namedHead s = match Text.cut '>' s with
    | some (name, rest) => if isGroupName name then some (.named name, rest) else none
    | none => none := by
  unfold namedHead Reader.bind
  cases Text.cut '>' s with
  | none => rfl
  | some p =>
    show Option.map _ (if _ then _ else _) = if _ then _ else _
    split <;> rfl

theorem readGroupHead_eq : readGroupHead =
    ifFront ['?', '='] (give none) (ifFront ['?', '!'] (give none)
      (ifFront ['?', '<', '='] (give none) (ifFront ['?', '<', '!'] (give none)
      (ifFront ['?', 'P', '<'] namedHead (ifFront ['?', '<'] namedHead
      (ifFront ['?'] switchesHead (give (some (.group [])))))))))  := by
  funext s
  unfold readGroupHead
  split
  next => simp
  next => simp
  next => simp
  next => simp
  next rest =>
    simp only [ifFront_cons_cons, ifFront_nil_front, Char.reduceEq, if_false, if_true]
    exact (namedHead_eq rest).symm
  next rest heq hbang =>
    have heq : ∀ t, rest ≠ ['='] ++ t := heq
    have hbang : ∀ t, rest ≠ ['!'] ++ t := hbang
    simp only [ifFront_cons_cons, ifFront_nil_front, Char.reduceEq, if_false, if_true,
      ifFront_of_forall_ne heq, ifFront_of_forall_ne hbang]
    exact (namedHead_eq rest).symm
  next rest heq hbang hlteq hltbang hname hlt =>
    have heq : ∀ t, rest ≠ ['='] ++ t := heq
    have hbang : ∀ t, rest ≠ ['!'] ++ t := hbang
    have hlteq : ∀ t, rest ≠ ['<', '='] ++ t := hlteq
    have hltbang : ∀ t, rest ≠ ['<', '!'] ++ t := hltbang
    have hname : ∀ t, rest ≠ ['P', '<'] ++ t := hname
    have hlt : ∀ t, rest ≠ ['<'] ++ t := hlt
    simp only [ifFront_cons_cons, ifFront_nil_front, if_true, ifFront_of_forall_ne heq,
      ifFront_of_forall_ne hbang, ifFront_of_forall_ne hlteq, ifFront_of_forall_ne hltbang,
      ifFront_of_forall_ne hname, ifFront_of_forall_ne hlt]
    rfl
  next heq hbang hlteq hltbang hname hlt hmark =>
    rw [ifFront_of_forall_ne heq, ifFront_of_forall_ne hbang, ifFront_of_forall_ne hlteq,
      ifFront_of_forall_ne hltbang, ifFront_of_forall_ne hname, ifFront_of_forall_ne hlt,
      ifFront_of_forall_ne hmark, give_some]

theorem headOf_nil (switches : Text) : headOf switches [] = none := by
  unfold headOf
  split <;> rfl

theorem lost_headOf (switches : Text) : Lost UsedUp (headOf switches [')']) := by
  unfold headOf
  split
  · trivial
  · show Lost UsedUp (if _ then none else some _)
    split
    · trivial
    · exact rfl

theorem parallel_headOf (switches : Text) (hr : r <:+ s) :
    Parallel UsedUp s (headOf switches (c :: r)) (headOf switches (c :: r ++ [')'])) := by
  by_cases hother : c ≠ ':' ∧ c ≠ ')'
  · have hnone (t : Text) : headOf switches (c :: t) = none := by
      simp [headOf, hother.1, hother.2]
    rw [hnone, List.cons_append, hnone]
    exact .lost trivial
  · unfold headOf
    split
    · exact .lost trivial
    · rcases (by tauto : c = ':' ∨ c = ')') with rfl | rfl
      · exact .kept _ hr
      · show Parallel UsedUp s (if _ then none else some _) (if _ then none else some _)
        split
        · exact .lost trivial
        · exact .kept _ hr

theorem steady_switchesHead : Steady UsedUp switchesHead := by
  intro s
  have happend : s.takeWhile isSwitch ++ s.dropWhile isSwitch = s := List.takeWhile_append_dropWhile
  have hlength := congrArg List.length happend
  rw [List.length_append] at hlength
  unfold switchesHead
  rw [List.takeWhile_append, List.dropWhile_append]
  cases h : s.dropWhile isSwitch with
  | nil =>
    -- a parenthesis behind switches makes flags of them, and nothing is left
    rw [h, List.length_nil, Nat.add_zero] at hlength
    rw [if_pos hlength, if_pos List.isEmpty_nil, headOf_nil]
    exact .lost (lost_headOf _)
  | cons d rest =>
    rw [h, List.length_cons] at hlength
    have hrest : rest <:+ s :=
      ⟨s.takeWhile isSwitch ++ [d], by rw [List.append_assoc, List.singleton_append, ← h, happend]⟩
    rw [if_neg (by omega), List.isEmpty_cons, if_neg Bool.false_ne_true]
    exact parallel_headOf _ hrest

theorem steady_readGroupHead : Steady UsedUp readGroupHead := by
  have hnamed : Steady UsedUp namedHead :=
    (Closed.bind ⟨Text.cut_concat (by decide), fun _ _ _ => Text.cut_suffix⟩ fun _ =>
      Closed.give _).steady
  rw [readGroupHead_eq]
  exact .ifFront (by decide) (.give _) (.ifFront (by decide) (.give _)
    (.ifFront (by decide) (.give _) (.ifFront (by decide) (.give _)
    (.ifFront (by decide) hnamed (.ifFront (by decide) hnamed
    (.ifFront (by decide) steady_switchesHead (.give _)))))))

/-- Reads on to the end of a group; the expression and the names are one outcome. -/
def alternatives (n room : Nat) (f : Flags) (names : List Text) (o : OpenAlternatives) :
    Reader (Nested CharExpr × List Text) := fun s =>
  (readAlternatives n room f names o s).map fun p => ((p.1, p.2.1), p.2.2)

/-- What follows a repetition of the last item. -/
def repeated (n room : Nat) (f : Flags) (names : List Text) (o : OpenAlternatives) (least : Nat)
    (most : Option Nat) : Reader (Nested CharExpr × List Text) :=
  match o.repeatLast least most with
  | none => give none
  | some o => ifFront ['?'] (alternatives n room f names o) (alternatives n room f names o)

/-- A group with the flags inside it, and what follows it. -/
def grouped (n room : Nat) (f inner : Flags) (names : List Text) (o : OpenAlternatives) :
    Reader (Nested CharExpr × List Text) :=
  (alternatives n room inner names .start).bind fun p => (expect ')').bind fun _ =>
    alternatives n (room + 1) f p.2 (o.push p.1.value (p.1.depth + 1))

/-- A group, if there is room for one. -/
def roomed (n : Nat) (f inner : Flags) (names : List Text) (o : OpenAlternatives) :
    Nat → Reader (Nested CharExpr × List Text)
  | 0 => give none
  | room + 1 => grouped n room f inner names o

/-- What follows the head of a group. -/
def headed (n room : Nat) (f : Flags) (names : List Text) (o : OpenAlternatives) :
    GroupHead → Reader (Nested CharExpr × List Text)
  | .flags switches => alternatives n room (f.apply switches) names o.pushFlags
  | .group switches => roomed n f (f.apply switches) names o room
  | .named name =>
    if names.contains name then give none else roomed n f f (name :: names) o room

/-- Puts the expression and the names together. -/
abbrev paired (p : Nested CharExpr × List Text × Text) : (Nested CharExpr × List Text) × Text :=
  ((p.1, p.2.1), p.2.2)

theorem ifFront_dropLazy {R : Reader (Nested CharExpr × List Text)} (s : Text) :
    ifFront ['?'] R R s = R (dropLazy s) := by
  rcases s with _ | ⟨c, s⟩
  · rfl
  · by_cases hc : c = '?'
    · subst hc
      simp [dropLazy]
    · simp [dropLazy, hc, Ne.symm hc]

theorem repeated_apply (least : Nat) (most : Option Nat) (s : Text) :
    repeated n room f names o least most s = (match o.repeatLast least most with
      | none => none
      | some o => readAlternatives n room f names o (dropLazy s)).map paired := by
  unfold repeated
  cases o.repeatLast least most with
  | none => rfl
  | some o => exact ifFront_dropLazy s

theorem grouped_apply (inner : Flags) (s : Text) : grouped n room f inner names o s =
    (match readAlternatives n room inner names .start s with
      | some (e, names, ')' :: rest) =>
        readAlternatives n (room + 1) f names (o.push e.value (e.depth + 1)) rest
      | _ => none).map paired := by
  unfold grouped
  cases h : readAlternatives n room inner names .start s with
  | none =>
    have hnone : alternatives n room inner names .start s = none := by rw [alternatives, h]; rfl
    rw [bind_of_eq_none hnone]
    rfl
  | some p =>
    obtain ⟨e, names', rest⟩ := p
    have hsome : alternatives n room inner names .start s = some ((e, names'), rest) := by
      rw [alternatives, h]
      rfl
    rw [bind_of_eq_some hsome]
    rcases rest with _ | ⟨c, rest⟩
    · rfl
    · by_cases hc : c = ')'
      · subst hc
        rw [expect_bind_cons, if_pos rfl]
        rfl
      · simp [hc]

theorem headed_apply (h : GroupHead) (s : Text) : headed n room f names o h s =
    (match h, room with
      | .flags switches, room => readAlternatives n room (f.apply switches) names o.pushFlags s
      | _, 0 => none
      | .group switches, room + 1 =>
        match readAlternatives n room (f.apply switches) names .start s with
        | some (e, names, ')' :: rest) =>
          readAlternatives n (room + 1) f names (o.push e.value (e.depth + 1)) rest
        | _ => none
      | .named name, room + 1 =>
        if names.contains name then none
        else match readAlternatives n room f (name :: names) .start s with
          | some (e, names, ')' :: rest) =>
            readAlternatives n (room + 1) f names (o.push e.value (e.depth + 1)) rest
          | _ => none).map paired := by
  cases h with
  | flags switches => cases room <;> rfl
  | group switches =>
    cases room with
    | zero => rfl
    | succ room => exact grouped_apply _ s
  | named name =>
    cases room with
    | zero =>
      dsimp only [headed, roomed]
      split <;> rfl
    | succ room =>
      dsimp only [headed, roomed]
      split
      · rfl
      · exact grouped_apply f s

theorem alternatives_succ (n room : Nat) (f : Flags) (names : List Text) (o : OpenAlternatives) :
    alternatives (n + 1) room f names o = (skipped f).bind fun _ => orEnd (o.expr, names)
      (ifFront ['|'] (alternatives n room f names o.next)
      (ifFront ['['] (Reader.bind (readBracket f) fun t =>
        alternatives n room f names (o.push (.symbol t.value.contains) t.depth))
      (ifFront ['?'] (repeated n room f names o 0 (some 1))
      (ifFront ['*'] (repeated n room f names o 0 none)
      (ifFront ['+'] (repeated n room f names o 1 none)
      (ifFront ['\x7b'] ((counts f).bind fun p => (skipped f).bind fun _ =>
        repeated n room f names o p.1 p.2)
      (ifFront ['('] ((skipped f).bind fun _ => Reader.bind readGroupHead fun h =>
        headed n room f names o h)
      (Reader.bind (readItem f) fun e => alternatives n room f names (o.push e 0))))))))) := by
  funext s
  rw [skipped_bind, alternatives, readAlternatives]
  split
  next h => simp [h, orEnd]
  next rest h => simp [h, orEnd]
  next rest h => simp [h, orEnd, alternatives]
  next rest h =>
    simp [h, orEnd]
    cases hb : readBracket f rest with
    | none =>
      rw [bind_of_eq_none hb]
      rfl
    | some p =>
      rw [bind_of_eq_some hb]
      rfl
  next rest h =>
    simp [h, orEnd]
    exact (repeated_apply _ _ rest).symm
  next rest h =>
    simp [h, orEnd]
    exact (repeated_apply _ _ rest).symm
  next rest h =>
    simp [h, orEnd]
    exact (repeated_apply _ _ rest).symm
  next rest h =>
    simp [h, orEnd]
    cases hc : readCounts f rest with
    | none =>
      have hnone : counts f rest = none := by rw [counts, hc]; rfl
      rw [bind_of_eq_none hnone]
      rfl
    | some p =>
      have hsome : counts f rest = some ((p.1, p.2.1), p.2.2) := by rw [counts, hc]; rfl
      rw [bind_of_eq_some hsome, skipped_bind]
      exact (repeated_apply p.1 p.2.1 _).symm
  next rest h =>
    simp only [h, orEnd, ifFront_cons_cons, ifFront_nil_front, List.cons_ne_nil, List.head?_cons,
      Option.some.injEq, Char.reduceEq, or_self, if_false, if_true, skipped_bind]
    cases hc : readGroupHead (skip f rest) with
    | none =>
      rw [bind_of_eq_none hc]
      rfl
    | some p =>
      obtain ⟨head, rest⟩ := p
      rw [bind_of_eq_some hc, headed_apply]
      cases head <;> cases room <;> rfl
  next hend hclosing hbar hopen hmark hstar hplus hbrace hgroup =>
    have hnotEnd : ¬ (skip f s = [] ∨ (skip f s).head? = some ')') := by
      rintro (h | h)
      · exact hend h
      · obtain ⟨t, h⟩ := List.head?_eq_some_iff.1 h
        exact hclosing t h
    rw [orEnd, if_neg hnotEnd, ifFront_of_forall_ne hbar, ifFront_of_forall_ne hopen,
      ifFront_of_forall_ne hmark, ifFront_of_forall_ne hstar, ifFront_of_forall_ne hplus,
      ifFront_of_forall_ne hbrace, ifFront_of_forall_ne hgroup]
    cases h : readItem f (skip f s) with
    | none =>
      rw [bind_of_eq_none h]
      rfl
    | some p =>
      rw [bind_of_eq_some h]
      rfl

theorem readCount_atEnd (h : r = [] ∨ r = [')']) : readCount f r = none := by
  have hdigits : takeDigits f.verbose false (r.dropWhile isBlank) = ([], r.dropWhile isBlank) := by
    rcases h with rfl | rfl
    · rfl
    · cases f.verbose <;> rfl
  simp [readCount, hdigits]

theorem counts_of_skip_eq_nil {t : Text} (h : skip f t = []) : counts f (t ++ [')']) = none := by
  have hend : skip f (t ++ [')']) = [] ∨ skip f (t ++ [')']) = [')'] :=
    (skip_append f t).symm.imp (fun h' => h'.2.1) fun h' => by rw [h', h, List.nil_append]
  rw [counts_eq, skipped_bind, bind_of_eq_none (readCount_atEnd hend)]

theorem alternatives_brace {t : Text} (h : skip f t = []) :
    alternatives n room f names o ('{' :: t ++ [')']) = none := by
  cases n with
  | zero => rfl
  | succ n =>
    rw [alternatives_succ, skipped_bind, List.cons_append, skip_cons (by decide) (by decide)]
    simp [orEnd, bind_of_eq_none (counts_of_skip_eq_nil h)]

theorem steady_repeated {least : Nat} {most : Option Nat}
    (h : ∀ o, Steady UsedUp (alternatives n room f names o)) :
    Steady UsedUp (repeated n room f names o least most) := by
  unfold repeated
  split
  · exact .give none
  · exact .ifFront (by decide) (h _) (h _)

theorem steady_grouped {inner : Flags}
    (h : ∀ room f names o, Steady UsedUp (alternatives n room f names o)) :
    Steady UsedUp (grouped n room f inner names o) :=
  (h _ _ _ _).usedUp_bind fun _ => (Steady.expect _).usedUp_bind fun _ => h _ _ _ _

theorem steady_roomed {inner : Flags}
    (h : ∀ room f names o, Steady UsedUp (alternatives n room f names o)) :
    Steady UsedUp (roomed n f inner names o room) := by
  cases room with
  | zero => exact .give none
  | succ room => exact steady_grouped h

theorem steady_headed (h : ∀ room f names o, Steady UsedUp (alternatives n room f names o))
    (head : GroupHead) : Steady UsedUp (headed n room f names o head) := by
  cases head with
  | flags switches => exact h _ _ _ _
  | group switches => exact steady_roomed h
  | named name =>
    dsimp only [headed]
    split
    · exact .give none
    · exact steady_roomed h

/-- Expressions are read on to a parenthesis behind the text, and no further. -/
theorem steady_alternatives (n room : Nat) (f : Flags) (names : List Text) (o : OpenAlternatives) :
    Steady UsedUp (alternatives n room f names o) := by
  induction n generalizing room f names o with
  | zero => exact fun s => .lost trivial
  | succ n ih =>
    have hitem : Steady UsedUp
        (Reader.bind (readItem f) fun e => alternatives n room f names (o.push e 0)) := by
      refine (steady_readItem f).bind (fun _ => ih _ _ _ _) fun e r h => ?_
      rcases h with rfl | ⟨t, ht, rfl⟩
      · exact (ih _ _ _ _).lost_nil fun _ => rfl
      · rw [alternatives_brace ht]
        trivial
    rw [alternatives_succ]
    exact (steady_skipped f).firm_bind fun _ => .orEnd _
      (.ifFront (by decide) (ih _ _ _ _)
      (.ifFront (by decide) ((steady_readBracket f).firm_bind fun _ => ih _ _ _ _)
      (.ifFront (by decide) (steady_repeated (ih _ _ _))
      (.ifFront (by decide) (steady_repeated (ih _ _ _))
      (.ifFront (by decide) (steady_repeated (ih _ _ _))
      (.ifFront (by decide) ((steady_counts f).usedUp_bind fun _ =>
        (steady_skipped f).firm_bind fun _ => steady_repeated (ih _ _ _))
      (.ifFront (by decide) ((steady_skipped f).firm_bind fun _ =>
        steady_readGroupHead.usedUp_bind fun _ => steady_headed ih _) hitem)))))))

theorem agree_repeated {l least : Nat} {most : Option Nat}
    (h : ∀ o, Agree l (alternatives n room f names o) (alternatives m room f names o)) :
    Agree l (repeated n room f names o least most) (repeated m room f names o least most) := by
  unfold repeated
  split
  · exact .refl l _
  · exact (h _).ifFront_of_le (h _) (Nat.le_add_right _ _)

theorem agree_grouped {l : Nat} {inner : Flags} (h : ∀ room f names o,
      Agree l (alternatives n room f names o) (alternatives m room f names o)) :
    Agree l (grouped n room f inner names o) (grouped m room f inner names o) :=
  .bind (steady_alternatives n room inner names .start) (h _ _ _ _) fun _ =>
    .bind (Steady.expect _) (.refl l _) fun _ => h _ _ _ _

theorem agree_roomed {l : Nat} {inner : Flags} (h : ∀ room f names o,
      Agree l (alternatives n room f names o) (alternatives m room f names o)) :
    Agree l (roomed n f inner names o room) (roomed m f inner names o room) := by
  cases room with
  | zero => exact .refl l _
  | succ room => exact agree_grouped h

theorem agree_headed {l : Nat} (h : ∀ room f names o,
      Agree l (alternatives n room f names o) (alternatives m room f names o)) (head : GroupHead) :
    Agree l (headed n room f names o head) (headed m room f names o head) := by
  cases head with
  | flags switches => exact h _ _ _ _
  | group switches => exact agree_roomed h
  | named name =>
    dsimp only [headed]
    split
    · exact .refl l _
    · exact agree_roomed h

/-- The fuel does not matter where it is more than the length of the text. -/
theorem agree_alternatives (room : Nat) (f : Flags) (names : List Text) (o : OpenAlternatives)
    (h : n ≤ m) : Agree n (alternatives n room f names o) (alternatives m room f names o) := by
  induction n generalizing m room f names o with
  | zero => exact fun s hs => absurd hs (Nat.not_lt_zero _)
  | succ n ih =>
    obtain ⟨m, rfl⟩ : ∃ k, m = k + 1 := ⟨m - 1, by omega⟩
    have ih (room : Nat) (f : Flags) (names : List Text) (o : OpenAlternatives) :
        Agree n (alternatives n room f names o) (alternatives m room f names o) :=
      ih room f names o (by omega)
    rw [alternatives_succ, alternatives_succ]
    exact .skipped_bind (.orEnd _ (.ifFront (ih _ _ _ _)
      (.ifFront (.bind (steady_readBracket (D := UsedUp) f) (.refl n _) fun _ => ih _ _ _ _)
      (.ifFront (agree_repeated (ih _ _ _)) (.ifFront (agree_repeated (ih _ _ _))
      (.ifFront (agree_repeated (ih _ _ _))
      (.ifFront (.bind (steady_counts f) (.refl n _) fun _ =>
        .skipped_bind (agree_repeated (ih _ _ _)))
      (.ifFront (.skipped_bind (.bind steady_readGroupHead (.refl n _) fun _ => agree_headed ih _))
      (.bind_consumes (consumes_readItem f) fun _ => ih _ _ _ _)))))))))

namespace OpenAlternatives

open Nesting

variable {e : CharExpr} {d : Nat} {o o' : OpenAlternatives}

theorem depth_expr (o : OpenAlternatives) : o.expr.depth =
    sideBySide (sideBySide (o.items.map (·.depth)) :: o.complete.map (·.depth)) := rfl

theorem depth_le_push (o : OpenAlternatives) (e : CharExpr) (d : Nat) :
    o.expr.depth ≤ (o.push e d).expr.depth :=
  sideBySide_cons_mono (sideBySide_le_cons _ _) _

theorem le_depth_push (o : OpenAlternatives) (e : CharExpr) (d : Nat) :
    d ≤ (o.push e d).expr.depth :=
  (le_sideBySide_cons d _).trans (le_sideBySide_cons _ _)

theorem depth_le_pushFlags (o : OpenAlternatives) : o.expr.depth ≤ o.pushFlags.expr.depth :=
  sideBySide_cons_mono (sideBySide_le_cons _ _) _

theorem depth_le_next (o : OpenAlternatives) : o.expr.depth ≤ o.next.expr.depth :=
  sideBySide_le_cons _ _

theorem depth_le_repeatLast {least : Nat} {most : Option Nat}
    (h : o.repeatLast least most = some o') : o.expr.depth ≤ o'.expr.depth := by
  unfold repeatLast at h
  split at h
  next e d items hitems =>
    cases h
    rw [depth_expr, depth_expr, hitems]
    exact sideBySide_cons_mono (sideBySide_cons_mono (Nat.le_succ d) _) _
  · cases h

end OpenAlternatives

open Reader

/-- What one reader reads is at least as deep as given, and is read by the other if there is room
for it. -/
def Roomy (least room : Nat) (R R' : Reader (Nested CharExpr × List Text)) : Prop :=
  ∀ s p r, R s = some (p, r) → least ≤ p.1.depth ∧ (p.1.depth ≤ room → R' s = some (p, r))

namespace Roomy

variable {α : Type} {least least' room room' : Nat} {a : Nested CharExpr × List Text}
  {R R' R₁ R₁' : Reader (Nested CharExpr × List Text)} {front : Text}

theorem mono (h : Roomy least' room R R') (hle : least ≤ least') : Roomy least room R R' :=
  fun s p r hs => ⟨hle.trans (h s p r hs).1, (h s p r hs).2⟩

theorem none (R' : Reader (Nested CharExpr × List Text)) : Roomy least room (give none) R' :=
  fun _ _ _ h => nomatch h

theorem ifFront (h : Roomy least room R R') (h₁ : Roomy least room R₁ R₁') :
    Roomy least room (ifFront front R R₁) (ifFront front R' R₁') := by
  intro s p r hs
  by_cases hfront : front <+: s
  · obtain ⟨t, rfl⟩ := hfront
    rw [ifFront_append] at hs ⊢
    exact h t p r hs
  · rw [ifFront_of_not hfront] at hs ⊢
    exact h₁ s p r hs

theorem orEnd (ha : least ≤ a.1.depth) (h : Roomy least room R R') :
    Roomy least room (orEnd a R) (orEnd a R') := by
  intro s p r hs
  unfold Reader.orEnd at hs ⊢
  split at hs
  next hend =>
    cases hs
    exact ⟨ha, fun _ => if_pos hend⟩
  next hend =>
    rw [if_neg hend]
    exact h s p r hs

theorem bind {R : Reader α} {K K' : α → Reader (Nested CharExpr × List Text)}
    (h : ∀ a, Roomy least room (K a) (K' a)) : Roomy least room (R.bind K) (R.bind K') := by
  intro s p r hs
  unfold Reader.bind at hs ⊢
  cases hR : R s with
  | none => rw [hR] at hs; cases hs
  | some q =>
    rw [hR] at hs
    exact h q.1 q.2 p r hs

end Roomy

variable {f : Flags} {names : List Text} {o : OpenAlternatives} {n room room' : Nat} {r s : Text}

theorem roomy_repeated {least : Nat} {most : Option Nat}
    (h : ∀ o, Roomy o.expr.depth room' (alternatives n room f names o)
      (alternatives n room' f names o)) :
    Roomy o.expr.depth room' (repeated n room f names o least most)
      (repeated n room' f names o least most) := by
  unfold repeated
  split
  · exact .none _
  next o' ho =>
    exact .ifFront ((h o').mono (OpenAlternatives.depth_le_repeatLast ho))
      ((h o').mono (OpenAlternatives.depth_le_repeatLast ho))

theorem grouped_eq_some_iff {inner : Flags} {p : Nested CharExpr × List Text} :
    grouped n room f inner names o s = some (p, r) ↔ ∃ q t,
      alternatives n room inner names .start s = some (q, ')' :: t) ∧
      alternatives n (room + 1) f q.2 (o.push q.1.value (q.1.depth + 1)) t = some (p, r) := by
  rw [grouped, bind_eq_some_iff]
  constructor
  · rintro ⟨q, _, hinner, h⟩
    obtain ⟨t, rfl, h⟩ := expect_bind_eq_some_iff.1 h
    exact ⟨q, t, hinner, h⟩
  · rintro ⟨q, t, hinner, h⟩
    exact ⟨q, _, hinner, expect_bind_eq_some_iff.2 ⟨t, rfl, h⟩⟩

theorem roomy_grouped {inner : Flags} (h : ∀ room room' f names o, Roomy o.expr.depth room'
      (alternatives n room f names o) (alternatives n room' f names o)) :
    Roomy (max o.expr.depth 1) (room' + 1) (grouped n room f inner names o)
      (grouped n room' f inner names o) := by
  intro s p r hs
  obtain ⟨q, t, hinner, hrest⟩ := grouped_eq_some_iff.1 hs
  have hdepth := (h (room + 1) (room' + 1) f q.2 _ t p r hrest).1
  have hgroup := o.le_depth_push q.1.value (q.1.depth + 1)
  have hbefore := o.depth_le_push q.1.value (q.1.depth + 1)
  refine ⟨by omega, fun hroom => grouped_eq_some_iff.2 ⟨q, t, ?_, ?_⟩⟩
  · exact (h room room' inner names .start s q _ hinner).2 (by omega)
  · exact (h (room + 1) (room' + 1) f q.2 _ t p r hrest).2 hroom

theorem roomy_roomed {inner : Flags} (h : ∀ room room' f names o, Roomy o.expr.depth room'
      (alternatives n room f names o) (alternatives n room' f names o)) :
    Roomy o.expr.depth room' (roomed n f inner names o room) (roomed n f inner names o room') := by
  cases room with
  | zero => exact .none _
  | succ room =>
    cases room' with
    | zero =>
      -- a group is not of depth zero
      intro s p r hs
      have hdepth : max o.expr.depth 1 ≤ p.1.depth :=
        ((roomy_grouped h : Roomy _ (0 + 1) _ _) s p r hs).1
      exact ⟨by omega, by omega⟩
    | succ room' => exact (roomy_grouped h).mono (le_max_left _ _)

theorem roomy_headed (h : ∀ room room' f names o, Roomy o.expr.depth room'
      (alternatives n room f names o) (alternatives n room' f names o)) (head : GroupHead) :
    Roomy o.expr.depth room' (headed n room f names o head) (headed n room' f names o head) := by
  cases head with
  | flags switches => exact (h _ _ _ _ _).mono o.depth_le_pushFlags
  | group switches => exact roomy_roomed h
  | named name =>
    dsimp only [headed]
    split
    · exact .none _
    · exact roomy_roomed h

/-- Room for more groups than there are makes no difference. -/
theorem roomy_alternatives (n room room' : Nat) (f : Flags) (names : List Text)
    (o : OpenAlternatives) : Roomy o.expr.depth room' (alternatives n room f names o)
      (alternatives n room' f names o) := by
  induction n generalizing room room' f names o with
  | zero => exact fun s p r h => nomatch h
  | succ n ih =>
    have hpush (e : CharExpr) (d : Nat) : Roomy o.expr.depth room'
        (alternatives n room f names (o.push e d)) (alternatives n room' f names (o.push e d)) :=
      (ih _ _ _ _ _).mono (o.depth_le_push e d)
    have hrepeated {least : Nat} {most : Option Nat} : Roomy o.expr.depth room'
        (repeated n room f names o least most) (repeated n room' f names o least most) :=
      roomy_repeated fun o => ih _ _ _ _ o
    rw [alternatives_succ, alternatives_succ]
    exact .bind fun _ => .orEnd le_rfl (.ifFront ((ih _ _ _ _ _).mono o.depth_le_next)
      (.ifFront (.bind fun _ => hpush _ _) (.ifFront hrepeated (.ifFront hrepeated
      (.ifFront hrepeated (.ifFront (.bind fun _ => .bind fun _ => hrepeated)
      (.ifFront (.bind fun _ => .bind fun head => roomy_headed ih head)
      (.bind fun _ => hpush _ _))))))))

end Regex

end PathTemplates
