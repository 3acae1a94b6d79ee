import PathTemplates.Proofs.Regex.Elements
import PathTemplates.Proofs.Text.Pieces

namespace PathTemplates

namespace Regex

open Reader

variable {f : Flags} {r s : Text} {c : Char} {n m : Nat}

/-- A named set from behind its opening bracket, as one outcome. -/
def namedSet : Reader (CharSet × Bool) := fun s =>
  (readNamed ('[' :: s)).map fun p => ((p.1, p.2.1), p.2.2)

/-- The name of a set from behind its opening bracket and colon. -/
def className (negated : Bool) : Reader (CharSet × Bool) :=
  Reader.bind (Text.cut ':') fun name => (expect ']').bind fun _ =>
    give ((CharSet.asciiClass? (String.ofList name)).map fun s => (s, negated))

theorem className_eq (negated : Bool) (s : Text) : className negated s =
    ((match s.dropWhile fun c => c ≠ ':' with
      | ':' :: ']' :: after =>
        (CharSet.asciiClass? (String.ofList (s.takeWhile fun c => c ≠ ':'))).map
          fun s => (s, negated, after)
      | _ => none) : Option (CharSet × Bool × Text)).map fun p => ((p.1, p.2.1), p.2.2) := by
  have hcut := Text.cut_eq_takeWhile ':' s
  have hhead := List.head?_dropWhile_not (fun c => decide (c ≠ ':')) s
  unfold className
  cases h : s.dropWhile fun c => decide (c ≠ ':') with
  | nil =>
    rw [h] at hcut
    rw [bind_of_eq_none hcut]
    rfl
  | cons c rest =>
    rw [h] at hcut hhead
    obtain rfl : c = ':' := by simpa using hhead
    rw [bind_of_eq_some hcut]
    rcases rest with _ | ⟨c, after⟩
    · rfl
    · by_cases hc : c = ']'
      · subst hc
        rw [expect_bind_cons, if_pos rfl, give]
        simp only [Option.map_map]
        rfl
      · simp [hc]

theorem namedSet_eq :
    namedSet = ifFront [':'] (ifFront ['^'] (className true) (className false)) (give none) := by
  funext s
  rcases s with _ | ⟨c, s⟩
  · rfl
  by_cases hcolon : c = ':'
  · subst hcolon
    rw [ifFront_singleton_cons, if_pos rfl]
    rcases s with _ | ⟨c, s⟩
    · rw [ifFront_nil, className_eq]
      rfl
    by_cases hcaret : c = '^'
    · subst hcaret
      rw [ifFront_singleton_cons, if_pos rfl, className_eq]
      rfl
    · rw [ifFront_singleton_cons, if_neg (Ne.symm hcaret)]
      simp only [namedSet, readNamed, List.cons.injEq, hcaret, false_and, imp_self, implies_true]
      exact (className_eq false (c :: s)).symm
  · simp [namedSet, readNamed, hcolon, Ne.symm hcolon]

theorem closed_className (negated : Bool) : Closed (className negated) :=
  Closed.bind ⟨Text.cut_concat (by decide), fun _ _ _ => Text.cut_suffix⟩ fun _ =>
    (Closed.expect (by decide)).bind fun _ => .give _

theorem readMember_eq (f : Flags) : readMember f =
    ifFront ['\\'] (readEscape f) (next.bind fun c => give (some (.literal c false))) := by
  funext s
  rcases s with _ | ⟨c, s⟩
  · rfl
  · by_cases hback : c = '\\'
    · subst hback
      simp [readMember]
    · simp [readMember, Ne.symm hback]

theorem steady_readMember (f : Flags) : Steady (AtBrace f) (readMember f) := by
  rw [readMember_eq]
  exact .ifFront (by decide) (steady_readEscape f)
    (Steady.next.bind (fun _ => .give _) fun _ _ h => .inl h)

theorem consumes_readMember (f : Flags) : Consumes (readMember f) := by
  have hgive (x : Option Element) : Steady UsedUp (give x) := .give x
  rw [readMember_eq]
  exact .ifFront (steady_readEscape f) (Consumes.next.bind fun _ => hgive _)

/-- Whether a hyphen follows that makes a range. -/
def rangeFollows (f : Flags) : Text → Bool
  | '-' :: after => peek f after ≠ some ']' && peek f after ≠ some '-'
  | _ => false

def rangeOf (f : Flags) : Element → Element → Option CharSet
  | .literal low _, .literal high _ =>
    if low ≤ high && memberAllowed f low && memberAllowed f high then some (.range low high)
    else none
  | _, _ => none

def singleOf (f : Flags) : Element → Option CharSet
  | .literal c _ => if memberAllowed f c then some (.single c) else none
  | .set t => some t
  | .expr _ => none

/-- What a member stands for, which depends on what follows it. -/
def rangeFrom (f : Flags) (first : Element) : Reader CharSet := fun s =>
  if rangeFollows f s then
    (next.bind fun _ => (skipped f).bind fun _ => Reader.bind (readMember f) fun last =>
      give (rangeOf f first last)) s
  else (Reader.bind (present ()) fun _ => give (singleOf f first)) s

theorem rangeFollows_cons (hc : c ≠ '-') : rangeFollows f (c :: s) = false := by
  unfold rangeFollows
  split
  next h => exact absurd (List.cons.inj h).1 hc
  · rfl

theorem readRange_eq (f : Flags) : readRange f = Reader.bind (readMember f) fun first =>
    (skipped f).bind fun _ => rangeFrom f first := by
  funext s
  unfold readRange
  cases h : readMember f s with
  | none => rw [bind_of_eq_none h]
  | some p =>
    obtain ⟨first, rest⟩ := p
    rw [bind_of_eq_some h, skipped_bind]
    dsimp only
    generalize skip f rest = t
    show (if rangeFollows f t then _ else _) = _
    unfold rangeFrom
    split
    next hfollows =>
      rcases t with _ | ⟨c, t⟩
      · cases hfollows
      rw [next_bind_cons, skipped_bind, List.drop_one, List.tail_cons]
      cases hlast : readMember f (skip f t) with
      | none =>
        rw [bind_of_eq_none hlast]
        cases first <;> rfl
      | some q =>
        obtain ⟨last, rest⟩ := q
        rw [bind_of_eq_some hlast]
        cases first with
        | literal low b =>
          cases last with
          | literal high b' =>
            show (if _ then _ else _) = Option.map _ (if _ then _ else _)
            split <;> rfl
          | set t => rfl
          | expr e => rfl
        | set t => rfl
        | expr e => rfl
    next hfollows =>
      rw [Reader.bind, present]
      split
      · rfl
      · cases first with
        | literal c b =>
          show (if _ then _ else _) = Option.map _ (if _ then _ else _)
          split <;> rfl
        | set t => rfl
        | expr e => rfl

theorem firstVisible_append (inComment : Bool) (s : Text) :
    firstVisible inComment (s ++ [')']) = (firstVisible inComment s).or (some ')') := by
  induction s generalizing inComment with
  | nil => cases inComment <;> rfl
  | cons c s ih =>
    rw [List.cons_append, firstVisible, firstVisible]
    split
    · exact ih _
    · split
      · exact ih _
      · rfl

theorem peek_append (hblank : isBlank c = false) (hsign : c ≠ '#') (hclosing : c ≠ ')') (s : Text) :
    peek f (s ++ [')']) = some c ↔ peek f s = some c := by
  unfold peek
  split
  · rw [firstVisible_append]
    cases h : firstVisible false s with
    | some d => rfl
    | none =>
      rw [Option.none_or, Option.none_or, Option.some_or, Option.some.injEq]
      refine iff_of_false hclosing.symm fun hhead => ?_
      obtain ⟨t, rfl⟩ := List.head?_eq_some_iff.1 hhead
      simp [firstVisible, hblank, hsign] at h
  · rcases s with _ | ⟨d, s⟩
    · simp [hclosing.symm]
    · rfl

theorem rangeFollows_append (f : Flags) (s : Text) :
    rangeFollows f (s ++ [')']) = rangeFollows f s := by
  rcases s with _ | ⟨c, s⟩
  · rfl
  · by_cases hc : c = '-'
    · subst hc
      simp only [List.cons_append, rangeFollows, ne_eq,
        peek_append (c := ']') (by decide) (by decide) (by decide) s,
        peek_append (c := '-') (by decide) (by decide) (by decide) s]
    · rw [List.cons_append, rangeFollows_cons hc, rangeFollows_cons hc]

theorem steady_rangeFrom (f : Flags) (first : Element) : Steady AtEnd (rangeFrom f first) := by
  have hlast : Steady AtEnd
      (Reader.bind (readMember f) fun last => give (rangeOf f first last)) := by
    refine (steady_readMember f).bind (fun _ => .give _) fun last r h => ?_
    rcases h with rfl | ⟨⟨b, rfl⟩, _⟩
    · exact (Steady.give _).lost_nil fun _ => .inl rfl
    · cases first <;> trivial
  intro s
  unfold rangeFrom
  rw [rangeFollows_append]
  split
  · refine Steady.next.bind (E := AtEnd) (fun _ => (steady_skipped f).firm_bind fun _ => hlast)
      (fun _ r h => ?_) s
    obtain rfl : r = [] := h
    exact ((steady_skipped f).firm_bind fun _ => hlast).lost_nil fun _ => .inl rfl
  · refine (Steady.present ()).bind (fun _ => .give _) (fun _ r h => ?_) s
    cases singleOf f first with
    | none => trivial
    | some t => exact h

theorem steady_readRange (f : Flags) : Steady AtEnd (readRange f) := by
  have hfirst (first : Element) : Steady AtEnd ((skipped f).bind fun _ => rangeFrom f first) :=
    (steady_skipped f).firm_bind fun _ => steady_rangeFrom f first
  rw [readRange_eq]
  refine (steady_readMember f).bind hfirst fun first r h => ?_
  rcases h with rfl | ⟨⟨b, rfl⟩, t, _, rfl⟩
  · exact (hfirst first).lost_nil fun _ => .inl rfl
  · -- a word boundary cannot stand in a set
    rw [skipped_bind, List.cons_append, skip_cons (by decide) (by decide)]
    simp [rangeFrom, rangeFollows_cons, Reader.bind, present, singleOf, Lost]

theorem consumes_readRange (f : Flags) : Consumes (readRange f) := by
  rw [readRange_eq]
  exact (consumes_readMember f).bind (E := AtEnd) fun first =>
    (steady_skipped f).firm_bind fun _ => steady_rangeFrom f first

/-- At most so many hyphens in front. -/
def hyphens (f : Flags) (n : Nat) (o : OpenSet) : Reader OpenSet := fun s =>
  some (leadingHyphens f n o s)

theorem hyphens_succ (f : Flags) (n : Nat) (o : OpenSet) : hyphens f (n + 1) o =
    ifFront ['-'] ((skipped f).bind fun _ => hyphens f n (o.add (.single '-') 0))
      (give (some o)) := by
  funext s
  rcases s with _ | ⟨c, s⟩
  · rfl
  · by_cases hc : c = '-'
    · subst hc
      rw [ifFront_singleton_cons, if_pos rfl]
      rfl
    · simp [hyphens, leadingHyphens, hc, Ne.symm hc]

theorem hyphens_of_ne {o : OpenSet} (hc : c ≠ '-') :
    hyphens f n o (c :: s) = some (o, c :: s) := by
  cases n with
  | zero => rfl
  | succ n => rw [hyphens_succ, ifFront_singleton_cons, if_neg hc.symm, give_some]

theorem steady_hyphens {D : OpenSet → Text → Prop} (f : Flags) (n : Nat) (o : OpenSet) :
    Steady D (hyphens f n o) := by
  induction n generalizing o with
  | zero => exact fun s => .kept o List.suffix_rfl
  | succ n ih =>
    rw [hyphens_succ]
    exact .ifFront (by decide) ((steady_skipped f).firm_bind fun _ => ih _) (.give _)

theorem agree_hyphens (f : Flags) (o : OpenSet) (h : n ≤ m) :
    Agree (n + 1) (hyphens f n o) (hyphens f m o) := by
  induction n generalizing m o with
  | zero =>
    intro s hs
    obtain rfl : s = [] := List.length_eq_zero_iff.1 (by omega)
    cases m <;> rfl
  | succ n ih =>
    obtain ⟨m, rfl⟩ : ∃ k, m = k + 1 := ⟨m - 1, by omega⟩
    rw [hyphens_succ, hyphens_succ]
    exact .ifFront (.skipped_bind (ih _ (by omega))) (.refl _ _)

/-- What follows an opening bracket and a caret, if there is one. -/
def openingMembers (f : Flags) (negated : Bool) : Reader OpenSet :=
  ifFront [']'] ((skipped f).bind fun _ =>
      give (some ((OpenSet.start negated).add (.single ']') 0)))
    (Reader.bind (fun s => hyphens f s.length (.start negated) s) present)

theorem openingMembers_eq (f : Flags) (negated : Bool) (s : Text) : openingMembers f negated s =
    let (o, s') := leadingHyphens f s.length (.start negated) s
    match s, s' with
    | ']' :: rest, _ => some (o.add (.single ']') 0, skip f rest)
    | _, [] => none
    | _, s' => some (o, s') := by
  rcases s with _ | ⟨c, s⟩
  · rfl
  by_cases hc : c = ']'
  · subst hc
    have hnone : leadingHyphens f (']' :: s).length (.start negated) (']' :: s) =
        (.start negated, ']' :: s) := Option.some.inj (hyphens_of_ne (f := f) (by decide))
    rw [hnone]
    simp [openingMembers]
  · rw [openingMembers, ifFront_singleton_cons, if_neg (Ne.symm hc)]
    simp only [Reader.bind, hyphens, present]
    generalize leadingHyphens f (c :: s).length (.start negated) (c :: s) = p
    obtain ⟨o, rest⟩ := p
    cases rest <;> simp [hc]

theorem readOpening_eq (f : Flags) : readOpening f = (skipped f).bind fun _ =>
    ifFront ['^'] ((skipped f).bind fun _ => openingMembers f true) (openingMembers f false) := by
  funext s
  rw [skipped_bind, readOpening]
  rcases skip f s with _ | ⟨c, s⟩
  · rfl
  by_cases hc : c = '^'
  · subst hc
    rw [ifFront_singleton_cons, if_pos rfl, skipped_bind, openingMembers_eq]
    rfl
  · rw [ifFront_singleton_cons, if_neg (Ne.symm hc)]
    simp only [List.cons.injEq, hc, false_and, imp_self, implies_true]
    exact (openingMembers_eq f false (c :: s)).symm

theorem steady_readOpening (f : Flags) : Steady AtEnd (readOpening f) := by
  have hmembers (negated : Bool) : Steady AtEnd (openingMembers f negated) := by
    refine .ifFront (by decide) ((steady_skipped f).firm_bind fun _ => .give _)
      (Steady.firm_bind (.sized (steady_hyphens f · _) fun n s hs => ?_) .present)
    exact (agree_hyphens f _ hs s (Nat.lt_succ_self _)).symm
  rw [readOpening_eq]
  exact (steady_skipped f).firm_bind fun _ =>
    .ifFront (by decide) ((steady_skipped f).firm_bind fun _ => hmembers true) (hmembers false)

/-- A set inside another one, which is read on behind it. -/
def innerSet (f : Flags) (n : Nat) (o : OpenSet) : Nat → Reader (Nested CharSet)
  | 0 => give none
  | room + 1 => Reader.bind (readOpening f) fun inner =>
    Reader.bind (readSet f n room inner) fun t => readSet f n (room + 1) (o.add t.value t.depth)

/-- A named set inside another one, which is read on behind it. -/
def innerNamed (f : Flags) (n room : Nat) (o : OpenSet) (t : CharSet × Bool) :
    Reader (Nested CharSet) :=
  if !t.2 then readSet f n room (o.add (OpenSet.foldIf f t.1) 0)
  else if f.unicode then readSet f n room (o.add (OpenSet.foldIf f t.1).compl 0)
  else give none

theorem orElse_innerSet (f : Flags) (n room : Nat) (o : OpenSet) (s : Text) :
    namedSet.orElse (innerNamed f n room o) (innerSet f n o room) s =
      match readNamed ('[' :: s), room with
      | some (t, negated, rest), _ =>
        let t := OpenSet.foldIf f t
        if !negated then readSet f n room (o.add t 0) rest
        else if f.unicode then readSet f n room (o.add t.compl 0) rest
        else none
      | none, 0 => none
      | none, room + 1 =>
        match readOpening f s with
        | none => none
        | some (inner, rest) =>
          match readSet f n room inner rest with
          | none => none
          | some (t, rest) => readSet f n (room + 1) (o.add t.value t.depth) rest := by
  unfold Reader.orElse namedSet
  cases readNamed ('[' :: s) with
  | some p =>
    obtain ⟨t, negated, rest⟩ := p
    show innerNamed f n room o (t, negated) rest = _
    unfold innerNamed
    dsimp only
    split
    · rfl
    · split <;> rfl
  | none =>
    cases room with
    | zero => rfl
    | succ room =>
      show Reader.bind (readOpening f) _ s = _
      cases h : readOpening f s with
      | none => rw [bind_of_eq_none h]
      | some p =>
        rw [bind_of_eq_some h]
        dsimp only
        cases h' : readSet f n room p.1 p.2 with
        | none => rw [bind_of_eq_none h']
        | some q => rw [bind_of_eq_some h']

theorem readSet_succ (f : Flags) (n room : Nat) (o : OpenSet) : readSet f (n + 1) room o =
    (skipped f).bind fun _ => ifFront [']'] (give (o.close f))
      (ifFront ['&', '&'] (readSet f n room (o.wait f .intersection))
      (ifFront ['-', '-'] (readSet f n room (o.wait f .difference))
      (ifFront ['~', '~'] (readSet f n room (o.wait f .symmetricDifference))
      (ifFront ['['] (namedSet.orElse (innerNamed f n room o) (innerSet f n o room))
      (Reader.bind (readRange f) fun t => readSet f n room (o.add t 0)))))) := by
  funext s
  rw [skipped_bind, readSet]
  split
  next h => rw [h]; rfl
  next rest h => simp [h, give]
  next rest h => simp [h]
  next rest h => simp [h]
  next rest h => simp [h]
  next rest h =>
    simp only [h, ifFront_cons_cons, ifFront_nil_front, Char.reduceEq, if_false, if_true]
    exact (orElse_innerSet f n room o rest).symm
  next hclose hand hminus htilde hopen =>
    rw [ifFront_of_forall_ne hclose, ifFront_of_forall_ne hand, ifFront_of_forall_ne hminus,
      ifFront_of_forall_ne htilde, ifFront_of_forall_ne hopen]
    cases h : readRange f (skip f s) with
    | none => rw [bind_of_eq_none h]
    | some p => rw [bind_of_eq_some h]

theorem closed_namedSet : Closed namedSet := by
  rw [namedSet_eq]
  exact .ifFront (by decide) (.ifFront (by decide) (closed_className true) (closed_className false))
    (.give none)

theorem readRange_atEnd (h : r = [] ∨ r = [')']) : readRange f r = none := by
  rcases h with rfl | rfl
  · rfl
  · rw [readRange_eq]
    have hmember : readMember f [')'] = some (.literal ')' false, []) := rfl
    rw [bind_of_eq_some hmember, skipped_bind, skip_nil]
    rfl

/-- At the end of a text there is no bracket left to close a set. -/
theorem readSet_atEnd {o : OpenSet} {room : Nat} (h : r = [] ∨ r = [')']) :
    readSet f n room o r = none := by
  cases n with
  | zero => rfl
  | succ n =>
    have hmember : Reader.bind (readRange f) (fun t => readSet f n room (o.add t 0)) r = none :=
      bind_of_eq_none (readRange_atEnd h)
    rw [readSet_succ, skipped_bind, skip_of_atEnd h]
    rcases h with rfl | rfl
    · simpa using hmember
    · simpa using hmember

theorem steady_readSet {D : Nested CharSet → Text → Prop} (f : Flags) (n room : Nat) (o : OpenSet) :
    Steady D (readSet f n room o) := by
  induction n generalizing D room o with
  | zero => exact fun s => .lost trivial
  | succ n ih =>
    have hinner : Steady D (innerSet f n o room) := by
      cases room with
      | zero => exact .give none
      | succ room =>
        refine (steady_readOpening f).bind
          (fun inner => Steady.firm_bind (ih room inner) fun _ => ih _ _) fun inner r h => ?_
        rw [bind_of_eq_none (readSet_atEnd h)]
        trivial
    have hnamed (t : CharSet × Bool) : Steady D (innerNamed f n room o t) := by
      unfold innerNamed
      split
      · exact ih _ _
      · split
        · exact ih _ _
        · exact .give none
    have hmember : Steady D (Reader.bind (readRange f) fun t => readSet f n room (o.add t 0)) :=
      (steady_readRange f).bind (fun _ => ih _ _) fun _ r h => by rw [readSet_atEnd h]; trivial
    rw [readSet_succ]
    exact (steady_skipped f).firm_bind fun _ => .ifFront (by decide) (.give _)
      (.ifFront (by decide) (ih _ _) (.ifFront (by decide) (ih _ _) (.ifFront (by decide) (ih _ _)
      (.ifFront (by decide) (.orElse closed_namedSet hnamed hinner) hmember))))

/-- The fuel does not matter where it is more than the length of the text. -/
theorem agree_readSet (f : Flags) (room : Nat) (o : OpenSet) (h : n ≤ m) :
    Agree n (readSet f n room o) (readSet f m room o) := by
  induction n generalizing m room o with
  | zero => exact fun s hs => absurd hs (Nat.not_lt_zero _)
  | succ n ih =>
    obtain ⟨m, rfl⟩ : ∃ k, m = k + 1 := ⟨m - 1, by omega⟩
    have ih (room : Nat) (o : OpenSet) : Agree n (readSet f n room o) (readSet f m room o) :=
      ih room o (by omega)
    have hinner : Agree n (innerSet f n o room) (innerSet f m o room) := by
      cases room with
      | zero => exact .refl n _
      | succ room =>
        exact .bind (steady_readOpening f) (.refl n _) fun inner =>
          .bind (D := UsedUp) (steady_readSet f n room inner) (ih room inner) fun _ => ih _ _
    have hnamed (t : CharSet × Bool) :
        Agree n (innerNamed f n room o t) (innerNamed f m room o t) := by
      unfold innerNamed
      split
      · exact ih _ _
      · split
        · exact ih _ _
        · exact .refl n _
    rw [readSet_succ, readSet_succ]
    exact .skipped_bind (.ifFront (.refl _ _) (.ifFront (ih _ _) (.ifFront (ih _ _)
      (.ifFront (ih _ _) (.ifFront (.orElse closed_namedSet hnamed hinner)
      (.bind_consumes (consumes_readRange f) fun _ => ih _ _))))))

theorem readBracket_eq (f : Flags) : readBracket f = Reader.bind (readOpening f) fun o =>
    fun s => readSet f (s.length + 1) Nesting.limit o s := by
  funext s
  unfold readBracket Reader.bind
  cases readOpening f s <;> rfl

theorem steady_readBracket {D : Nested CharSet → Text → Prop} (f : Flags) :
    Steady D (readBracket f) := by
  rw [readBracket_eq]
  refine (steady_readOpening f).bind (fun o => ?_) fun o r h => ?_
  · refine .sized (fun n => steady_readSet f (n + 1) Nesting.limit o) fun n s hs => ?_
    exact (agree_readSet f Nesting.limit o (Nat.succ_le_succ hs) s (Nat.lt_succ_self _)).symm
  · rw [readSet_atEnd h]
    trivial

end Regex

end PathTemplates
