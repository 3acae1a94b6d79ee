import PathTemplates.Proofs.Regex.Readers
import PathTemplates.Regex.Reader

namespace PathTemplates

namespace Regex

open Reader

variable {α : Type} {D : α → Text → Prop} {f : Flags} {r s : Text} {c : Char} {verbose : Bool}

theorem dropBlanks_suffix (inComment : Bool) (s : Text) : dropBlanks inComment s <:+ s := by
  induction s generalizing inComment with
  | nil => cases inComment <;> exact List.suffix_rfl
  | cons c s ih =>
    cases inComment with
    | true => exact (ih _).trans (List.suffix_cons c s)
    | false =>
      unfold dropBlanks
      split
      · exact (ih _).trans (List.suffix_cons c s)
      · split
        · exact (ih _).trans (List.suffix_cons c s)
        · exact List.suffix_rfl

/-- A comment that began before the text, or in it, is still open where the text ends. -/
def OpenComment (inComment : Bool) (s : Text) : Prop := HasSign s ∨ inComment = true ∧ '\n' ∉ s

namespace OpenComment

theorem cons {inComment : Bool} (h : OpenComment inComment s) (hin : inComment = true → c = '#') :
    OpenComment false (c :: s) := by
  rcases h with h | ⟨hcomment, hline⟩
  · exact .inl (h.of_suffix (List.suffix_cons c s))
  · obtain rfl := hin hcomment
    exact .inl ⟨[], s, rfl, hline⟩

theorem cons_in (h : OpenComment (decide (c ≠ '\n')) s) : OpenComment true (c :: s) := by
  rcases h with h | ⟨hc, hline⟩
  · exact .inl (h.of_suffix (List.suffix_cons c s))
  · refine .inr ⟨rfl, ?_⟩
    simp only [List.mem_cons, not_or]
    exact ⟨fun e => of_decide_eq_true hc e.symm, hline⟩

theorem hasSign (h : OpenComment false s) : HasSign s :=
  h.resolve_right fun h => Bool.false_ne_true h.1

end OpenComment

theorem dropBlanks_append (inComment : Bool) (s : Text) :
    dropBlanks inComment (s ++ [')']) = dropBlanks inComment s ++ [')'] ∨
    dropBlanks inComment s = [] ∧ dropBlanks inComment (s ++ [')']) = [] ∧
      OpenComment inComment s := by
  induction s generalizing inComment with
  | nil =>
    cases inComment with
    | true => exact .inr ⟨rfl, rfl, .inr ⟨rfl, List.not_mem_nil⟩⟩
    | false => exact .inl rfl
  | cons c s ih =>
    cases inComment with
    | true => exact (ih _).imp_right fun ⟨h, h', hopen⟩ => ⟨h, h', hopen.cons_in⟩
    | false =>
      rw [List.cons_append, dropBlanks, dropBlanks]
      split
      · exact (ih _).imp_right fun ⟨h, h', hopen⟩ => ⟨h, h', hopen.cons nofun⟩
      · split
        next hc => exact (ih _).imp_right fun ⟨h, h', hopen⟩ => ⟨h, h', hopen.cons fun _ => hc⟩
        · exact .inl rfl

theorem skip_suffix (f : Flags) (s : Text) : skip f s <:+ s := by
  unfold skip
  split
  · exact dropBlanks_suffix false s
  · exact List.suffix_rfl

@[simp] theorem skip_nil (f : Flags) : skip f [] = [] := by
  unfold skip
  split <;> rfl

theorem skip_cons (hblank : isBlank c = false) (hsign : c ≠ '#') : skip f (c :: s) = c :: s := by
  simp [skip, dropBlanks, hblank, hsign]

theorem skip_append (f : Flags) (s : Text) : skip f (s ++ [')']) = skip f s ++ [')'] ∨
    skip f s = [] ∧ skip f (s ++ [')']) = [] ∧ HasSign s := by
  unfold skip
  split
  · exact (dropBlanks_append false s).imp_right fun ⟨h, h', hopen⟩ => ⟨h, h', hopen.hasSign⟩
  · exact .inl rfl

theorem steady_skipped {D : Unit → Text → Prop} (f : Flags) : Steady D (skipped f) := by
  intro s
  rcases skip_append f s with h | ⟨h, h', hsign⟩
  · unfold skipped
    rw [h]
    exact .kept () (skip_suffix f s)
  · unfold skipped
    rw [h, h']
    exact .swallowed () hsign

theorem Agree.skipped_bind {β : Type} {n : Nat} {K K' : Unit → Reader β}
    (h : Agree n (K ()) (K' ())) : Agree n ((skipped f).bind K) ((skipped f).bind K') :=
  .bind (D := UsedUp) (steady_skipped f) (.refl n _) fun _ => h

theorem isBlank_closing : isBlank ')' = false := by decide

/-- At the end of a text, and in front of the parenthesis behind it, there is nothing to skip. -/
theorem skip_of_atEnd (h : r = [] ∨ r = [')']) : skip f r = r := by
  rcases h with rfl | rfl
  · exact skip_nil f
  · exact skip_cons isBlank_closing (by decide)

/-- Blanks alone, wherever they stand. -/
def blanks : Reader Unit := fun s => some ((), s.dropWhile isBlank)

theorem steady_blanks {D : Unit → Text → Prop} : Steady D blanks := by
  intro s
  have happend : (s ++ [')']).dropWhile isBlank = s.dropWhile isBlank ++ [')'] := by
    rw [List.dropWhile_append]
    split
    next h =>
      rw [List.isEmpty_iff.1 h]
      simp [List.dropWhile, isBlank_closing]
    · rfl
  unfold blanks
  rw [happend]
  exact .kept () (List.dropWhile_suffix _)

theorem takeDigits_suffix (inComment : Bool) (s : Text) :
    (takeDigits verbose inComment s).2 <:+ s := by
  induction s generalizing inComment with
  | nil => cases inComment <;> exact List.suffix_rfl
  | cons c s ih =>
    have hrest (inComment : Bool) : (takeDigits verbose inComment s).2 <:+ c :: s :=
      (ih inComment).trans (List.suffix_cons c s)
    cases inComment with
    | true => exact hrest _
    | false =>
      unfold takeDigits
      split
      · exact hrest false
      · split
        · exact hrest false
        · split
          · exact hrest true
          · exact List.suffix_rfl

theorem takeDigits_append (inComment : Bool) (s : Text) :
    takeDigits verbose inComment (s ++ [')']) =
      ((takeDigits verbose inComment s).1, (takeDigits verbose inComment s).2 ++ [')']) ∨
    (takeDigits verbose inComment s).2 = [] ∧
      takeDigits verbose inComment (s ++ [')']) = ((takeDigits verbose inComment s).1, []) ∧
      OpenComment inComment s := by
  induction s generalizing inComment with
  | nil =>
    cases inComment with
    | true => exact .inr ⟨rfl, rfl, .inr ⟨rfl, List.not_mem_nil⟩⟩
    | false => left; cases verbose <;> rfl
  | cons c s ih =>
    cases inComment with
    | true => exact (ih _).imp_right fun ⟨h, h', hopen⟩ => ⟨h, h', hopen.cons_in⟩
    | false =>
      rw [List.cons_append, takeDigits, takeDigits]
      split
      · rcases ih false with h | ⟨h, h', hopen⟩
        · rw [h]
          exact .inl rfl
        · rw [h']
          exact .inr ⟨h, rfl, hopen.cons nofun⟩
      · split
        · exact (ih _).imp_right fun ⟨h, h', hopen⟩ => ⟨h, h', hopen.cons nofun⟩
        · split
          next hc =>
            have hsign : c = '#' := (by simpa using hc : verbose = true ∧ c = '#').2
            exact (ih _).imp_right fun ⟨h, h', hopen⟩ => ⟨h, h', hopen.cons fun _ => hsign⟩
          · exact .inl rfl

theorem upToBrace_suffix {inComment : Bool} {t : Text}
    (h : upToBrace verbose inComment s = some (t, r)) : r <:+ s := by
  induction s generalizing inComment t with
  | nil => cases inComment <;> cases h
  | cons c s ih =>
    refine List.IsSuffix.trans ?_ (List.suffix_cons c s)
    cases inComment with
    | true => exact ih h
    | false =>
      unfold upToBrace at h
      split at h
      · cases h
        exact List.suffix_rfl
      · split at h
        · exact ih h
        · split at h
          · exact ih h
          · obtain ⟨⟨t', r'⟩, h', hp⟩ := Option.map_eq_some_iff.1 h
            cases hp
            exact ih h'

theorem upToBrace_append (inComment : Bool) (s : Text) :
    upToBrace verbose inComment (s ++ [')']) =
      (upToBrace verbose inComment s).map fun p => (p.1, p.2 ++ [')']) := by
  induction s generalizing inComment with
  | nil => cases inComment <;> cases verbose <;> rfl
  | cons c s ih =>
    cases inComment with
    | true => exact ih _
    | false =>
      rw [List.cons_append, upToBrace, upToBrace]
      split
      · rfl
      · split
        · exact ih _
        · split
          · exact ih _
          · rw [ih, Option.map_map, Option.map_map]
            rfl

/-- The digits in front, as a reader. -/
def digits (f : Flags) : Reader Text := fun s => some (takeDigits f.verbose false s)

theorem steady_digits {D : Text → Text → Prop} (f : Flags) : Steady D (digits f) := by
  intro s
  unfold digits
  rcases @takeDigits_append f.verbose false s with h | ⟨h, h', hopen⟩
  · rw [h]
    exact .kept _ (takeDigits_suffix false s)
  · rw [h', (Prod.ext rfl h : takeDigits f.verbose false s = (_, []))]
    exact .swallowed _ hopen.hasSign

theorem closed_upToBrace (f : Flags) : Closed (upToBrace f.verbose false) where
  append := upToBrace_append false
  suffix _ _ _ := upToBrace_suffix

def decimal (ds : Text) : Nat := ds.foldl (fun n c => 10 * n + (c.toNat - 48)) 0

theorem readCount_eq (f : Flags) : readCount f =
    blanks.bind fun _ => (digits f).bind fun ds => blanks.bind fun _ =>
      give (if ds = [] || decimal ds > maxCount then none else some (decimal ds)) := by
  funext s
  simp only [readCount, Reader.bind, blanks, digits, give]
  generalize takeDigits f.verbose false (s.dropWhile isBlank) = p
  show (if p.1 = [] || decimal p.1 > maxCount then none
    else some (decimal p.1, p.2.dropWhile isBlank)) = Option.map _ _
  split <;> rfl

theorem steady_readCount {D : Nat → Text → Prop} (f : Flags) : Steady D (readCount f) := by
  rw [readCount_eq]
  exact steady_blanks.firm_bind fun _ => (steady_digits f).firm_bind fun _ =>
    steady_blanks.firm_bind fun _ => .give _

/-- The counts of a repetition, as one outcome. -/
def counts (f : Flags) : Reader (Nat × Option Nat) := fun s =>
  (readCounts f s).map fun p => ((p.1, p.2.1), p.2.2)

/-- The greatest number of rounds and the closing brace, from behind the comma. -/
def upperCount (f : Flags) (least : Nat) : Reader (Nat × Option Nat) :=
  Reader.bind (readCount f) fun most => (expect '\x7d').bind fun _ =>
    give (if least ≤ most then some (least, some most) else none)

theorem upperCount_eq (f : Flags) (least : Nat) (s : Text) : upperCount f least s =
    ((match readCount f s with
      | some (most, '\x7d' :: rest) =>
        if least ≤ most then some (least, some most, rest) else none
      | _ => none) : Option (Nat × Option Nat × Text)).map fun p => ((p.1, p.2.1), p.2.2) := by
  unfold upperCount
  cases h : readCount f s with
  | none => rw [bind_of_eq_none h]; rfl
  | some p =>
    obtain ⟨most, rest⟩ := p
    rw [bind_of_eq_some h]
    rcases rest with _ | ⟨c, rest⟩
    · rfl
    · by_cases hbrace : c = '}'
      · subst hbrace
        by_cases hle : least ≤ most <;> simp [hle]
      · simp [hbrace]

theorem counts_eq (f : Flags) : counts f = (skipped f).bind fun _ =>
    Reader.bind (readCount f) fun least =>
      ifFront [','] ((skipped f).bind fun _ =>
        ifFront ['\x7d'] (give (some (least, none))) (upperCount f least))
      ((expect '\x7d').bind fun _ => give (some (least, some least))) := by
  funext s
  rw [skipped_bind, counts, readCounts]
  cases h : readCount f (skip f s) with
  | none => rw [bind_of_eq_none h]; rfl
  | some p =>
    obtain ⟨least, rest⟩ := p
    rw [bind_of_eq_some h]
    rcases rest with _ | ⟨c, rest⟩
    · rfl
    · by_cases hcomma : c = ','
      · subst hcomma
        simp only [ifFront_singleton_cons, if_true, skipped_bind]
        rcases skip f rest with _ | ⟨c, rest⟩
        · exact (upperCount_eq f least []).symm
        · by_cases hbrace : c = '}'
          · subst hbrace
            simp
          · simp only [ifFront_singleton_cons, Ne.symm hbrace, if_false]
            simp only [List.cons.injEq, hbrace, false_and, imp_self, implies_true]
            exact (upperCount_eq f least (c :: rest)).symm
      · by_cases hbrace : c = '}'
        · subst hbrace
          simp
        · simp [hcomma, hbrace, Ne.symm hcomma]

theorem steady_counts (f : Flags) : Steady UsedUp (counts f) := by
  rw [counts_eq]
  refine (steady_skipped f).firm_bind fun _ => (steady_readCount f).firm_bind fun least =>
    .ifFront (by decide) ((steady_skipped f).firm_bind fun _ => .ifFront (by decide) (.give _)
      ((steady_readCount f).firm_bind fun most => (Steady.expect _).usedUp_bind fun _ => .give _))
    ((Steady.expect _).usedUp_bind fun _ => .give _)

theorem readHexDigits_succ (f : Flags) (k n : Nat) :
    readHexDigits f (k + 1) n = next.bind fun c => (skipped f).bind fun _ =>
      if isHexDigit c then readHexDigits f k (16 * n + hexValue c) else give none := by
  funext s
  rcases s with _ | ⟨c, s⟩
  · rfl
  · simp only [readHexDigits, next_bind_cons, skipped_bind]
    split <;> rfl

theorem steady_readHexDigits (f : Flags) (k n : Nat) : Steady UsedUp (readHexDigits f k n) := by
  induction k generalizing n with
  | zero => exact fun s => .kept n List.suffix_rfl
  | succ k ih =>
    rw [readHexDigits_succ]
    refine Steady.next.usedUp_bind fun c => (steady_skipped f).firm_bind fun _ => ?_
    split
    · exact ih _
    · exact .give _

/-- A character given by so many digits. -/
def codeOfDigits (f : Flags) (count : Nat) : Reader Element :=
  Reader.bind (readHexDigits f count 0) fun n =>
    give ((charOfCode? n).map fun c => .literal c (count = 2))

theorem codeOfDigits_eq (f : Flags) (count : Nat) (s : Text) : codeOfDigits f count s =
    match readHexDigits f count 0 s with
    | none => none
    | some (n, rest) => (charOfCode? n).map fun c => (.literal c (count = 2), rest) := by
  unfold codeOfDigits
  cases h : readHexDigits f count 0 s with
  | none => rw [bind_of_eq_none h]
  | some p => rw [bind_of_eq_some h, give, Option.map_map]; rfl

theorem readCode_eq (f : Flags) (count : Nat) : readCode f count = (skipped f).bind fun _ =>
    ifFront ['\x7b'] (Reader.bind (upToBrace f.verbose false) fun hex =>
        give (if hex = [] || !hex.all isHexDigit then none
          else (charOfCode? (hex.foldl (fun n c => 16 * n + hexValue c) 0)).map
            fun c => .literal c false))
      (codeOfDigits f count) := by
  funext s
  rw [skipped_bind, readCode]
  rcases skip f s with _ | ⟨c, rest⟩
  · exact (codeOfDigits_eq f count []).symm
  · by_cases hbrace : c = '{'
    · subst hbrace
      simp only [ifFront_singleton_cons, if_true]
      cases h : upToBrace f.verbose false rest with
      | none => rw [bind_of_eq_none h]
      | some p =>
        rw [bind_of_eq_some h, give]
        dsimp only
        split
        · rfl
        · rw [Option.map_map]; rfl
    · rw [ifFront_singleton_cons, if_neg (Ne.symm hbrace)]
      simp only [List.cons.injEq, hbrace, false_and, imp_self, implies_true]
      exact (codeOfDigits_eq f count (c :: rest)).symm

theorem steady_readCode (f : Flags) (count : Nat) : Steady UsedUp (readCode f count) := by
  rw [readCode_eq]
  exact (steady_skipped f).firm_bind fun _ => .ifFront (by decide)
    ((closed_upToBrace f).steady.firm_bind fun _ => .give _)
    ((steady_readHexDigits f count 0).usedUp_bind fun _ => .give _)

/-- The name of a property, in braces or one letter. -/
def propertyName (f : Flags) : Reader Text :=
  ifFront ['\x7b'] (upToBrace f.verbose false)
    (next.bind fun c => give (if c = '\\' then none else some [c]))

def propertyElement (f : Flags) (negated : Bool) (name : Text) : Option Element :=
  if !f.unicode then none
  else (propertyOf name).map fun (s, unequal) =>
    let s := if f.ignoreCase then s.fold true else s
    .set (if negated != unequal then s.compl else s)

theorem readProperty_eq (f : Flags) (negated : Bool) : readProperty f negated =
    (skipped f).bind fun _ => (propertyName f).bind fun name =>
      give (propertyElement f negated name) := by
  funext s
  have helement (name rest : Text) : give (propertyElement f negated name) rest =
      if !f.unicode then none
      else (propertyOf name).map fun (s, unequal) =>
        let s := if f.ignoreCase then s.fold true else s
        (.set (if negated != unequal then s.compl else s), rest) := by
    unfold give propertyElement
    split
    · rfl
    · rw [Option.map_map]
      rfl
  rw [skipped_bind, readProperty]
  rcases skip f s with _ | ⟨c, rest⟩
  · rfl
  · by_cases hbrace : c = '{'
    · subst hbrace
      cases h : upToBrace f.verbose false rest with
      | none => simp [propertyName, Reader.bind, h]
      | some p => simp [propertyName, Reader.bind, h, helement]
    · by_cases hback : c = '\\' <;>
        simp [propertyName, Reader.bind, next, hback, Ne.symm hbrace, helement]

theorem steady_readProperty (f : Flags) (negated : Bool) :
    Steady UsedUp (readProperty f negated) := by
  rw [readProperty_eq]
  exact (steady_skipped f).firm_bind fun _ => Steady.usedUp_bind
    (.ifFront (by decide) (closed_upToBrace f).steady (Steady.next.usedUp_bind fun _ => .give _))
    fun _ => .give _

/-- A word boundary that needs more behind its brace than there is, in front of that brace: the
repetition that would have to follow cannot be read either. -/
def AtBrace (f : Flags) (e : Element) (r : Text) : Prop :=
  r = [] ∨ (∃ b, e = .expr b) ∧ ∃ t, skip f t = [] ∧ r = '{' :: t ++ [')']

theorem readWordBoundary_cons_brace (f : Flags) (s : Text) : readWordBoundary f ('\x7b' :: s) =
    match skip f s with
    | [] => none
    | c :: _ =>
      if c.isAlpha || c = '-' then
        Reader.bind (upToBrace f.verbose false)
          (fun name => give ((wordEdge? (String.ofList name)).map (word f))) s
      else some (word f .boundary, '\x7b' :: s) := by
  rw [readWordBoundary]
  rcases skip f s with _ | ⟨c, rest⟩
  · rfl
  · dsimp only
    split
    · cases h : upToBrace f.verbose false s with
      | none => rw [bind_of_eq_none h]
      | some p => rw [bind_of_eq_some h, give, Option.map_map]; rfl
    · rfl

theorem steady_readWordBoundary (f : Flags) : Steady (AtBrace f) (readWordBoundary f) := by
  intro s
  rcases s with _ | ⟨c, s⟩
  · exact .kept _ List.suffix_rfl
  by_cases hbrace : c = '{'
  · subst hbrace
    rw [List.cons_append, readWordBoundary_cons_brace, readWordBoundary_cons_brace]
    rcases skip_append f s with h | ⟨h, h', _⟩
    · rw [h]
      cases hs : skip f s with
      | nil => exact .lost (.inr ⟨⟨_, rfl⟩, s, hs, rfl⟩)
      | cons d t =>
        dsimp only [List.cons_append]
        split
        · exact (Steady.firm_bind (closed_upToBrace f).steady (fun _ => .give _) s).of_suffix
            (List.suffix_cons _ s)
        · exact .kept _ List.suffix_rfl
    · rw [h, h']
      exact .lost trivial
  · have hplain (t : Text) : readWordBoundary f (c :: t) = some (word f .boundary, c :: t) := by
      simp [readWordBoundary, hbrace]
    rw [List.cons_append, hplain, hplain]
    exact .kept _ List.suffix_rfl

theorem steady_readLetterClass {D : Element → Text → Prop} (f : Flags) (letter : Char) :
    Steady D (readLetterClass f letter) := by
  intro s
  unfold readLetterClass
  dsimp only
  split
  · exact .kept _ List.suffix_rfl
  · split
    · exact .kept _ List.suffix_rfl
    · exact .lost trivial

theorem steady_readEscape (f : Flags) : Steady (AtBrace f) (readEscape f) := by
  have husedUp (e : Element) (r : Text) (h : UsedUp e r) : AtBrace f e r := .inl h
  intro s
  rcases s with _ | ⟨c, s⟩
  · exact .lost (.inl rfl)
  · refine Parallel.of_suffix ?_ (List.suffix_cons c s)
    rw [List.cons_append]
    unfold readEscape
    dsimp only
    split
    · exact .kept _ List.suffix_rfl
    · split
      · exact (steady_readCode f 2).mono husedUp s
      · exact (steady_readCode f 4).mono husedUp s
      · exact (steady_readCode f 8).mono husedUp s
      · exact (steady_readProperty f false).mono husedUp s
      · exact (steady_readProperty f true).mono husedUp s
      iterate 6 exact steady_readLetterClass f _ s
      iterate 8 exact .kept _ List.suffix_rfl
      · exact steady_readWordBoundary f s
      iterate 3 exact .kept _ List.suffix_rfl
      · exact .lost trivial

theorem readItem_eq (f : Flags) : readItem f =
    ifFront ['\\'] (Reader.bind (readEscape f) fun e => give (elementExpr f e))
      (ifFront ['.'] (give (dot f))
      (ifFront ['^'] (give (some (.check (if f.multiLine then .lineStart f.crlf else .textStart))))
      (ifFront ['$'] (give (some (.check (if f.multiLine then .lineEnd f.crlf else .textEnd))))
      (next.bind fun c => give (elementExpr f (.literal c false)))))) := by
  funext s
  rcases s with _ | ⟨c, s⟩
  · rfl
  by_cases hback : c = '\\'
  · subst hback
    rw [ifFront_singleton_cons, if_pos rfl, readItem]
    cases h : readEscape f s with
    | none => rw [bind_of_eq_none h]
    | some p => rw [bind_of_eq_some h]; rfl
  by_cases hdot : c = '.'
  · subst hdot
    simp [readItem, give]
  by_cases hcaret : c = '^'
  · subst hcaret
    simp [readItem]
  by_cases hdollar : c = '$'
  · subst hdollar
    simp [readItem]
  simp [readItem, give, Ne.symm hback, Ne.symm hdot, Ne.symm hcaret, Ne.symm hdollar]

/-- `AtBrace` for a boundary that is an item of its own. -/
def ItemAtBrace (f : Flags) (_ : CharExpr) (r : Text) : Prop :=
  r = [] ∨ ∃ t, skip f t = [] ∧ r = '{' :: t ++ [')']

theorem steady_escapeItem (f : Flags) : Steady (ItemAtBrace f)
    (Reader.bind (readEscape f) fun e => give (elementExpr f e)) := by
  refine (steady_readEscape f).bind (fun _ => .give _) fun e r h => ?_
  cases he : elementExpr f e with
  | none => trivial
  | some b => exact h.imp_right And.right

theorem steady_readItem (f : Flags) : Steady (ItemAtBrace f) (readItem f) := by
  have hnext (c : Char) (r : Text) (h : UsedUp c r) :
      Lost (ItemAtBrace f) (give (elementExpr f (.literal c false)) r) := by
    cases elementExpr f (.literal c false) with
    | none => trivial
    | some b => exact .inl h
  rw [readItem_eq]
  exact .ifFront (by decide) (steady_escapeItem f) (.ifFront (by decide) (.give _)
    (.ifFront (by decide) (.give _) (.ifFront (by decide) (.give _)
    (Steady.next.bind (fun _ => .give _) hnext))))

theorem consumes_readItem (f : Flags) : Consumes (readItem f) := by
  have hgive (x : Option CharExpr) : Steady UsedUp (give x) := .give x
  rw [readItem_eq]
  exact .ifFront (steady_escapeItem f) (.ifFront (hgive _) (.ifFront (hgive _)
    (.ifFront (hgive _) (Consumes.next.bind fun _ => hgive _))))

end Regex

end PathTemplates
