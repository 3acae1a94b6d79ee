import Mathlib.Data.List.Basic
import Mathlib.Data.List.Infix
import PathTemplates.Regex.Blanks

namespace PathTemplates

namespace Regex

/-- The last line of a text has a number sign. -/
def HasSign (s : Text) : Prop :=
  ∃ front comment, s = front ++ '#' :: comment ∧ '\n' ∉ comment

theorem HasSign.of_suffix {r s : Text} (h : HasSign r) (hr : r <:+ s) : HasSign s := by
  obtain ⟨t, rfl⟩ := hr
  obtain ⟨front, comment, rfl, hcomment⟩ := h
  exact ⟨t ++ front, comment, by rw [List.append_assoc], hcomment⟩

/-- Reads something from the front of a text and tells what is left. -/
abbrev Reader (α : Type) := Text → Option (α × Text)

variable {α β : Type} {D : α → Text → Prop} {E : β → Text → Prop} {R R' : Reader α}
  {K K' : α → Reader β} {a : α} {r s front : Text} {c : Char} {n m : Nat}

namespace Reader

/-- Reads nothing. -/
def give (x : Option α) : Reader α := fun s => x.map fun a => (a, s)

def bind (R : Reader α) (K : α → Reader β) : Reader β := fun s =>
  match R s with
  | none => none
  | some (a, rest) => K a rest

/-- One character, which there has to be. -/
def next : Reader Char
  | [] => none
  | c :: rest => some (c, rest)

/-- The first reader behind the given characters, if the text starts with them, or else the second
one. -/
def ifFront (front : Text) (R R' : Reader α) : Reader α := fun s =>
  if front <+: s then R (s.drop front.length) else R' s

theorem ifFront_append : ifFront front R R' (front ++ s) = R s := by
  rw [ifFront, if_pos (List.prefix_append front s), List.drop_left]

theorem ifFront_of_not (h : ¬ front <+: s) : ifFront front R R' s = R' s := if_neg h

theorem ifFront_of_forall_ne (h : ∀ rest, s ≠ front ++ rest) : ifFront front R R' s = R' s :=
  ifFront_of_not fun ⟨rest, e⟩ => h rest e.symm

@[simp] theorem ifFront_nil_front : ifFront [] R R' s = R s := by simp [ifFront]

@[simp] theorem ifFront_cons_cons {d : Char} : ifFront (c :: front) R R' (d :: s) =
    if c = d then ifFront front R (fun _ => R' (d :: s)) s else R' (d :: s) := by
  by_cases hc : c = d <;> simp [ifFront, hc]

@[simp] theorem ifFront_nil : ifFront (c :: front) R R' [] = R' [] :=
  ifFront_of_not fun h => by simp at h

theorem ifFront_singleton_cons {d : Char} :
    ifFront [c] R R' (d :: s) = if c = d then R s else R' (d :: s) := by
  rw [ifFront_cons_cons, ifFront_nil_front]

/-- The second reader where the first one fails. -/
def orElse (R : Reader α) (K : α → Reader β) (R' : Reader β) : Reader β := fun s =>
  match R s with
  | none => R' s
  | some (a, rest) => K a rest

/-- Reads nothing where the text or a group ends. -/
def orEnd (a : α) (R : Reader α) : Reader α := fun s =>
  if s = [] ∨ s.head? = some ')' then some (a, s) else R s

/-- Reads nothing if there is anything to read. -/
def present (a : α) : Reader α := fun s => if s = [] then none else some (a, s)

/-- Blanks and comments, where they mean nothing. -/
def skipped (f : Flags) : Reader Unit := fun s => some ((), skip f s)

/-- A character that has to follow. -/
def expect (c : Char) : Reader Unit := next.bind fun d => give (if d = c then some () else none)

@[simp] theorem give_none : (give none : Reader α) s = none := rfl

@[simp] theorem give_some : give (some a) s = some (a, s) := rfl

@[simp] theorem next_bind_nil {K : Char → Reader β} : next.bind K [] = none := rfl

@[simp] theorem next_bind_cons {K : Char → Reader β} : next.bind K (c :: s) = K c s := rfl

@[simp] theorem skipped_bind {f : Flags} {K : Unit → Reader β} :
    (skipped f).bind K s = K () (skip f s) := rfl

@[simp] theorem expect_bind_nil {K : Unit → Reader β} : (expect c).bind K [] = none := rfl

@[simp] theorem expect_bind_cons {d : Char} {K : Unit → Reader β} :
    (expect c).bind K (d :: s) = if d = c then K () s else none := by
  by_cases h : d = c <;> simp [Reader.bind, expect, next, give, h]

theorem bind_eq_some_iff {b : β} :
    R.bind K s = some (b, r) ↔ ∃ a t, R s = some (a, t) ∧ K a t = some (b, r) := by
  unfold bind
  cases R s with
  | none => simp
  | some p => exact ⟨fun h => ⟨p.1, p.2, rfl, h⟩, fun ⟨_, _, hp, h⟩ => by cases hp; exact h⟩

theorem expect_bind_eq_some_iff {b : β} {K : Unit → Reader β} :
    (expect c).bind K s = some (b, r) ↔ ∃ t, s = c :: t ∧ K () t = some (b, r) := by
  rcases s with _ | ⟨d, s⟩
  · simp
  · by_cases h : d = c <;> simp [h]

theorem bind_of_eq_none (h : R s = none) : R.bind K s = none := by rw [Reader.bind, h]

theorem bind_of_eq_some (h : R s = some (a, r)) : R.bind K s = K a r := by rw [Reader.bind, h]

end Reader

open Reader

/-- An outcome that is a failure, or can only lead to one. -/
def Lost (D : α → Text → Prop) : Option (α × Text) → Prop
  | none => True
  | some (a, r) => D a r

/-- All of the text is read, to the parenthesis behind it. -/
def UsedUp (_ : α) (r : Text) : Prop := r = []

/-- What comes of reading a text without and with a closing parenthesis behind it: the same, with
the parenthesis left unless it is part of a comment, or else failure without it, and with it nothing
better than `D`. -/
inductive Parallel (D : α → Text → Prop) (s : Text) :
    Option (α × Text) → Option (α × Text) → Prop
  | kept (a : α) {r : Text} (h : r <:+ s) : Parallel D s (some (a, r)) (some (a, r ++ [')']))
  | swallowed (a : α) (h : HasSign s) : Parallel D s (some (a, [])) (some (a, []))
  | lost {x : Option (α × Text)} (h : Lost D x) : Parallel D s none x

/-- Nothing is left but, maybe, the parenthesis. -/
def AtEnd (_ : α) (r : Text) : Prop := r = [] ∨ r = [')']

/-- A reader that stops before the parenthesis whatever the text: it needs a last character of its
own. -/
structure Closed (R : Reader α) : Prop where
  append : ∀ s, R (s ++ [')']) = (R s).map fun p => (p.1, p.2 ++ [')'])
  suffix : ∀ s a r, R s = some (a, r) → r <:+ s

/-- A reader that fails with the parenthesis where it fails without it, but for what is lost. -/
def Steady (D : α → Text → Prop) (R : Reader α) : Prop := ∀ s, Parallel D s (R s) (R (s ++ [')']))

theorem Parallel.of_suffix {x y : Option (α × Text)} (h : Parallel D r x y) (hr : r <:+ s) :
    Parallel D s x y := by
  cases h with
  | kept a h => exact .kept a (h.trans hr)
  | swallowed a h => exact .swallowed a (h.of_suffix hr)
  | lost h => exact .lost h

theorem not_prefix_concat (hfront : ')' ∉ front) (h : ¬ front <+: s) : ¬ front <+: s ++ [')'] :=
  fun h' => (List.prefix_concat_iff.1 h').elim (fun e => hfront (by simp [e])) h

namespace Closed

theorem steady (hR : Closed R) : Steady D R := by
  intro s
  rw [hR.append]
  cases h : R s with
  | none => exact .lost trivial
  | some p => exact .kept p.1 (hR.suffix s p.1 p.2 h)

theorem give (x : Option α) : Closed (give x) where
  append s := by cases x <;> rfl
  suffix s a r h := by cases x <;> cases h; exact List.suffix_rfl

theorem bind (hR : Closed R) (hK : ∀ a, Closed (K a)) : Closed (R.bind K) where
  append s := by
    unfold Reader.bind
    rw [hR.append]
    cases R s with
    | none => rfl
    | some p => exact (hK p.1).append p.2
  suffix s b r h := by
    unfold Reader.bind at h
    cases hx : R s with
    | none => rw [hx] at h; cases h
    | some p =>
      rw [hx] at h
      exact ((hK p.1).suffix p.2 b r h).trans (hR.suffix s p.1 p.2 hx)

theorem ifFront (hfront : ')' ∉ front) (hR : Closed R) (hR' : Closed R') :
    Closed (ifFront front R R') where
  append s := by
    by_cases h : front <+: s
    · obtain ⟨t, rfl⟩ := h
      rw [List.append_assoc, ifFront_append, ifFront_append, hR.append]
    · rw [ifFront_of_not h, ifFront_of_not (not_prefix_concat hfront h), hR'.append]
  suffix s a r h := by
    by_cases hs : front <+: s
    · obtain ⟨t, rfl⟩ := hs
      rw [ifFront_append] at h
      exact (hR.suffix t a r h).trans (List.suffix_append front t)
    · rw [ifFront_of_not hs] at h
      exact hR'.suffix s a r h

theorem expect (hc : c ≠ ')') : Closed (expect c) where
  append s := by
    rcases s with _ | ⟨d, s⟩
    · simp [Reader.expect, Reader.bind, Reader.next, Reader.give, hc.symm]
    · by_cases h : d = c <;> simp [Reader.expect, Reader.bind, Reader.next, Reader.give, h]
  suffix s a r h := by
    rcases s with _ | ⟨d, s⟩
    · cases h
    · by_cases hd : d = c
      · simp only [Reader.expect, next_bind_cons, if_pos hd, give_some, Option.some.injEq,
          Prod.mk.injEq] at h
        exact h.2 ▸ List.suffix_cons d s
      · simp [Reader.expect, hd] at h

end Closed

namespace Steady

theorem suffix (hR : Steady D R) (h : R s = some (a, r)) : r <:+ s := by
  have hs := hR s
  rw [h] at hs
  generalize R (s ++ [')']) = y at hs
  cases hs with
  | kept _ h => exact h
  | swallowed _ _ => exact List.nil_suffix

theorem nil_of_nil (hR : Steady D R) (h : R [] = some (a, r)) : r = [] :=
  List.suffix_nil.1 (hR.suffix h)

theorem lost_nil (hR : Steady D R) (hD : ∀ a, D a []) : Lost D (R []) := by
  cases h : R [] with
  | none => trivial
  | some p =>
    obtain ⟨a, r⟩ := p
    obtain rfl : r = [] := hR.nil_of_nil h
    exact hD a

theorem mono {D₁ D₂ : α → Text → Prop} (hR : Steady D₁ R) (h : ∀ a r, D₁ a r → D₂ a r) :
    Steady D₂ R := by
  intro s
  generalize hx : R s = x, hy : R (s ++ [')']) = y
  have hs := hx ▸ hy ▸ hR s
  cases hs with
  | kept a h => exact .kept a h
  | swallowed a h => exact .swallowed a h
  | lost hlost =>
    cases y with
    | none => exact .lost trivial
    | some p => exact .lost (h p.1 p.2 hlost)

theorem give (x : Option α) : Steady D (give x) := by
  intro s
  cases x with
  | none => exact .lost trivial
  | some a => exact .kept a List.suffix_rfl

theorem next : Steady UsedUp next := by
  intro s
  cases s with
  | nil => exact .lost rfl
  | cons c r => exact .kept c (List.suffix_cons c r)

/-- Readers one behind the other, if what comes of a lost outcome of the first is lost again. -/
theorem bind (hR : Steady D R) (hK : ∀ a, Steady E (K a))
    (hlost : ∀ a r, D a r → Lost E (K a r)) : Steady E (R.bind K) := by
  intro s
  have hs := hR s
  unfold Reader.bind
  generalize R s = x, R (s ++ [')']) = y at hs ⊢
  cases hs with
  | kept a hr => exact (hK a _).of_suffix hr
  | swallowed a hsign =>
    dsimp only
    cases hx : K a [] with
    | none => exact .lost trivial
    | some p =>
      obtain ⟨b, r⟩ := p
      obtain rfl : r = [] := (hK a).nil_of_nil hx
      exact .swallowed b hsign
  | lost h =>
    cases y with
    | none => exact .lost trivial
    | some p => exact .lost (hlost p.1 p.2 h)

/-- A first reader that only fails with the parenthesis if it fails without it. -/
theorem firm_bind (hR : Steady (fun _ _ => False) R) (hK : ∀ a, Steady E (K a)) :
    Steady E (R.bind K) :=
  hR.bind hK fun _ _ h => h.elim

theorem usedUp_bind (hR : Steady UsedUp R) (hK : ∀ a, Steady UsedUp (K a)) :
    Steady UsedUp (R.bind K) :=
  hR.bind hK fun a _ h => h ▸ (hK a).lost_nil fun _ => rfl

theorem orElse {R₁ : Reader β} (hR : Closed R) (hK : ∀ a, Steady E (K a))
    (hR₁ : Steady E R₁) : Steady E (R.orElse K R₁) := by
  intro s
  unfold Reader.orElse
  rw [hR.append]
  cases h : R s with
  | none => exact hR₁ s
  | some p => exact (hK p.1 p.2).of_suffix (hR.suffix s p.1 p.2 h)

theorem present (a : α) : Steady AtEnd (present a) := by
  intro s
  unfold Reader.present
  rw [if_neg (List.append_ne_nil_of_right_ne_nil s (List.cons_ne_nil _ _))]
  split
  next h => exact .lost (.inr (by rw [h]; rfl))
  · exact .kept a List.suffix_rfl

theorem expect (c : Char) : Steady UsedUp (expect c) := next.usedUp_bind fun _ => give _

theorem ifFront (hfront : ')' ∉ front) (hR : Steady D R) (hR' : Steady D R') :
    Steady D (ifFront front R R') := by
  intro s
  by_cases h : front <+: s
  · obtain ⟨t, rfl⟩ := h
    rw [List.append_assoc, ifFront_append, ifFront_append]
    exact (hR t).of_suffix (List.suffix_append front t)
  · rw [ifFront_of_not h, ifFront_of_not (not_prefix_concat hfront h)]
    exact hR' s

theorem orEnd (a : α) (hR : Steady D R) : Steady D (orEnd a R) := by
  intro s
  unfold Reader.orEnd
  rcases s with _ | ⟨c, s⟩
  · exact .kept a List.suffix_rfl
  · have hhead : (c :: s ++ [')']).head? = (c :: s).head? := rfl
    simp only [hhead, List.append_eq_nil_iff, List.cons_ne_nil, false_and]
    split
    · exact .kept a List.suffix_rfl
    · exact hR (c :: s)

/-- A reader with a measure that does not matter beyond the length of the text. -/
theorem sized {R : Nat → Reader α} (hR : ∀ n, Steady D (R n))
    (hsize : ∀ n s, s.length ≤ n → R n s = R s.length s) : Steady D fun s => R s.length s := by
  intro s
  have hs := hR (s.length + 1) s
  rw [hsize (s.length + 1) s (Nat.le_succ _)] at hs
  have hlength : (s ++ [')']).length = s.length + 1 := List.length_append
  show Parallel D s (R s.length s) (R (s ++ [')']).length (s ++ [')']))
  rwa [hlength]

end Steady

/-- The two readers read all texts below the given length in the same way. -/
def Agree (n : Nat) (R R' : Reader α) : Prop := ∀ s, s.length < n → R s = R' s

/-- What is left is shorter than the text. -/
def Consumes (R : Reader α) : Prop := ∀ s a r, R s = some (a, r) → r.length < s.length

namespace Agree

theorem refl (n : Nat) (R : Reader α) : Agree n R R := fun _ _ => rfl

theorem bind (hR : Steady D R) (h : Agree n R R') (hK : ∀ a, Agree n (K a) (K' a)) :
    Agree n (R.bind K) (R'.bind K') := by
  intro s hs
  unfold Reader.bind
  rw [← h s hs]
  cases hx : R s with
  | none => rfl
  | some p => exact hK p.1 p.2 ((hR.suffix hx).length_le.trans_lt hs)

theorem bind_consumes (hR : Consumes R) (hK : ∀ a, Agree n (K a) (K' a)) :
    Agree (n + 1) (R.bind K) (R.bind K') := by
  intro s hs
  unfold Reader.bind
  cases hx : R s with
  | none => rfl
  | some p => exact hK p.1 p.2 ((hR s p.1 p.2 hx).trans_le (Nat.le_of_lt_succ hs))

theorem orEnd (a : α) (h : Agree n R R') : Agree n (orEnd a R) (orEnd a R') := by
  intro s hs
  unfold Reader.orEnd
  split
  · rfl
  · exact h s hs

theorem orElse {R₁ R₁' : Reader β} (hR : Closed R) (hK : ∀ a, Agree n (K a) (K' a))
    (h₁ : Agree n R₁ R₁') : Agree n (R.orElse K R₁) (R.orElse K' R₁') := by
  intro s hs
  unfold Reader.orElse
  cases hx : R s with
  | none => exact h₁ s hs
  | some p => exact hK p.1 p.2 ((hR.suffix s p.1 p.2 hx).length_le.trans_lt hs)

theorem ifFront_of_le {R₁ R₁' : Reader α} (h : Agree n R R') (h₁ : Agree m R₁ R₁')
    (hm : m ≤ n + front.length) : Agree m (ifFront front R R₁) (ifFront front R' R₁') := by
  intro s hs
  by_cases hfront : front <+: s
  · obtain ⟨t, rfl⟩ := hfront
    rw [ifFront_append, ifFront_append]
    rw [List.length_append] at hs
    exact h t (by omega)
  · rw [ifFront_of_not hfront, ifFront_of_not hfront]
    exact h₁ s hs

theorem ifFront {R₁ R₁' : Reader α} (h : Agree n R R') (h₁ : Agree (n + 1) R₁ R₁') :
    Agree (n + 1) (ifFront (c :: front) R R₁) (ifFront (c :: front) R' R₁') :=
  h.ifFront_of_le h₁ (by simp)

end Agree

namespace Consumes

theorem next : Consumes next := by
  intro s c r h
  cases s with
  | nil => cases h
  | cons d s => cases h; exact Nat.lt_succ_self _

theorem bind (hR : Consumes R) (hK : ∀ a, Steady E (K a)) : Consumes (R.bind K) := by
  intro s b r h
  unfold Reader.bind at h
  cases hx : R s with
  | none => rw [hx] at h; cases h
  | some p =>
    rw [hx] at h
    exact ((hK p.1).suffix h).length_le.trans_lt (hR s p.1 p.2 hx)

theorem ifFront (hR : Steady D R) (hR' : Consumes R') : Consumes (ifFront (c :: front) R R') := by
  intro s a r h
  by_cases hfront : (c :: front) <+: s
  · obtain ⟨t, rfl⟩ := hfront
    rw [ifFront_append] at h
    have hle := (hR.suffix h).length_le
    simp only [List.length_append, List.length_cons]
    omega
  · rw [ifFront_of_not hfront] at h
    exact hR' s a r h

end Consumes

end Regex

end PathTemplates
