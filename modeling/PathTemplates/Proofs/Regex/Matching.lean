import Mathlib.Data.List.Basic
import Mathlib.Order.Lattice
import Mathlib.Tactic.Tauto
import PathTemplates.Expr

namespace PathTemplates

/-- So many steps of a relation between places, each from where the one before ended. -/
def Rounds (R : Nat → Nat → Prop) : Nat → Nat → Nat → Prop
  | 0, i, j => i = j
  | n + 1, i, j => ∃ k, R i k ∧ Rounds R n k j

namespace Rounds

variable {R : Nat → Nat → Prop} {i j k m n : Nat}

theorem one_iff : Rounds R 1 i j ↔ R i j := by simp [Rounds]

theorem add_iff : Rounds R (m + n) i j ↔ ∃ k, Rounds R m i k ∧ Rounds R n k j := by
  induction m generalizing i with
  | zero => simp [Rounds]
  | succ m ih =>
    rw [Nat.succ_add]
    simp only [Rounds, ih]
    tauto

theorem append (h : Rounds R m i k) (h' : Rounds R n k j) : Rounds R (m + n) i j :=
  add_iff.2 ⟨k, h, h'⟩

theorem exists_le_succ_iff : (∃ m ≤ n + 1, Rounds R m i j) ↔
    i = j ∨ ∃ k, R i k ∧ ∃ m ≤ n, Rounds R m k j := by
  constructor
  · rintro ⟨m, hm, h⟩
    cases m with
    | zero => exact .inl h
    | succ m =>
      obtain ⟨k, hk, h⟩ := h
      exact .inr ⟨k, hk, m, by omega, h⟩
  · rintro (h | ⟨k, hk, m, hm, h⟩)
    · exact ⟨0, by omega, h⟩
    · exact ⟨m + 1, by omega, k, hk, h⟩

theorem exists_ge_succ_iff : (∃ m ≥ n + 1, Rounds R m i j) ↔
    ∃ k, R i k ∧ ∃ m ≥ n, Rounds R m k j := by
  constructor
  · rintro ⟨m, hm, h⟩
    obtain ⟨m, rfl⟩ := Nat.exists_eq_succ_of_ne_zero (by omega : m ≠ 0)
    obtain ⟨k, hk, h⟩ := h
    exact ⟨k, hk, m, by omega, h⟩
  · rintro ⟨k, hk, m, hm, h⟩
    exact ⟨m + 1, by omega, k, hk, h⟩

/-- Rounds do not leave what the single steps do not leave. -/
theorem within (hR : ∀ i j, R i j → i ≤ j ∧ j ≤ max i m) (h : Rounds R n i j) :
    i ≤ j ∧ j ≤ max i m := by
  induction n generalizing i with
  | zero => cases h; omega
  | succ n ih =>
    obtain ⟨k, hk, h⟩ := h
    have hfirst := hR i k hk
    have hrest := ih h
    omega

variable (hR : ∀ i j, R i j → i ≤ j)
include hR

theorem le (h : Rounds R n i j) : i ≤ j := by
  induction n generalizing i with
  | zero => exact h.le
  | succ n ih =>
    obtain ⟨k, hk, h⟩ := h
    exact (hR i k hk).trans (ih h)

theorem self_iff : Rounds R (n + 1) i i ↔ R i i := by
  constructor
  · rintro ⟨k, hk, h⟩
    obtain rfl : k = i := le_antisymm (le hR h) (hR i k hk)
    exact hk
  · intro h
    induction n with
    | zero => exact one_iff.2 h
    | succ n ih => exact ⟨i, h, ih⟩

/-- Rounds that go anywhere have a first one that does. -/
theorem exists_first (h : Rounds R n i j) (hij : i < j) :
    ∃ k m, i < k ∧ R i k ∧ Rounds R m k j := by
  induction n with
  | zero => exact absurd h hij.ne
  | succ n ih =>
    obtain ⟨k, hk, h⟩ := h
    rcases (hR i k hk).eq_or_lt with rfl | hlt
    · exact ih h
    · exact ⟨k, n, hlt, hk, h⟩

/-- Of more rounds than there are places to go, one stays where it is. -/
theorem exists_idle (h : Rounds R n i j) (hn : j - i < n) :
    ∃ k a b, n = a + 1 + b ∧ Rounds R a i k ∧ R k k ∧ Rounds R b k j := by
  induction n generalizing i with
  | zero => exact absurd hn (Nat.not_lt_zero _)
  | succ n ih =>
    obtain ⟨k, hk, h⟩ := h
    rcases (hR i k hk).eq_or_lt with rfl | hlt
    · exact ⟨i, 0, n, by omega, rfl, hk, h⟩
    · have hkj := le hR h
      obtain ⟨l, a, b, rfl, ha, hl, hb⟩ := ih h (by omega)
      exact ⟨l, a + 1, b, by omega, ⟨k, hk, ha⟩, hl, hb⟩

theorem succ_iff (hn : j - i < n) : Rounds R (n + 1) i j ↔ Rounds R n i j := by
  constructor
  · intro h
    obtain ⟨k, a, b, hab, ha, _, hb⟩ := exists_idle hR h (by omega)
    obtain rfl : n = a + b := by omega
    exact ha.append hb
  · intro h
    obtain ⟨k, a, b, rfl, ha, hk, hb⟩ := exists_idle hR h hn
    have hmore : Rounds R (a + 1 + 1 + b) i j :=
      ((ha.append (one_iff.2 hk)).append (one_iff.2 hk)).append hb
    rwa [Nat.add_right_comm (a + 1) 1 b] at hmore

/-- Beyond the number of places to go, the number of rounds does not matter. -/
theorem change (h : Rounds R n i j) (hn : j - i < n) (hm : j - i < m) : Rounds R m i j := by
  have hleast (l : Nat) (hl : j - i + 1 ≤ l) : Rounds R l i j ↔ Rounds R (j - i + 1) i j := by
    induction l, hl using Nat.le_induction with
    | base => rfl
    | succ l hl ih => rw [succ_iff hR hl, ih]
  exact (hleast m hm).2 ((hleast n hn).1 h)

end Rounds

section

variable {σ κ : Type} (holds : Option σ → Option σ → κ → Bool) (s : List σ)

/-- The symbol in front of a place, if there is one. -/
def symbolBefore : Nat → Option σ
  | 0 => none
  | i + 1 => s[i]?

/-- Whether a check passes at a place. -/
def passesAt (i : Nat) : κ → Bool := holds (symbolBefore s i) s[i]?

/-- There is a match from one place of the text to the other. A greatest number of rounds that is
less than the least one stands for the least one. -/
def Expr.Matches : Expr σ κ → Nat → Nat → Prop
  | empty, i, j => i = j
  | symbol accepts, i, j => j = i + 1 ∧ ∃ x ∈ s[i]?, accepts x = true
  | check k, i, j => i = j ∧ passesAt holds s i k = true
  | seq a b, i, j => ∃ k, a.Matches i k ∧ b.Matches k j
  | alt a b, i, j => a.Matches i j ∨ b.Matches i j
  | rep e least most, i, j =>
    ∃ n, least ≤ n ∧ (∀ m ∈ most, n ≤ max least m) ∧ Rounds e.Matches n i j

namespace MarkedExpr

/-- There is a match from one place to the other, whatever is marked. -/
def Fresh : MarkedExpr σ κ → Nat → Nat → Prop
  | empty, i, j => i = j
  | symbol accepts _, i, j => j = i + 1 ∧ ∃ x ∈ s[i]?, accepts x = true
  | check k, i, j => i = j ∧ passesAt holds s i k = true
  | seq a b, i, j => ∃ k, a.Fresh i k ∧ b.Fresh k j
  | alt a b, i, j => a.Fresh i j ∨ b.Fresh i j
  | loop e, i, j => ∃ n, Rounds e.Fresh (n + 1) i j

/-- A match that has reached the first place behind a marked symbol can go on to the second. -/
def Resumes : MarkedExpr σ κ → Nat → Nat → Prop
  | empty, _, _ => False
  | symbol _ mark, i, j => i = j ∧ mark = true
  | check _, _, _ => False
  | seq a b, i, j => (∃ k, a.Resumes i k ∧ b.Fresh holds s k j) ∨ b.Resumes i j
  | alt a b, i, j => a.Resumes i j ∨ b.Resumes i j
  | loop e, i, j => ∃ k n, e.Resumes i k ∧ Rounds (e.Fresh holds s) n k j

end MarkedExpr

end

variable {σ κ : Type} {holds : Option σ → Option σ → κ → Bool} {s : List σ}

namespace MarkedExpr

variable {m e : MarkedExpr σ κ} {i j n : Nat} {x : σ} {enter : Bool}

theorem Fresh.within (h : m.Fresh holds s i j) : i ≤ j ∧ j ≤ max i s.length := by
  induction m generalizing i j with
  | empty => cases h; omega
  | symbol accepts mark =>
    obtain ⟨rfl, x, hx, _⟩ := h
    have hi : i < s.length := (List.getElem?_eq_some_iff.1 hx).1
    omega
  | check k => cases h.1; omega
  | seq a b iha ihb =>
    obtain ⟨k, ha, hb⟩ := h
    have hfirst := iha ha
    have hsecond := ihb hb
    omega
  | alt a b iha ihb => exact h.elim iha ihb
  | loop e ih =>
    obtain ⟨n, h⟩ := h
    exact h.within fun _ _ => ih

theorem Fresh.le (h : m.Fresh holds s i j) : i ≤ j := h.within.1

theorem Resumes.le (h : m.Resumes holds s i j) : i ≤ j := by
  induction m generalizing i j with
  | empty => exact h.elim
  | symbol accepts mark => exact h.1.le
  | check k => exact h.elim
  | seq a b iha ihb =>
    rcases h with ⟨k, ha, hb⟩ | hb
    · exact (iha ha).trans hb.le
    · exact ihb hb
  | alt a b iha ihb => exact h.elim iha ihb
  | loop e ih =>
    obtain ⟨k, n, he, h⟩ := h
    exact (ih he).trans (h.le fun _ _ => Fresh.le)

theorem ending_fst_iff : (m.ending (passesAt holds s i)).1 = true ↔ m.Fresh holds s i i := by
  induction m with
  | empty => simp [ending, Fresh]
  | symbol accepts mark => simp [ending, Fresh]
  | check k => simp [ending, Fresh]
  | seq a b iha ihb =>
    simp only [ending, Bool.and_eq_true, iha, ihb, Fresh]
    constructor
    · rintro ⟨ha, hb⟩
      exact ⟨i, ha, hb⟩
    · rintro ⟨k, ha, hb⟩
      obtain rfl : k = i := le_antisymm hb.le ha.le
      exact ⟨ha, hb⟩
  | alt a b iha ihb => simp [ending, Fresh, iha, ihb]
  | loop e ih => simp [ending, Fresh, ih, Rounds.self_iff fun _ _ => Fresh.le]

theorem ending_snd_iff : (m.ending (passesAt holds s i)).2 = true ↔ m.Resumes holds s i i := by
  induction m with
  | empty => simp [ending, Resumes]
  | symbol accepts mark => simp [ending, Resumes]
  | check k => simp [ending, Resumes]
  | seq a b iha ihb =>
    simp only [ending, Bool.or_eq_true, Bool.and_eq_true, iha, ihb, ending_fst_iff, Resumes]
    refine or_congr_left ⟨fun ⟨ha, hb⟩ => ⟨i, ha, hb⟩, fun ⟨k, ha, hb⟩ => ?_⟩
    obtain rfl : k = i := le_antisymm hb.le ha.le
    exact ⟨ha, hb⟩
  | alt a b iha ihb => simp [ending, Resumes, iha, ihb]
  | loop e ih =>
    simp only [ending, ih, Resumes]
    refine ⟨fun h => ⟨i, 0, h, rfl⟩, fun ⟨k, n, h, hrounds⟩ => ?_⟩
    obtain rfl : k = i := le_antisymm (hrounds.le fun _ _ => Fresh.le) h.le
    exact h

@[simp] theorem fresh_read (here : κ → Bool) :
    (m.read here x enter).Fresh holds s = m.Fresh holds s := by
  induction m generalizing enter with
  | empty => rfl
  | symbol accepts mark => rfl
  | check k => rfl
  | seq a b iha ihb => funext i j; simp [read, Fresh, iha, ihb]
  | alt a b iha ihb => funext i j; simp [read, Fresh, iha, ihb]
  | loop e ih => funext i j; simp [read, Fresh, ih]

/-- After a symbol, the marks stand for the matches that were on their way to places behind it, and
for those that may begin in front of it and do not end there. -/
theorem resumes_read (hx : s[i]? = some x) :
    (m.read (passesAt holds s i) x enter).Resumes holds s (i + 1) j ↔
      i < j ∧ (m.Resumes holds s i j ∨ enter = true ∧ m.Fresh holds s i j) := by
  induction m generalizing enter j with
  | empty =>
    simp only [read, Resumes, Fresh, false_or, false_iff]
    exact fun ⟨hij, _, h⟩ => hij.ne h
  | check k =>
    simp only [read, Resumes, Fresh, false_or, false_iff]
    exact fun ⟨hij, _, h, _⟩ => hij.ne h
  | symbol accepts mark =>
    have hfresh : (symbol accepts mark : MarkedExpr σ κ).Fresh holds s i j ↔
        j = i + 1 ∧ accepts x = true := by simp [Fresh, hx]
    rw [hfresh]
    simp only [read, Resumes, Bool.and_eq_true]
    constructor
    · rintro ⟨rfl, henter, hx⟩
      exact ⟨i.lt_succ_self, .inr ⟨henter, rfl, hx⟩⟩
    · rintro ⟨hij, ⟨h, _⟩ | ⟨henter, rfl, hx⟩⟩
      · exact absurd h hij.ne
      · exact ⟨rfl, henter, hx⟩
  | seq a b iha ihb =>
    simp only [read, Resumes, Fresh, fresh_read, iha, ihb, Bool.or_eq_true, Bool.and_eq_true,
      ending_fst_iff, ending_snd_iff]
    constructor
    · rintro (⟨k, ⟨hik, h | ⟨henter, h⟩⟩, hb⟩ | ⟨hij, h | ⟨⟨henter, h⟩ | h, hb⟩⟩)
      · exact ⟨hik.trans_le hb.le, .inl (.inl ⟨k, h, hb⟩)⟩
      · exact ⟨hik.trans_le hb.le, .inr ⟨henter, k, h, hb⟩⟩
      · exact ⟨hij, .inl (.inr h)⟩
      · exact ⟨hij, .inr ⟨henter, i, h, hb⟩⟩
      · exact ⟨hij, .inl (.inl ⟨i, h, hb⟩)⟩
    · rintro ⟨hij, (⟨k, h, hb⟩ | h) | ⟨henter, k, h, hb⟩⟩
      · rcases h.le.eq_or_lt with rfl | hik
        · exact .inr ⟨hij, .inr ⟨.inr h, hb⟩⟩
        · exact .inl ⟨k, ⟨hik, .inl h⟩, hb⟩
      · exact .inr ⟨hij, .inl h⟩
      · rcases h.le.eq_or_lt with rfl | hik
        · exact .inr ⟨hij, .inr ⟨.inl ⟨henter, h⟩, hb⟩⟩
        · exact .inl ⟨k, ⟨hik, .inr ⟨henter, h⟩⟩, hb⟩
  | alt a b iha ihb =>
    simp only [read, Resumes, Fresh, iha, ihb]
    tauto
  | loop e ih =>
    simp only [read, Resumes, Fresh, fresh_read, ih, Bool.or_eq_true, ending_snd_iff]
    constructor
    · rintro ⟨k, n, ⟨hik, h | ⟨henter | h, hk⟩⟩, hrounds⟩
      · exact ⟨hik.trans_le (hrounds.le fun _ _ => Fresh.le), .inl ⟨k, n, h, hrounds⟩⟩
      · exact ⟨hik.trans_le (hrounds.le fun _ _ => Fresh.le), .inr ⟨henter, n, k, hk, hrounds⟩⟩
      · exact ⟨hik.trans_le (hrounds.le fun _ _ => Fresh.le),
          .inl ⟨i, n + 1, h, k, hk, hrounds⟩⟩
    · -- the round that goes beyond the symbol is the first one that goes anywhere
      rintro ⟨hij, ⟨k, n, h, hrounds⟩ | ⟨henter, n, hrounds⟩⟩
      · rcases h.le.eq_or_lt with rfl | hik
        · obtain ⟨k, n, hik, hk, hrounds⟩ := hrounds.exists_first (fun _ _ => Fresh.le) hij
          exact ⟨k, n, ⟨hik, .inr ⟨.inr h, hk⟩⟩, hrounds⟩
        · exact ⟨k, n, ⟨hik, .inl h⟩, hrounds⟩
      · obtain ⟨k, n, hik, hk, hrounds⟩ := hrounds.exists_first (fun _ _ => Fresh.le) hij
        exact ⟨k, n, ⟨hik, .inr ⟨.inl henter, hk⟩⟩, hrounds⟩

end MarkedExpr

namespace MarkedExpr

variable {e : MarkedExpr σ κ} {i j n : Nat}

theorem fresh_times : (e.times n).Fresh holds s i j ↔ Rounds (e.Fresh holds s) n i j := by
  induction n using times.induct generalizing i with
  | case1 => rfl
  | case2 => rw [times, Rounds.one_iff]
  | case3 n hn ih =>
    rw [times]
    · simp only [Fresh, Rounds, ih]
    · exact hn

theorem fresh_upTo :
    (e.upTo n).Fresh holds s i j ↔ ∃ m ≤ n, Rounds (e.Fresh holds s) m i j := by
  induction n using upTo.induct generalizing i with
  | case1 => simp [upTo, Fresh, Rounds]
  | case2 =>
    rw [upTo, Rounds.exists_le_succ_iff]
    simp [Fresh, Rounds]
  | case3 n hn ih =>
    rw [upTo, Rounds.exists_le_succ_iff]
    · simp only [Fresh, ih]
    · exact hn

theorem fresh_atLeast :
    (e.atLeast n).Fresh holds s i j ↔ ∃ m ≥ n, Rounds (e.Fresh holds s) m i j := by
  have hloop (i : Nat) : (loop e).Fresh holds s i j ↔
      ∃ m ≥ 1, Rounds (e.Fresh holds s) m i j :=
    ⟨fun ⟨n, h⟩ => ⟨n + 1, by omega, h⟩,
      fun ⟨m, hm, h⟩ => ⟨m - 1, by rwa [Nat.sub_add_cancel hm]⟩⟩
  induction n using atLeast.induct generalizing i with
  | case1 =>
    rw [atLeast, Fresh, hloop]
    constructor
    · rintro (h | ⟨m, _, h⟩)
      · exact ⟨0, le_rfl, h⟩
      · exact ⟨m, m.zero_le, h⟩
    · rintro ⟨m, _, h⟩
      rcases m.eq_zero_or_pos with rfl | hm
      · exact .inl h
      · exact .inr ⟨m, hm, h⟩
  | case2 => rw [atLeast, hloop]
  | case3 n hn ih =>
    rw [atLeast, Rounds.exists_ge_succ_iff]
    · simp only [Fresh, ih]
    · exact hn

/-- The repetition with a least number of rounds and so many more that are allowed. -/
theorem fresh_seq_times_upTo {more : Nat} : (seq (e.times n) (e.upTo more)).Fresh holds s i j ↔
    ∃ m ≤ more, Rounds (e.Fresh holds s) (n + m) i j := by
  simp only [Fresh, fresh_times, fresh_upTo, Rounds.add_iff]
  exact ⟨fun ⟨k, h, m, hm, h'⟩ => ⟨m, hm, k, h, h'⟩, fun ⟨m, hm, k, h, h'⟩ => ⟨k, h, m, hm, h'⟩⟩

/-- Nothing is marked. -/
def Blank (holds : Option σ → Option σ → κ → Bool) (s : List σ) (m : MarkedExpr σ κ) : Prop :=
  ∀ i j, ¬ m.Resumes holds s i j

namespace Blank

variable {a b : MarkedExpr σ κ}

theorem empty : Blank holds s (.empty : MarkedExpr σ κ) := fun _ _ h => h

theorem seq (ha : Blank holds s a) (hb : Blank holds s b) : Blank holds s (.seq a b) :=
  fun i j h => h.elim (fun ⟨k, h, _⟩ => ha i k h) (hb i j)

theorem alt (ha : Blank holds s a) (hb : Blank holds s b) : Blank holds s (.alt a b) :=
  fun i j h => h.elim (ha i j) (hb i j)

theorem loop (he : Blank holds s e) : Blank holds s (.loop e) :=
  fun i _ ⟨k, _, h, _⟩ => he i k h

theorem times (he : Blank holds s e) : Blank holds s (e.times n) := by
  induction n using times.induct with
  | case1 => exact empty
  | case2 => exact he
  | case3 n hn ih =>
    rw [MarkedExpr.times]
    · exact he.seq ih
    · exact hn

theorem upTo (he : Blank holds s e) : Blank holds s (e.upTo n) := by
  induction n using upTo.induct with
  | case1 => exact empty
  | case2 => exact empty.alt he
  | case3 n hn ih =>
    rw [MarkedExpr.upTo]
    · exact empty.alt (he.seq ih)
    · exact hn

theorem atLeast (he : Blank holds s e) : Blank holds s (e.atLeast n) := by
  induction n using atLeast.induct with
  | case1 => exact empty.alt he.loop
  | case2 => exact he.loop
  | case3 n hn ih =>
    rw [MarkedExpr.atLeast]
    · exact he.seq ih
    · exact hn

end Blank

end MarkedExpr

namespace Expr

open MarkedExpr

variable {e : Expr σ κ} {anywhere : Bool} {i j n bound : Nat}

/-- Where a match that is sought may begin. -/
def Begins (s : List σ) (anywhere : Bool) (i : Nat) : Prop :=
  i ≤ s.length ∧ (anywhere = true ∨ i = 0)

/-- Where a match that is sought may end. -/
def Ends (s : List σ) (anywhere : Bool) (j : Nat) : Prop :=
  j ≤ s.length ∧ (anywhere = true ∨ j = s.length)

theorem symbolBefore_isNone_iff (hi : i ≤ s.length) : (symbolBefore s i).isNone = true ↔ i = 0 := by
  cases i with
  | zero => simp [symbolBefore]
  | succ i => simp [symbolBefore]; omega

/-- From any place on, the matcher finds the matches that were on their way and those that begin
later. -/
theorem run_iff {m : MarkedExpr σ κ} {rest : List σ} (hrest : s.drop i = rest)
    (hi : i ≤ s.length) : run holds anywhere (symbolBefore s i) m rest = true ↔
      (∃ stop, Ends s anywhere stop ∧ m.Resumes holds s i stop) ∨
      ∃ start stop, i ≤ start ∧ Begins s anywhere start ∧ Ends s anywhere stop ∧
        m.Fresh holds s start stop := by
  induction rest generalizing i m with
  | nil =>
    obtain rfl : i = s.length := le_antisymm hi (List.drop_eq_nil_iff.1 hrest)
    have hend : s[s.length]? = none := List.getElem?_eq_none_iff.2 le_rfl
    have hhere : holds (symbolBefore s s.length) none = passesAt holds s s.length := by
      rw [passesAt, hend]
    simp only [run, hhere, Bool.or_eq_true, Bool.and_eq_true, ending_fst_iff, ending_snd_iff,
      symbolBefore_isNone_iff le_rfl]
    constructor
    · rintro (h | ⟨h, hbegins⟩)
      · exact .inl ⟨s.length, ⟨le_rfl, .inr rfl⟩, h⟩
      · exact .inr ⟨s.length, s.length, le_rfl, ⟨le_rfl, hbegins⟩, ⟨le_rfl, .inr rfl⟩, h⟩
    · rintro (⟨stop, ⟨hstop, _⟩, h⟩ | ⟨start, stop, hstart, ⟨_, hbegins⟩, ⟨hstop, _⟩, h⟩)
      · obtain rfl : stop = s.length := le_antisymm hstop h.le
        exact .inl h
      · obtain rfl : start = s.length := le_antisymm (h.le.trans hstop) hstart
        obtain rfl : stop = s.length := le_antisymm hstop h.le
        exact .inr ⟨h, hbegins⟩
  | cons x rest ih =>
    have hx : s[i]? = some x := by
      rw [← Nat.add_zero i, ← List.getElem?_drop, hrest]
      rfl
    have hlt : i < s.length := (List.getElem?_eq_some_iff.1 hx).1
    have hrest' : s.drop (i + 1) = rest := by
      rw [← List.drop_drop, hrest]
      rfl
    have hhere : holds (symbolBefore s i) (some x) = passesAt holds s i := by rw [passesAt, hx]
    have hbefore : some x = symbolBefore s (i + 1) := hx.symm
    simp only [run, hhere]
    rw [hbefore, Bool.or_eq_true, ih hrest' hlt]
    simp only [resumes_read hx, fresh_read, Bool.or_eq_true, Bool.and_eq_true, ending_fst_iff,
      ending_snd_iff, symbolBefore_isNone_iff hi]
    constructor
    · rintro (⟨hany, h | h⟩ | ⟨stop, hends, hstop, h | ⟨hbegins, h⟩⟩ |
        ⟨start, stop, hstart, hbegins, hends, h⟩)
      · exact .inl ⟨i, ⟨hi, .inl hany⟩, h⟩
      · exact .inr ⟨i, i, le_rfl, ⟨hi, .inl hany⟩, ⟨hi, .inl hany⟩, h⟩
      · exact .inl ⟨stop, hends, h⟩
      · exact .inr ⟨i, stop, le_rfl, ⟨hi, hbegins⟩, hends, h⟩
      · exact .inr ⟨start, stop, (Nat.le_succ i).trans hstart, hbegins, hends, h⟩
    · -- a match that ends right here is seen before the symbol is read, any other one behind it
      rintro (⟨stop, hends, h⟩ | ⟨start, stop, hstart, hbegins, hends, h⟩)
      · rcases h.le.eq_or_lt with rfl | hstop
        · exact .inl ⟨hends.2.resolve_right hlt.ne, .inl h⟩
        · exact .inr (.inl ⟨stop, hends, hstop, .inl h⟩)
      · rcases hstart.eq_or_lt with rfl | hstart
        · rcases h.le.eq_or_lt with rfl | hstop
          · exact .inl ⟨hends.2.resolve_right hlt.ne, .inr h⟩
          · exact .inr (.inl ⟨stop, hends, hstop, .inr ⟨hbegins.2, h⟩⟩)
        · exact .inr (.inr ⟨start, stop, hstart, hbegins, hends, h⟩)

theorem blank_unmarked : (e.unmarked bound).Blank holds s := by
  induction e with
  | empty => exact .empty
  | symbol accepts => exact fun _ _ h => Bool.false_ne_true h.2
  | check k => exact fun _ _ h => h
  | seq a b iha ihb => exact iha.seq ihb
  | alt a b iha ihb => exact iha.alt ihb
  | rep e least most ih =>
    cases most with
    | none => exact ih.atLeast
    | some most =>
      unfold unmarked
      dsimp only
      split
      · exact ih.upTo
      · exact ih.times
      · exact ih.times.seq ih.upTo

theorem fresh_unmarked_rep_some {least most : Nat} :
    ((rep e least (some most)).unmarked bound).Fresh holds s i j ↔
      ∃ m ≤ min (most - least) bound,
        Rounds ((e.unmarked bound).Fresh holds s) (min least bound + m) i j := by
  simp only [unmarked]
  split
  next hleast => rw [fresh_upTo, hleast]; simp only [Nat.zero_add]
  next hmore _ => rw [fresh_times, hmore]; simp
  next => exact fresh_seq_times_upTo

/-- Leaving out rounds beyond the length of the text changes nothing. -/
theorem fresh_unmarked (hbound : s.length < bound) :
    (e.unmarked bound).Fresh holds s = e.Matches holds s := by
  induction e with
  | empty => rfl
  | symbol accepts => rfl
  | check k => rfl
  | seq a b iha ihb => funext i j; simp only [unmarked, Fresh, Matches, iha, ihb]
  | alt a b iha ihb => funext i j; simp only [unmarked, Fresh, Matches, iha, ihb]
  | rep e least most ih =>
    funext i j
    have change {n m : Nat} (h : Rounds (e.Matches holds s) n i j) (hn : bound ≤ n)
        (hm : bound ≤ m) : Rounds (e.Matches holds s) m i j := by
      rw [← ih] at h ⊢
      have hwithin := h.within fun _ _ => Fresh.within
      exact h.change (fun _ _ => Fresh.le) (by omega) (by omega)
    refine propext ?_
    cases most with
    | none =>
      simp only [unmarked, fresh_atLeast, ih, Matches]
      constructor
      · rintro ⟨m, hm, h⟩
        by_cases hleast : least ≤ m
        · exact ⟨m, hleast, nofun, h⟩
        · exact ⟨least, le_rfl, nofun, change h (by omega) (by omega)⟩
      · rintro ⟨n, hn, _, h⟩
        exact ⟨n, (min_le_left _ _).trans hn, h⟩
    | some most =>
      rw [fresh_unmarked_rep_some, ih]
      simp only [Matches, Option.mem_def, Option.some.injEq, forall_eq']
      constructor
      · rintro ⟨m, hm, h⟩
        refine ⟨least + m, by omega, by omega, ?_⟩
        by_cases hleast : least ≤ bound
        · rwa [min_eq_left hleast] at h
        · exact change h (by omega) (by omega)
      · rintro ⟨n, hn, hmost, h⟩
        refine ⟨min (n - least) bound, by omega, ?_⟩
        by_cases hsmall : least ≤ bound ∧ n - least ≤ bound
        · rwa [min_eq_left hsmall.1, min_eq_left hsmall.2, Nat.add_sub_cancel' hn]
        · exact change h (by omega) (by omega)

theorem run_unmarked_iff :
    run holds anywhere none (e.unmarked (s.length + 1)) s = true ↔
      ∃ start stop, Begins s anywhere start ∧ Ends s anywhere stop ∧
        e.Matches holds s start stop := by
  have hrun : run holds anywhere (symbolBefore s 0) (e.unmarked (s.length + 1)) s = true ↔ _ :=
    run_iff List.drop_zero s.length.zero_le
  rw [fresh_unmarked s.length.lt_succ_self] at hrun
  refine hrun.trans ⟨?_, fun ⟨start, stop, h⟩ => .inr ⟨start, stop, start.zero_le, h⟩⟩
  rintro (⟨stop, _, h⟩ | ⟨start, stop, _, h⟩)
  · exact absurd h (blank_unmarked 0 stop)
  · exact ⟨start, stop, h⟩

theorem Matches.within (h : e.Matches holds s i j) : i ≤ j ∧ j ≤ max i s.length := by
  rw [← fresh_unmarked s.length.lt_succ_self] at h
  exact Fresh.within h

/-- The matcher finds a match within a text exactly if there is one. -/
theorem matchesWithin_iff : e.matchesWithin holds s = true ↔
    ∃ start stop, start ≤ s.length ∧ e.Matches holds s start stop := by
  rw [matchesWithin, run_unmarked_iff]
  constructor
  · rintro ⟨start, stop, ⟨hstart, _⟩, _, h⟩
    exact ⟨start, stop, hstart, h⟩
  · rintro ⟨start, stop, hstart, h⟩
    have hwithin := h.within
    exact ⟨start, stop, ⟨hstart, .inl rfl⟩, ⟨by omega, .inl rfl⟩, h⟩

/-- The matcher takes a whole text exactly if there is a match from its start to its end. -/
theorem matchesWhole_iff :
    e.matchesWhole holds s = true ↔ e.Matches holds s 0 s.length := by
  rw [matchesWhole, run_unmarked_iff]
  constructor
  · rintro ⟨start, stop, ⟨_, hstart⟩, ⟨_, hstop⟩, h⟩
    obtain rfl : start = 0 := hstart.resolve_left Bool.false_ne_true
    obtain rfl : stop = s.length := hstop.resolve_left Bool.false_ne_true
    exact h
  · intro h
    exact ⟨0, s.length, ⟨s.length.zero_le, .inr rfl⟩, ⟨le_rfl, .inr rfl⟩, h⟩

end Expr

end PathTemplates
