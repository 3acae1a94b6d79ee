namespace PathTemplates

/-- Ranges with both ends included, from `low` on, in ascending order and none next to another. -/
def Ascending : Nat → List (Nat × Nat) → Prop
  | _, [] => True
  | low, (a, b) :: rest => low ≤ a ∧ a ≤ b ∧ Ascending (b + 2) rest

instance Ascending.decide : (low : Nat) → (ranges : List (Nat × Nat)) →
    Decidable (Ascending low ranges)
  | _, [] => .isTrue trivial
  | low, (a, b) :: rest =>
    have := Ascending.decide (b + 2) rest
    inferInstanceAs (Decidable (low ≤ a ∧ a ≤ b ∧ Ascending (b + 2) rest))

namespace Ascending

theorem mono {low low' : Nat} {ranges : List (Nat × Nat)} (h : Ascending low ranges)
    (hl : low' ≤ low) : Ascending low' ranges := by
  cases ranges with
  | nil => trivial
  | cons r rest => exact ⟨by have := h.1; omega, h.2⟩

end Ascending

structure CharSet where
  ranges : List (Nat × Nat)
  ascending : Ascending 0 ranges
  deriving DecidableEq, Repr

namespace CharSet

def maxCode : Nat := 0x10ffff

/-- Whether a code point lies in one of some ranges; the search ends at the first range above it. -/
def covers : List (Nat × Nat) → Nat → Bool
  | [], _ => false
  | (a, b) :: rest, n => a ≤ n && (n ≤ b || covers rest n)

def contains (s : CharSet) (c : Char) : Bool := covers s.ranges c.toNat

/-- What `low` and the code points above it are made of, apart from some ranges. -/
def gaps : Nat → List (Nat × Nat) → List (Nat × Nat)
  | low, [] => if low ≤ maxCode then [(low, maxCode)] else []
  | low, (a, b) :: rest => if low < a then (low, a - 1) :: gaps (b + 1) rest else gaps (b + 1) rest

theorem ascending_gaps {low : Nat} {ranges : List (Nat × Nat)} (h : Ascending low ranges) :
    Ascending low (gaps low ranges) := by
  induction ranges generalizing low with
  | nil =>
    unfold gaps
    split
    · exact ⟨Nat.le_refl low, by assumption, trivial⟩
    · trivial
  | cons r rest ih =>
    obtain ⟨a, b⟩ := r
    obtain ⟨hl, hab, hr⟩ := h
    have ht := ih (hr.mono (Nat.le_succ (b + 1)))
    unfold gaps
    split
    · exact ⟨Nat.le_refl low, by omega, ht.mono (by omega)⟩
    · exact ht.mono (by omega)

/-- What `a` to `b` has in common with some ranges; `next` goes on with the ranges that reach
beyond `b`. -/
def clip (a b : Nat) (next : List (Nat × Nat) → List (Nat × Nat)) :
    List (Nat × Nat) → List (Nat × Nat)
  | [] => []
  | (c, d) :: rest =>
    if b < c then next ((c, d) :: rest)
    else if d < a then clip a b next rest
    else (max a c, min b d) :: (if b < d then next ((c, d) :: rest) else clip a b next rest)

def common : List (Nat × Nat) → List (Nat × Nat) → List (Nat × Nat)
  | [], _ => []
  | (a, b) :: rest, others => clip a b (common rest) others

theorem ascending_clip {a b l m : Nat} {next : List (Nat × Nat) → List (Nat × Nat)}
    {others : List (Nat × Nat)} (hla : l ≤ a) (hab : a ≤ b) (hm : Ascending m others)
    (hn : ∀ k rs, Ascending k rs → Ascending (max (b + 2) k) (next rs)) :
    Ascending (max l m) (clip a b next others) := by
  induction others generalizing l m with
  | nil => trivial
  | cons r rest ih =>
    obtain ⟨c, d⟩ := r
    obtain ⟨hmc, hcd, hr⟩ := hm
    have hall : ∀ k, k ≤ c → Ascending k ((c, d) :: rest) := fun k hk => ⟨hk, hcd, hr⟩
    unfold clip
    split
    · exact (hn m _ (hall m hmc)).mono (by omega)
    · split
      · exact (ih hla hr).mono (by omega)
      · refine ⟨by omega, by omega, ?_⟩
        split
        · exact (hn c _ (hall c (Nat.le_refl c))).mono (by omega)
        · exact (ih hla hr).mono (by omega)

theorem ascending_common {l m : Nat} {ranges others : List (Nat × Nat)} (h : Ascending l ranges)
    (hm : Ascending m others) : Ascending (max l m) (common ranges others) := by
  induction ranges generalizing l m others with
  | nil => trivial
  | cons r rest ih => exact ascending_clip h.1 h.2.1 hm fun _ _ hk => ih h.2.2 hk

def compl (s : CharSet) : CharSet := ⟨gaps 0 s.ranges, ascending_gaps s.ascending⟩

def inter (s t : CharSet) : CharSet :=
  ⟨common s.ranges t.ranges, ascending_common s.ascending t.ascending⟩

def union (s t : CharSet) : CharSet := (s.compl.inter t.compl).compl

def diff (s t : CharSet) : CharSet := s.inter t.compl

/-- What belongs to exactly one of the sets. -/
def symmDiff (s t : CharSet) : CharSet := (s.diff t).union (t.diff s)

def none : CharSet := ⟨[], trivial⟩

def all : CharSet := ⟨[(0, maxCode)], by decide⟩

def ofCodes (low high : Nat) : CharSet :=
  if h : low ≤ high then ⟨[(low, high)], Nat.zero_le low, h, trivial⟩ else none

def range (low high : Char) : CharSet := ofCodes low.toNat high.toNat

def single (c : Char) : CharSet := range c c

theorem contains_single (c d : Char) : (single c).contains d = decide (d = c) := by
  have hset : single c = ⟨[(c.toNat, c.toNat)], Nat.zero_le _, Nat.le_refl _, trivial⟩ :=
    dif_pos (Nat.le_refl _)
  have hcode : d = c ↔ d.toNat = c.toNat := by
    rw [Char.ext_iff, UInt32.toNat_inj.symm]
    rfl
  rw [hset, contains, Bool.eq_iff_iff]
  simp only [covers, hcode, Bool.and_eq_true, Bool.or_false, decide_eq_true_eq]
  omega

/-- The code points of some ranges in any order; ascending ranges are taken as they are. -/
def ofRanges (ranges : List (Nat × Nat)) : CharSet :=
  if h : Ascending 0 ranges then ⟨ranges, h⟩
  else ranges.foldl (fun s r => s.union (ofCodes r.1 r.2)) none

def unionAll (sets : List CharSet) : CharSet := sets.foldl union none

/-- Ascending code points as ranges. -/
def runs : List Nat → List (Nat × Nat)
  | [] => []
  | n :: rest =>
    match runs rest with
    | (a, b) :: ranges => if a = n + 1 then (n, b) :: ranges else (n, n) :: (a, b) :: ranges
    | [] => [(n, n)]

def hexDigit (c : Char) : Nat :=
  if c.isDigit then c.toNat - 48 else c.toNat - 55

/-- Reads the written form; `n` is the number read so far and `low` the lower end before a
hyphen. -/
def readHex : List Char → Nat → Option Nat → List (Nat × Nat)
  | [], n, low => [(low.getD n, n)]
  | ' ' :: rest, n, low => (low.getD n, n) :: readHex rest 0 .none
  | '-' :: rest, n, _ => readHex rest 0 (some n)
  | c :: rest, n, low => readHex rest (16 * n + hexDigit c) low

/-- Reads lines of ranges in hexadecimal, for instance `30-39 41-5A 5F`. -/
def ofHex (lines : List String) : CharSet :=
  ofRanges (lines.flatMap fun s => readHex s.toList 0 .none)

end CharSet

end PathTemplates
