import Mathlib.Data.List.Basic
import PathTemplates.Utf8

namespace PathTemplates

namespace Utf8

theorem readFrom_begin {x : Nat} {begun : Begun} (hx : x < 256) (h : lead x = .begun begun)
    (rest : List UInt8) :
    readFrom none (UInt8.ofNat x :: rest) = readFrom (some begun) rest := by
  have hbyte : (UInt8.ofNat x).toNat = x := by
    rw [UInt8.toNat_ofNat']
    omega
  rw [readFrom, hbyte, h]

section

variable {bits low high x : Nat} (hx : x < 64) (hlow : low ≤ x + 128) (hhigh : x + 128 ≤ high)
include hx hlow hhigh

/-- The next byte of a character adds six bits. -/
theorem readFrom_next (missing : Nat) (rest : List UInt8) :
    readFrom (some ⟨bits, missing, low, high⟩) (UInt8.ofNat (x + 128) :: rest) =
      if missing = 1 then some (Char.ofNat (64 * bits + x)) :: readFrom none rest
      else readFrom (some ⟨64 * bits + x, missing - 1, 0x80, 0xbf⟩) rest := by
  have hbyte : (UInt8.ofNat (x + 128)).toNat = x + 128 := by
    rw [UInt8.toNat_ofNat']
    omega
  rw [readFrom, hbyte, if_pos (by simp [hlow, hhigh]), Nat.add_sub_cancel]

theorem readFrom_last (rest : List UInt8) :
    readFrom (some ⟨bits, 1, low, high⟩) (UInt8.ofNat (x + 128) :: rest) =
      some (Char.ofNat (64 * bits + x)) :: readFrom none rest :=
  (readFrom_next hx hlow hhigh 1 rest).trans (if_pos rfl)

theorem readFrom_onward (missing : Nat) (rest : List UInt8) :
    readFrom (some ⟨bits, missing + 2, low, high⟩) (UInt8.ofNat (x + 128) :: rest) =
      readFrom (some ⟨64 * bits + x, missing + 1, 0x80, 0xbf⟩) rest :=
  (readFrom_next hx hlow hhigh (missing + 2) rest).trans (if_neg (by omega))

end

theorem readFrom_utf8EncodeChar (c : Char) (rest : List UInt8) :
    readFrom none (String.utf8EncodeChar c ++ rest) = some c :: readFrom none rest := by
  have hvalid : c.val.toNat < 0xd800 ∨ 0xdfff < c.val.toNat ∧ c.val.toNat < 0x110000 := c.valid
  have hself (n : Nat) (h : n = c.val.toNat) : Char.ofNat n = c := by
    rw [h]
    exact Char.ofNat_toNat c
  unfold String.utf8EncodeChar
  dsimp only
  generalize c.val.toNat = v at hvalid hself
  by_cases hone : v ≤ 0x7f
  · have hbyte : (UInt8.ofNat v).toNat = v := by
      rw [UInt8.toNat_ofNat']
      omega
    have hlead : lead v = .whole (Char.ofNat v) := if_pos (by omega)
    rw [if_pos hone, List.singleton_append, readFrom, hbyte, hlead, hself v rfl]
  by_cases htwo : v ≤ 0x7ff
  · have hlead : lead (v / 64 % 32 + 192) = .begun ⟨v / 64 % 32, 1, 0x80, 0xbf⟩ := by
      rw [lead, if_neg (by omega), if_neg (by omega), if_pos (by omega), Nat.add_sub_cancel]
    rw [if_neg hone, if_pos htwo, List.cons_append, readFrom_begin (by omega) hlead,
      List.singleton_append, readFrom_last (by omega) (by omega) (by omega), hself _ (by omega)]
  by_cases hthree : v ≤ 0xffff
  · have hlead : lead (v / 4096 % 16 + 224) = .begun ⟨v / 4096 % 16, 2,
        if v / 4096 % 16 + 224 = 0xe0 then 0xa0 else 0x80,
        if v / 4096 % 16 + 224 = 0xed then 0x9f else 0xbf⟩ := by
      rw [lead, if_neg (by omega), if_neg (by omega), if_neg (by omega), if_pos (by omega),
        Nat.add_sub_cancel]
    rw [if_neg hone, if_neg htwo, if_pos hthree, List.cons_append,
      readFrom_begin (by omega) hlead, List.cons_append,
      readFrom_onward (by omega) (by split <;> omega) (by split <;> omega), List.singleton_append,
      readFrom_last (by omega) (by omega) (by omega), hself _ (by omega)]
  · have hlead : lead (v / 262144 % 8 + 240) = .begun ⟨v / 262144 % 8, 3,
        if v / 262144 % 8 + 240 = 0xf0 then 0x90 else 0x80,
        if v / 262144 % 8 + 240 = 0xf4 then 0x8f else 0xbf⟩ := by
      rw [lead, if_neg (by omega), if_neg (by omega), if_neg (by omega), if_neg (by omega),
        if_pos (by omega), Nat.add_sub_cancel]
    rw [if_neg hone, if_neg htwo, if_neg hthree, List.cons_append,
      readFrom_begin (by omega) hlead, List.cons_append,
      readFrom_onward (by omega) (by split <;> omega) (by split <;> omega), List.cons_append,
      readFrom_onward (by omega) (by omega) (by omega), List.singleton_append,
      readFrom_last (by omega) (by omega) (by omega), hself _ (by omega)]

theorem read_utf8 (t : Text) : read (Text.utf8 t) = t.map some := by
  induction t with
  | nil => rfl
  | cons c t ih =>
    have hbytes : Text.utf8 (c :: t) = String.utf8EncodeChar c ++ Text.utf8 t := rfl
    rw [read, hbytes, readFrom_utf8EncodeChar]
    exact congrArg (some c :: ·) ih

theorem mapM_id_map_some (t : Text) : (t.map some).mapM id = some t := by
  induction t with
  | nil => rfl
  | cons c t ih =>
    rw [List.map_cons, List.mapM_cons, ih]
    rfl

theorem text?_utf8 (t : Text) : text? (Text.utf8 t) = some t := by
  rw [text?, read_utf8, mapM_id_map_some]

theorem utf8_append (s t : Text) : Text.utf8 (s ++ t) = s.utf8 ++ t.utf8 := List.flatMap_append

theorem utf8_injective {s t : Text} (h : s.utf8 = t.utf8) : s = t := by
  have hread := text?_utf8 s
  rw [h, text?_utf8] at hread
  exact (Option.some.inj hread).symm

/-- The bytes that go on with a character lie beyond the slash. -/
theorem low_of_lead {x : Nat} {begun : Begun} (h : lead x = .begun begun) : 47 < begun.low := by
  unfold lead at h
  grind

/-- Where a byte does not go on with a character, reading begins anew with it. -/
theorem readFrom_anew {begun : Begun} {x : UInt8}
    (h : ¬(begun.low ≤ x.toNat && x.toNat ≤ begun.high) = true) (rest : List UInt8) :
    readFrom (some begun) (x :: rest) = none :: readFrom none (x :: rest) :=
  if_neg h

/-- A slash never goes on with a character, and a new one begins behind it. -/
theorem readFrom_append_slash {state : Option Begun} (hstate : ∀ begun ∈ state, 47 < begun.low)
    (a b : List UInt8) : readFrom state (a ++ 47 :: b) =
      readFrom state a ++ some '/' :: readFrom none b := by
  induction a generalizing state with
  | nil =>
    cases state with
    | none => rfl
    | some begun =>
      have hlow := hstate begun rfl
      exact readFrom_anew (by simp [Nat.not_le.2 hlow]) b
  | cons x a ih =>
    have hfree := @ih none (by simp)
    have hanew : readFrom none (x :: (a ++ 47 :: b)) =
        readFrom none (x :: a) ++ some '/' :: readFrom none b := by
      rw [readFrom, readFrom]
      split
      · rw [hfree]
        rfl
      · next begun h => exact ih fun _ hbegun => Option.some.inj hbegun ▸ low_of_lead h
      · rw [hfree]
        rfl
    cases state with
    | none => exact hanew
    | some begun =>
      rw [List.cons_append]
      by_cases hin : (begun.low ≤ x.toNat && x.toNat ≤ begun.high) = true
      · rw [readFrom, readFrom, if_pos hin, if_pos hin]
        dsimp only
        split
        · rw [hfree]
          rfl
        · exact ih fun _ h => Option.some.inj h ▸ (show 47 < 128 by decide)
      · rw [readFrom_anew hin, readFrom_anew hin, hanew]
        rfl

theorem text?_append_slash (a b : List UInt8) : text? (a ++ 47 :: b) =
    (text? a).bind fun s => (text? b).map fun t => s ++ '/' :: t := by
  have hread : read (a ++ 47 :: b) = read a ++ some '/' :: read b :=
    readFrom_append_slash (by simp) a b
  rw [text?, text?, text?, hread, List.mapM_append, List.mapM_cons]
  cases (read a).mapM id with
  | none => rfl
  | some s => cases (read b).mapM id <;> rfl

/-- A byte of ASCII stands for its own character only. -/
theorem mem_utf8EncodeChar_iff {b : UInt8} (hb : b.toNat < 128) (c : Char) :
    b ∈ String.utf8EncodeChar c ↔ c.val.toNat = b.toNat := by
  have hvalid : c.val.toNat < 0xd800 ∨ 0xdfff < c.val.toNat ∧ c.val.toNat < 0x110000 := c.valid
  have hsame {x : Nat} (hx : x < 256) : b = UInt8.ofNat x ↔ x = b.toNat := by
    rw [← UInt8.toNat_inj, UInt8.toNat_ofNat', Nat.mod_eq_of_lt hx, eq_comm]
  have hbeyond {x : Nat} (hlow : 128 ≤ x) (hhigh : x < 256) : b ≠ UInt8.ofNat x := fun h => by
    have := (hsame hhigh).1 h
    omega
  unfold String.utf8EncodeChar
  dsimp only
  generalize c.val.toNat = v at hvalid
  split
  · rw [List.mem_singleton, hsame (by omega)]
  -- All bytes of a longer character lie beyond ASCII.
  refine iff_of_false ?_ (by omega)
  split
  · simp only [List.mem_cons, List.not_mem_nil, or_false, not_or]
    exact ⟨hbeyond (by omega) (by omega), hbeyond (by omega) (by omega)⟩
  split
  · simp only [List.mem_cons, List.not_mem_nil, or_false, not_or]
    exact ⟨hbeyond (by omega) (by omega), hbeyond (by omega) (by omega),
      hbeyond (by omega) (by omega)⟩
  · simp only [List.mem_cons, List.not_mem_nil, or_false, not_or]
    exact ⟨hbeyond (by omega) (by omega), hbeyond (by omega) (by omega),
      hbeyond (by omega) (by omega), hbeyond (by omega) (by omega)⟩

theorem mem_utf8_iff {a : Char} {b : UInt8} (hb : b.toNat < 128) (ha : a.val.toNat = b.toNat)
    {t : Text} : b ∈ t.utf8 ↔ a ∈ t := by
  rw [Text.utf8, List.mem_flatMap]
  constructor
  · rintro ⟨c, hc, h⟩
    have hval : c.val.toNat = a.val.toNat := ((mem_utf8EncodeChar_iff hb c).1 h).trans ha.symm
    rwa [show a = c from Char.ext (UInt32.toNat_inj.1 hval.symm)]
  · exact fun h => ⟨a, h, (mem_utf8EncodeChar_iff hb a).2 ha⟩

theorem slash_mem_utf8_iff {t : Text} : 47 ∈ t.utf8 ↔ '/' ∈ t :=
  mem_utf8_iff (by decide) (by decide)

theorem period_mem_utf8_iff {t : Text} : 46 ∈ t.utf8 ↔ '.' ∈ t :=
  mem_utf8_iff (by decide) (by decide)

end Utf8

end PathTemplates
