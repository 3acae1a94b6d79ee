import PathTemplates.Text

namespace PathTemplates

namespace Utf8

/-- A character that has begun: its bits so far, how many bytes are missing, and the range that the
next one has to lie in. -/
structure Begun where
  bits : Nat
  missing : Nat
  low : Nat
  high : Nat

inductive Lead where
  | whole (c : Char)
  | begun (b : Begun)
  | bad

/-- What a first byte says. The ranges for the byte after it leave out overlong forms, surrogates
and numbers beyond the last character. -/
def lead (x : Nat) : Lead :=
  if x < 0x80 then .whole (Char.ofNat x)
  else if x < 0xc2 then .bad
  else if x < 0xe0 then .begun ⟨x - 0xc0, 1, 0x80, 0xbf⟩
  else if x < 0xf0 then
    .begun ⟨x - 0xe0, 2, if x = 0xe0 then 0xa0 else 0x80, if x = 0xed then 0x9f else 0xbf⟩
  else if x < 0xf5 then
    .begun ⟨x - 0xf0, 3, if x = 0xf0 then 0x90 else 0x80, if x = 0xf4 then 0x8f else 0xbf⟩
  else .bad

/-- The characters of some bytes, with `none` for what cannot be read. -/
def readFrom : Option Begun → List UInt8 → List (Option Char)
  | none, [] => []
  | some _, [] => [none]
  | none, x :: rest =>
    match lead x.toNat with
    | .whole c => some c :: readFrom none rest
    | .begun b => readFrom (some b) rest
    | .bad => none :: readFrom none rest
  | some b, x :: rest =>
    if b.low ≤ x.toNat && x.toNat ≤ b.high then
      let bits := 64 * b.bits + (x.toNat - 0x80)
      if b.missing = 1 then some (Char.ofNat bits) :: readFrom none rest
      else readFrom (some ⟨bits, b.missing - 1, 0x80, 0xbf⟩) rest
    else
      none :: match lead x.toNat with
        | .whole c => some c :: readFrom none rest
        | .begun b => readFrom (some b) rest
        | .bad => none :: readFrom none rest

def read (bytes : List UInt8) : List (Option Char) := readFrom none bytes

def text? (bytes : List UInt8) : Option Text := (read bytes).mapM id

/-- The text with the replacement character for what cannot be read. -/
def lossy (bytes : List UInt8) : Text := (read bytes).map fun c => c.getD '\ufffd'

end Utf8

end PathTemplates
