namespace PathTemplates

abbrev Text := List Char

namespace Text

/-- The pieces between the separators, one more than there are separators. -/
def splitBy {α : Type} (isSeparator : α → Bool) : List α → List (List α)
  | [] => [[]]
  | x :: xs =>
    if isSeparator x then [] :: splitBy isSeparator xs
    else match splitBy isSeparator xs with
      | [] => [[x]]
      | p :: ps => (x :: p) :: ps

def split (sep : Char) (t : Text) : List Text := splitBy (fun c => c = sep) t

/-- Puts the separator between neighbouring pieces. -/
def join (sep : Text) : List Text → Text
  | [] => []
  | [p] => p
  | p :: q :: ps => p ++ sep ++ join sep (q :: ps)

/-- The text before the first separator and the text after it. -/
def cut (sep : Char) : Text → Option (Text × Text)
  | [] => none
  | c :: t => if c = sep then some ([], t) else (cut sep t).map fun p => (c :: p.1, p.2)

def trim (blank : Char → Bool) (t : Text) : Text :=
  ((t.dropWhile blank).reverse.dropWhile blank).reverse

def utf8 (t : Text) : List UInt8 := t.flatMap String.utf8EncodeChar

def utf8Length (t : Text) : Nat := t.utf8.length

theorem splitBy_ne_nil {α : Type} (isSeparator : α → Bool) (xs : List α) :
    splitBy isSeparator xs ≠ [] := by
  cases xs with
  | nil => simp [splitBy]
  | cons x xs =>
    unfold splitBy
    split
    · simp
    · split <;> simp

theorem join_split (sep : Char) (t : Text) : join [sep] (split sep t) = t := by
  induction t with
  | nil => rfl
  | cons c t ih =>
    unfold split at ih ⊢
    obtain ⟨p, ps, h⟩ := List.exists_cons_of_ne_nil (splitBy_ne_nil (fun c => c = sep) t)
    rw [h] at ih
    by_cases hc : c = sep
    · subst hc
      simp [splitBy, h, join, ih]
    · cases ps with
      | nil => simpa [splitBy, h, hc, join] using ih
      | cons q ps => simpa [splitBy, h, hc, join] using ih

theorem not_mem_of_mem_split {sep : Char} {t p : Text} (h : p ∈ split sep t) : sep ∉ p := by
  unfold split at h
  induction t generalizing p with
  | nil => simp_all [splitBy]
  | cons c t ih =>
    obtain ⟨q, qs, hq⟩ := List.exists_cons_of_ne_nil (splitBy_ne_nil (fun c => c = sep) t)
    by_cases hc : c = sep
    · rcases (by simpa [splitBy, hc] using h : p = [] ∨ p ∈ splitBy (fun c => c = sep) t) with
        rfl | hp
      · simp
      · exact ih hp
    · rcases (by simpa [splitBy, hc, hq] using h : p = c :: q ∨ p ∈ qs) with rfl | hp
      · have hsep := @ih q (by simp [hq])
        simp only [List.mem_cons, not_or]
        exact ⟨fun e => hc e.symm, hsep⟩
      · exact ih (by simp [hq, hp])

end Text

end PathTemplates
