import PathTemplates.Crumb.Compilation
import PathTemplates.Proofs.Crumb.Matching
import PathTemplates.Proofs.Glob.Matching
import PathTemplates.Proofs.Regex.Anchoring

namespace PathTemplates

namespace Regex

open Reader

variable {n room : Nat} {names : List Text} {o : OpenAlternatives} {c : Char}

theorem skip_plain (s : Text) : skip {} s = s := rfl

theorem readItem_of_not_meta (h : c ∉ metaChars) (s : Text) :
    readItem {} (c :: s) = some (.symbol (CharSet.single c).contains, s) := by
  have hspecial : c ≠ '\\' ∧ c ≠ '.' ∧ c ≠ '^' ∧ c ≠ '$' := by
    refine ⟨?_, ?_, ?_, ?_⟩ <;> rintro rfl <;> exact h (by decide)
  unfold readItem
  split <;> simp_all [elementExpr, OpenSet.foldIf]

theorem readItem_of_meta (h : c ∈ metaChars) (s : Text) :
    readItem {} ('\\' :: c :: s) = some (.symbol (CharSet.single c).contains, s) := by
  have hescapable : isEscapable c = true := by simp [isEscapable, h]
  simp only [readItem, readEscape, hescapable, if_true]
  rfl

/-- The characters that begin something other than an item. -/
def structural : List Char := [')', '|', '[', '?', '*', '+', '\x7b', '(']

theorem alternatives_item {s rest : Text} {e : CharExpr} (hfront : c ∉ structural)
    (hitem : readItem {} (c :: s) = some (e, rest)) :
    alternatives (n + 1) room {} names o (c :: s) =
      alternatives n room {} names (o.push e 0) rest := by
  have hne (d : Char) (hd : d ∈ structural) : d ≠ c := fun h => hfront (h ▸ hd)
  have hend : c ≠ ')' := (hne ')' (by decide)).symm
  rw [alternatives_succ, skipped_bind, skip_plain]
  simp only [orEnd, List.cons_ne_nil, List.head?_cons, Option.some.injEq, hend, or_self, if_false,
    ifFront_singleton_cons, hne '|' (by decide), hne '[' (by decide), hne '?' (by decide),
    hne '*' (by decide), hne '+' (by decide), hne '\x7b' (by decide), hne '(' (by decide),
    bind_of_eq_some hitem]

/-- A character of an escaped text is read as itself. -/
theorem alternatives_escape (c : Char) (s : Text) :
    alternatives (n + 1) room {} names o (escape [c] ++ s) =
      alternatives n room {} names (o.push (.symbol (CharSet.single c).contains) 0) s := by
  by_cases hmeta : c ∈ metaChars
  · have hescape : escape [c] ++ s = '\\' :: c :: s := by simp [escape, hmeta]
    rw [hescape]
    exact alternatives_item (by decide) (readItem_of_meta hmeta s)
  · have hescape : escape [c] ++ s = c :: s := by simp [escape, hmeta]
    have hstructural : structural ⊆ metaChars := by simp [structural, metaChars]
    rw [hescape]
    exact alternatives_item (mt (@hstructural c) hmeta) (readItem_of_not_meta hmeta s)

/-- Something, with no line feed. -/
def something : CharExpr := .rep (.symbol fun c => c ≠ '\n') 1 none

theorem alternatives_something (n room : Nat) (names : List Text) (s : Text) :
    alternatives (n + 3) room {} names .start ('.' :: '+' :: '?' :: ')' :: s) =
      some ((⟨something, 1⟩, names), ')' :: s) := by
  have hdot : readItem {} ('.' :: '+' :: '?' :: ')' :: s) =
      some (.symbol fun c => c ≠ '\n', '+' :: '?' :: ')' :: s) := rfl
  rw [alternatives_item (by decide) hdot, alternatives_succ, skipped_bind, skip_plain]
  simp only [orEnd, List.cons_ne_nil, List.head?_cons, Option.some.injEq, Char.reduceEq, or_self,
    if_false, if_true, ifFront_singleton_cons]
  show ifFront ['?'] (alternatives (n + 1) room {} names _) _ _ = _
  rw [ifFront_singleton_cons, if_pos rfl, alternatives_succ, skipped_bind, skip_plain]
  exact if_pos (.inr rfl)

/-- A group for an argument is read as something, two levels deep. -/
theorem alternatives_capture (hn : 3 ≤ n) (s : Text) :
    alternatives (n + 1) (room + 1) {} names o (['(', '.', '+', '?', ')'] ++ s) =
      alternatives n (room + 1) {} names (o.push something 2) s := by
  obtain ⟨n, rfl⟩ := Nat.exists_eq_add_of_le' hn
  have hhead : readGroupHead ('.' :: '+' :: '?' :: ')' :: s) =
    some (.group [], '.' :: '+' :: '?' :: ')' :: s) := rfl
  rw [alternatives_succ, skipped_bind, skip_plain]
  simp only [List.cons_append, List.nil_append, orEnd, List.cons_ne_nil, List.head?_cons,
    Option.some.injEq, Char.reduceEq, or_self, if_false, if_true, ifFront_singleton_cons,
    skipped_bind, skip_plain, bind_of_eq_some hhead]
  show grouped (n + 3) room {} {} names o ('.' :: '+' :: '?' :: ')' :: s) = _
  rw [grouped, bind_of_eq_some (alternatives_something n room names s), expect_bind_cons,
    if_pos rfl]

end Regex

namespace Atom

open Regex

/-- What is read for an atom. -/
def part : Atom → Nested CharExpr
  | char c => ⟨.symbol (CharSet.single c).contains, 0⟩
  | argument _ => ⟨something, 2⟩

end Atom

namespace Component

open Regex Regex.Reader

variable {k : Component} {n : Nat}

/-- The parts of some atoms behind what has been read. -/
def pushed (o : OpenAlternatives) (k : Component) : OpenAlternatives :=
  k.foldl (fun o a => o.push a.part.value a.part.depth) o

theorem alternatives_atoms (room : Nat) (names : List Text) (o : OpenAlternatives)
    (hn : (k.flatMap Atom.expression).length + 4 ≤ n) :
    ∃ m, 4 ≤ m ∧ alternatives n (room + 1) {} names o (k.flatMap Atom.expression ++ ['$']) =
      alternatives m (room + 1) {} names (pushed o k) ['$'] := by
  induction k generalizing n o with
  | nil => exact ⟨n, by simpa using hn, rfl⟩
  | cons a k ih =>
    rw [List.flatMap_cons, List.length_append] at hn
    rw [List.flatMap_cons, List.append_assoc]
    obtain ⟨n, rfl⟩ := Nat.exists_eq_add_of_le' (show 1 ≤ n by omega)
    cases a with
    | char c =>
      have hpos : 0 < (escape [c]).length := by
        simp only [escape, List.flatMap_cons, List.flatMap_nil, List.append_nil]
        split <;> simp
      show ∃ m, 4 ≤ m ∧ alternatives (n + 1) _ _ _ _ (escape [c] ++ _) = _
      have hlength : (Atom.char c).expression.length = (escape [c]).length := rfl
      rw [alternatives_escape]
      exact ih _ (by omega)
    | argument p =>
      have hlength : (Atom.argument p).expression.length = 5 := rfl
      show ∃ m, 4 ≤ m ∧ alternatives (n + 1) _ _ _ _ (['(', '.', '+', '?', ')'] ++ _) = _
      rw [alternatives_capture (by omega)]
      exact ih _ (by omega)

theorem items_pushed (o : OpenAlternatives) (k : Component) :
    pushed o k =
      ⟨o.complete, (k.map fun a => ⟨some a.part.value, a.part.depth⟩).reverse ++ o.items⟩ := by
  induction k generalizing o with
  | nil => rfl
  | cons a k ih =>
    rw [pushed, List.foldl_cons, ← pushed, ih]
    simp [OpenAlternatives.push]

/-- The expression between the start and the end of a text. -/
def expr (k : Component) : CharExpr :=
  .seqAll (.check .textStart :: k.map (fun a => a.part.value) ++ [.check .textEnd])

/-- What the whole expression is read as. -/
def whole (k : Component) : Nested CharExpr := ((pushed anchor k).push (.check .textEnd) 0).expr

theorem whole_value (k : Component) : k.whole.value = k.expr := by
  rw [whole, items_pushed]
  simp [OpenAlternatives.expr, OpenAlternatives.push, OpenAlternatives.current, anchor,
    OpenAlternatives.start, Expr.altAll, expr, List.filterMap_map]

theorem whole_depth (k : Component) : k.whole.depth ≤ 4 := by
  refine Nesting.sideBySide_le fun d hd => ?_
  rw [items_pushed] at hd
  obtain rfl := List.mem_singleton.1 hd
  refine Nesting.sideBySide_le fun d hd => ?_
  simp only [OpenAlternatives.push, anchor, OpenAlternatives.start, List.map_cons, List.map_append,
    List.map_reverse, List.map_map, List.mem_cons, List.mem_append, List.mem_reverse, List.mem_map,
    Function.comp_apply, List.map_nil, List.not_mem_nil, or_false] at hd
  rcases hd with rfl | ⟨a, -, rfl⟩ | rfl
  · decide
  · cases a with
    | char c => exact Nat.zero_le 2
    | argument p => exact le_rfl
  · decide

/-- The expression of a component is in order. -/
theorem read_expression (k : Component) : Regex.read {} k.expression = some k.expr := by
  have hcaret : readItem {} ('^' :: (k.flatMap Atom.expression ++ ['$'])) =
    some (.check .textStart, k.flatMap Atom.expression ++ ['$']) := rfl
  have hdollar : readItem {} ['$'] = some (.check .textEnd, []) := rfl
  obtain ⟨m, hm, hatoms⟩ :=
    alternatives_atoms 0 [] anchor (le_refl ((k.flatMap Atom.expression).length + 4))
  obtain ⟨m, rfl⟩ := Nat.exists_eq_add_of_le' (show 2 ≤ m by omega)
  have hread : alternatives ((k.flatMap Atom.expression).length + 4 + 1) 1 {} [] .start
      ('^' :: (k.flatMap Atom.expression ++ ['$'])) = some ((k.whole, []), []) := by
    rw [alternatives_item (by decide) hcaret]
    show alternatives _ (0 + 1) _ _ anchor _ = _
    rw [hatoms, alternatives_item (by decide) hdollar]
    exact alternatives_nil
  have hlength : k.expression.length < (k.flatMap Atom.expression).length + 4 + 1 := by
    simp [expression]
  exact read_eq_some_iff.2 ⟨k.whole, reads_of_alternatives hlength hread,
    k.whole_depth.trans (by decide), k.whole_value⟩

theorem compile_eq_ok (k : Component) : k.compile = .ok () := by
  unfold compile
  split
  · rfl
  · rw [read_expression]
    rfl

end Component

namespace Expr

variable {accepts : Char → Bool} {s : Text} {i j n : Nat}
  {holds : Option Char → Option Char → Boundary → Bool}

theorem rounds_symbol_iff (hi : i ≤ s.length) :
    Rounds ((Expr.symbol accepts).Matches holds s) n i j ↔
      j = i + n ∧ j ≤ s.length ∧ ∀ c ∈ (s.drop i).take n, accepts c = true := by
  induction n generalizing i with
  | zero =>
    constructor
    · rintro rfl
      exact ⟨rfl, hi, fun c hc => by cases hc⟩
    · exact fun h => h.1.symm
  | succ n ih =>
    constructor
    · rintro ⟨k, ⟨rfl, c, hc, haccepts⟩, hrest⟩
      obtain ⟨hlt, rfl⟩ := List.getElem?_eq_some_iff.1 hc
      obtain ⟨rfl, hj, hall⟩ := (ih hlt).1 hrest
      refine ⟨by omega, hj, ?_⟩
      rw [List.drop_eq_getElem_cons hlt, List.take_succ_cons, List.forall_mem_cons]
      exact ⟨haccepts, hall⟩
    · rintro ⟨rfl, hj, hall⟩
      have hlt : i < s.length := by omega
      rw [List.drop_eq_getElem_cons hlt, List.take_succ_cons, List.forall_mem_cons] at hall
      exact ⟨i + 1, ⟨rfl, _, List.getElem?_eq_getElem hlt, hall.1⟩,
        (ih hlt).2 ⟨by omega, hj, hall.2⟩⟩

end Expr

namespace Component

open Regex

variable {k : Component} {entry : Text} {i j : Nat}

theorem matches_single_iff {c : Char} :
    (Expr.symbol (CharSet.single c).contains).Matches
      (fun before after (b : Boundary) => b.between before after) entry i j ↔
    ∃ behind, entry.drop i = [c] ++ behind ∧ j = i + 1 := by
  constructor
  · rintro ⟨rfl, d, hd, hc⟩
    obtain ⟨hlt, rfl⟩ := List.getElem?_eq_some_iff.1 hd
    rw [CharSet.contains_single, decide_eq_true_eq] at hc
    exact ⟨_, hc ▸ List.drop_eq_getElem_cons hlt, rfl⟩
  · rintro ⟨behind, hdrop, rfl⟩
    have hhead : entry[i]? = some c := by rw [← List.head?_drop, hdrop]; rfl
    exact ⟨rfl, c, hhead, by rw [CharSet.contains_single, decide_eq_true rfl]⟩

theorem matches_something_iff (hi : i ≤ entry.length) :
    something.Matches (fun before after b => b.between before after) entry i j ↔
      ∃ v, v ≠ [] ∧ '\n' ∉ v ∧ ∃ behind, entry.drop i = v ++ behind ∧ j = i + v.length := by
  have hrounds (n : Nat) : Rounds ((Expr.symbol fun c => decide (c ≠ '\n')).Matches
      (fun before after (b : Boundary) => b.between before after) entry) n i j ↔ _ :=
    Expr.rounds_symbol_iff hi
  constructor
  · rintro ⟨n, hn, -, h⟩
    obtain ⟨rfl, hj, hall⟩ := (hrounds n).1 h
    have hlength : ((entry.drop i).take n).length = n := by
      rw [List.length_take, List.length_drop]
      omega
    refine ⟨(entry.drop i).take n, ?_, fun hfeed => by simpa using hall _ hfeed,
      (entry.drop i).drop n,
      (List.take_append_drop ..).symm, by rw [hlength]⟩
    rintro hnil
    rw [hnil, List.length_nil] at hlength
    omega
  · rintro ⟨v, hne, hfeed, behind, hdrop, rfl⟩
    have hlength := congrArg List.length hdrop
    rw [List.length_drop, List.length_append] at hlength
    refine ⟨v.length, List.length_pos_iff.2 hne, nofun, (hrounds _).2 ⟨rfl, by omega, ?_⟩⟩
    rw [hdrop, List.take_left]
    intro c hc
    simpa using fun h : c = '\n' => hfeed (h ▸ hc)

/-- The parts of a component up to the end of the entry. -/
theorem matches_parts_iff (hi : i ≤ entry.length) :
    (Expr.seqAll (k.map (fun a => a.part.value) ++ [.check .textEnd])).Matches
      (fun before after b => b.between before after) entry i j ↔
    j = entry.length ∧ ∃ bindings, Decomposes k (entry.drop i) bindings := by
  induction k generalizing i with
  | nil =>
    show i = j ∧ (entry[i]?).isNone = true ↔ _
    rw [Option.isNone_iff_eq_none, List.getElem?_eq_none_iff]
    constructor
    · rintro ⟨rfl, hlength⟩
      rw [List.drop_of_length_le hlength]
      exact ⟨by omega, [], .nil⟩
    · rintro ⟨rfl, bindings, h⟩
      generalize hdrop : entry.drop i = rest at h
      cases h
      have hlength := List.drop_eq_nil_iff.1 hdrop
      exact ⟨by omega, hlength⟩
  | cons a k ih =>
    have hbehind {v behind : Text} (hdrop : entry.drop i = v ++ behind) :
        i + v.length ≤ entry.length ∧ entry.drop (i + v.length) = behind := by
      have hlength := congrArg List.length hdrop
      rw [List.length_drop, List.length_append] at hlength
      exact ⟨by omega, by rw [← List.drop_drop, hdrop, List.drop_left]⟩
    rw [List.map_cons, List.cons_append, Expr.matches_seqAll_cons]
    cases a with
    | char c =>
      constructor
      · rintro ⟨m, h, hrest⟩
        obtain ⟨behind, hdrop, rfl⟩ := matches_single_iff.1 h
        obtain ⟨hle, hrestDrop⟩ := hbehind hdrop
        obtain ⟨rfl, bindings, h⟩ := (ih hle).1 hrest
        exact ⟨rfl, bindings, hdrop ▸ .char (hrestDrop ▸ h)⟩
      · rintro ⟨rfl, bindings, h⟩
        generalize hdrop : entry.drop i = rest at h
        cases h with
        | char h =>
          obtain ⟨hle, hrestDrop⟩ := hbehind (show entry.drop i = [c] ++ _ from hdrop)
          exact ⟨i + 1, matches_single_iff.2 ⟨_, hdrop, rfl⟩,
            (ih hle).2 ⟨rfl, bindings, hrestDrop ▸ h⟩⟩
    | argument p =>
      constructor
      · rintro ⟨m, h, hrest⟩
        obtain ⟨v, hne, hfeed, behind, hdrop, rfl⟩ := (matches_something_iff hi).1 h
        obtain ⟨hle, hrestDrop⟩ := hbehind hdrop
        obtain ⟨rfl, bindings, h⟩ := (ih hle).1 hrest
        exact ⟨rfl, ⟨p.name, v⟩ :: bindings, hdrop ▸ .argument hne hfeed (hrestDrop ▸ h)⟩
      · rintro ⟨rfl, bindings, h⟩
        generalize hdrop : entry.drop i = rest at h
        cases h with
        | @argument _ v _ behind bindings hne hfeed h =>
          obtain ⟨hle, hrestDrop⟩ := hbehind hdrop
          exact ⟨i + v.length, (matches_something_iff hi).2 ⟨v, hne, hfeed, behind, hdrop, rfl⟩,
            (ih hle).2 ⟨rfl, bindings, hrestDrop ▸ h⟩⟩

/-- The search for values finds some exactly if the expression of the component matches. -/
theorem occursIn_expr_iff (k : Component) (entry : Text) :
    occursIn k.expr entry = true ↔ (matchAtoms k entry).isSome = true := by
  have hnone : (matchAtoms k entry).isSome = true ↔ ∃ bindings, Decomposes k entry bindings := by
    rw [Option.isSome_iff_ne_none, ne_eq, matchAtoms_eq_none_iff, not_forall_not]
  rw [occursIn, Expr.matchesWithin_iff, hnone, expr, List.cons_append]
  simp only [Expr.matches_seqAll_cons]
  constructor
  · rintro ⟨i, j, hi, _, ⟨rfl, hstart⟩, h⟩
    obtain rfl : i = 0 := (Expr.symbolBefore_isNone_iff hi).1 hstart
    exact ((matches_parts_iff hi).1 h).2
  · intro h
    exact ⟨0, entry.length, Nat.zero_le _, 0, ⟨rfl, rfl⟩,
      (matches_parts_iff (Nat.zero_le _)).2 ⟨rfl, h⟩⟩

end Component

end PathTemplates
