namespace PathTemplates

/-- Symbols are of type `σ` and checks of type `κ`; a repetition has a least and perhaps a
greatest number of rounds. -/
inductive Expr (σ κ : Type) where
  | empty
  | symbol (accepts : σ → Bool)
  | check (condition : κ)
  | seq (first second : Expr σ κ)
  | alt (first second : Expr σ κ)
  | rep (body : Expr σ κ) (least : Nat) (most : Option Nat)

/-- An expression with marks on its symbols: one is marked when it is the last symbol read in some
match that has begun. Reading a symbol moves the marks on, so that the work grows with the size of
the expression and not with the number of ways to match. A loop makes one round or more; other
repetitions are written out. -/
inductive MarkedExpr (σ κ : Type) where
  | empty
  | symbol (accepts : σ → Bool) (mark : Bool)
  | check (condition : κ)
  | seq (first second : MarkedExpr σ κ)
  | alt (first second : MarkedExpr σ κ)
  | loop (body : MarkedExpr σ κ)

namespace MarkedExpr

variable {σ κ : Type}

/-- Exactly `n` rounds. -/
def times (e : MarkedExpr σ κ) : Nat → MarkedExpr σ κ
  | 0 => empty
  | 1 => e
  | n + 1 => seq e (e.times n)

/-- At most `n` rounds. -/
def upTo (e : MarkedExpr σ κ) : Nat → MarkedExpr σ κ
  | 0 => empty
  | 1 => alt empty e
  | n + 1 => alt empty (seq e (e.upTo n))

/-- At least `n` rounds. -/
def atLeast (e : MarkedExpr σ κ) : Nat → MarkedExpr σ κ
  | 0 => alt empty (loop e)
  | 1 => loop e
  | n + 1 => seq e (e.atLeast n)

/-- At a place where `holds` tells which checks pass: whether the expression can match nothing
there, and whether a match that has begun can end there. -/
def ending (holds : κ → Bool) : MarkedExpr σ κ → Bool × Bool
  | empty => (true, false)
  | symbol _ mark => (false, mark)
  | check k => (holds k, false)
  | seq a b =>
    let (emptyA, endA) := a.ending holds
    let (emptyB, endB) := b.ending holds
    (emptyA && emptyB, (endA && emptyB) || endB)
  | alt a b =>
    let (emptyA, endA) := a.ending holds
    let (emptyB, endB) := b.ending holds
    (emptyA || emptyB, endA || endB)
  | loop a => a.ending holds

/-- Reads the symbol `x`; `enter` tells whether a match may begin in front of it. -/
def read (holds : κ → Bool) (x : σ) (enter : Bool) : MarkedExpr σ κ → MarkedExpr σ κ
  | empty => empty
  | symbol accepts _ => symbol accepts (enter && accepts x)
  | check k => check k
  | seq a b =>
    let (emptyA, endA) := a.ending holds
    seq (a.read holds x enter) (b.read holds x ((enter && emptyA) || endA))
  | alt a b => alt (a.read holds x enter) (b.read holds x enter)
  | loop a => loop (a.read holds x (enter || (a.ending holds).2))

end MarkedExpr

namespace Expr

variable {σ κ : Type}

def seqAll : List (Expr σ κ) → Expr σ κ
  | [] => empty
  | [e] => e
  | e :: es => seq e (seqAll es)

/-- The alternatives of a nonempty list; of the empty list, the empty expression. -/
def altAll : List (Expr σ κ) → Expr σ κ
  | [] => empty
  | [e] => e
  | e :: es => alt e (altAll es)

def many (e : Expr σ κ) : Expr σ κ := rep e 0 none

/-- The expression without marks. Rounds beyond `bound` are left out: when `bound` is more than the
length of the text, some of so many rounds would have to match nothing, and adding or leaving out
such a round changes nothing. -/
def unmarked (bound : Nat) : Expr σ κ → MarkedExpr σ κ
  | empty => .empty
  | symbol accepts => .symbol accepts false
  | check k => .check k
  | seq a b => .seq (a.unmarked bound) (b.unmarked bound)
  | alt a b => .alt (a.unmarked bound) (b.unmarked bound)
  | rep a least none => (a.unmarked bound).atLeast (min least bound)
  | rep a least (some most) =>
    let e := a.unmarked bound
    match min least bound, min (most - least) bound with
    | 0, more => e.upTo more
    | n, 0 => e.times n
    | n, more => .seq (e.times n) (e.upTo more)

/-- Reads a text from a place behind the symbol `before` on. If matches are sought `anywhere`, they
may begin and end at any place; otherwise they begin at the start of the text, which has no symbol
before it, and end where the text ends. A check looks at the symbols before and after its place. -/
def run (holds : Option σ → Option σ → κ → Bool) (anywhere : Bool) (before : Option σ)
    (e : MarkedExpr σ κ) : List σ → Bool
  | [] =>
    let (isEmpty, ends) := e.ending (holds before none)
    ends || (isEmpty && (anywhere || before.isNone))
  | x :: rest =>
    let here := holds before (some x)
    let (isEmpty, ends) := e.ending here
    (anywhere && (ends || isEmpty)) ||
      run holds anywhere (some x) (e.read here x (anywhere || before.isNone)) rest

/-- The whole text matches. -/
def matchesWhole (holds : Option σ → Option σ → κ → Bool) (e : Expr σ κ) (s : List σ) : Bool :=
  run holds false none (e.unmarked (s.length + 1)) s

/-- Some part of the text matches. -/
def matchesWithin (holds : Option σ → Option σ → κ → Bool) (e : Expr σ κ) (s : List σ) : Bool :=
  run holds true none (e.unmarked (s.length + 1)) s

end Expr

end PathTemplates
