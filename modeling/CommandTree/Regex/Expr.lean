/-!
# Regular expressions

The shape of a regular expression, over any kind of character sets and of tests on
places between characters.  `Expr.map` exchanges the sets and tests, which is how an
expression is prepared for a subject text.
-/

namespace CommandTree.Regex

/-- A regular expression with character sets in `σ` and tests of places in `τ`. -/
inductive Expr (σ τ : Type) where
  | empty
  | char (set : σ)
  /-- A place that passes a test; no character is taken. -/
  | place (test : τ)
  | seq (first second : Expr σ τ)
  | alt (first second : Expr σ τ)
  /-- At least `least` times the same expression, and at most `most` times if given. -/
  | repeated (body : Expr σ τ) (least : Nat) (most : Option Nat)

namespace Expr

variable {σ τ σ' τ' : Type}

/-- Exchange the sets and tests. -/
def map (set : σ → σ') (test : τ → τ') : Expr σ τ → Expr σ' τ'
  | empty => empty
  | char s => char (set s)
  | place t => place (test t)
  | seq first second => seq (first.map set test) (second.map set test)
  | alt first second => alt (first.map set test) (second.map set test)
  | repeated body least most => repeated (body.map set test) least most

/-- Expressions one after the other. -/
def sequence : List (Expr σ τ) → Expr σ τ
  | [] => empty
  | [one] => one
  | first :: rest => seq first (sequence rest)

/-- One of several expressions; of none, the empty text. -/
def choice : List (Expr σ τ) → Expr σ τ
  | [] => empty
  | [one] => one
  | first :: rest => alt first (choice rest)

/-- The sum of the weights of the characters an expression spells out, where a repeated
expression counts as often as it has to be written down. -/
def weight (set : σ → Nat) : Expr σ τ → Nat
  | empty => 1
  | char s => set s
  | place _ => 1
  | seq first second => first.weight set + second.weight set
  | alt first second => first.weight set + second.weight set + 1
  | repeated body least most =>
    match most with
    | none => body.weight set * max 1 least + 1
    | some most => body.weight set * least + (body.weight set + 1) * (most - least) + 1

end Expr

end CommandTree.Regex
