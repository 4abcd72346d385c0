import CommandTree.Regex.Expr

/-!
# Matching

On a fixed subject text a regular expression takes sets of places to sets of places: from
the places where a match may start to those where it may end.  A set of places is a number
whose binary digit `i` tells whether the place before the `i`-th character belongs to it,
so that all places are followed at once.
-/

namespace CommandTree.Regex

/-- A test of the place between two neighbours; at an end of the text one is missing. -/
abbrev PlaceTest := Option Char → Option Char → Bool

/-- The places before a character of a set. -/
def charPlaces (set : Char → Bool) : List Char → Nat
  | [] => 0
  | c :: rest => (set c).toNat + 2 * charPlaces set rest

/-- The places that pass a test, where `before` is the neighbour before the text. -/
def testPlaces (test : PlaceTest) (before : Option Char) : List Char → Nat
  | [] => (test before none).toNat
  | c :: rest => (test before (some c)).toNat + 2 * testPlaces test (some c) rest

/-- The places reached from `fresh` in at most `rounds` steps, together with those reached
before. -/
def reach (step : Nat → Nat) : (rounds reached fresh : Nat) → Nat
  | 0, reached, _ => reached
  | rounds + 1, reached, fresh =>
    if fresh = 0 then reached
    else
      let next := step fresh
      reach step rounds (reached ||| next) (next ^^^ (next &&& reached))

/-- The places where a match of an expression ends that starts in `places`.  In a text with
`size` characters more than `size + 1` rounds of a repetition reach nothing new. -/
def Expr.ends (size : Nat) : Expr Nat Nat → (places : Nat) → Nat
  | .empty, places => places
  | .char set, places => (places &&& set) <<< 1
  | .place test, places => places &&& test
  | .seq first second, places => second.ends size (first.ends size places)
  | .alt first second, places => first.ends size places ||| second.ends size places
  | .repeated body least most, places =>
    let entered := Nat.repeat (body.ends size) (min least (size + 1)) places
    let rounds := match most with
      | none => size + 1
      | some most => min (most - least) (size + 1)
    reach (body.ends size) rounds entered entered

/-- Whether an expression matches anywhere in a text. -/
def Expr.matchesIn (expr : Expr (Char → Bool) PlaceTest) (text : List Char) : Bool :=
  let prepared := expr.map (charPlaces · text) (testPlaces · none text)
  prepared.ends text.length (Nat.pow 2 (text.length + 1) - 1) != 0

end CommandTree.Regex
