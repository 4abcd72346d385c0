import CommandTree.Regex.Parser

/-!
# Compiled regular expressions

A regular expression is its written form, which diagnostics quote, together with the texts
it matches.  What it matches may be anything: `compile?` fills it in for an expression that
is written out, and nothing else looks at how.
-/

namespace CommandTree

/-- A regular expression. -/
structure Regex where
  source : String
  /-- Whether the expression matches anywhere in a text. -/
  accepts : String → Bool

namespace Regex

/-- The expression with the written form `source`, if that is well formed. -/
def compile? (source : String) : Option Regex :=
  (parse? source.toList).map fun expr =>
    let sets := expr.map CharSet.contains id
    { source, accepts := fun text => sets.matchesIn text.toList }

end Regex

end CommandTree
