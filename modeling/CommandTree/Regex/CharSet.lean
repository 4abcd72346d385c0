import CommandTree.Text.Blank
import CommandTree.Text.Casing
import CommandTree.Text.Category
import CommandTree.Text.Hex
import CommandTree.Text.Property
import CommandTree.Text.Script

/-!
# Character sets of regular expressions

The sets that a regular expression can name: the short classes `\d`, `\s`, `\w`, the
bracketed names of ASCII and some properties of Unicode.  These are the general categories,
the scripts with their extensions, and `Alphabetic`, `Lowercase`, `Uppercase` and
`White_Space`; other properties have no set here.  A set has a *weight*, a rough measure of
what it takes to spell it out.
-/

namespace CommandTree.Regex

open Text

/-- A set of characters. -/
structure CharSet where
  contains : Char → Bool
  /-- What it takes to spell the set out. -/
  weight : Nat := 1

namespace CharSet

def single (c : Char) : CharSet := ⟨(· == c), 1⟩

def range (first last : Char) : CharSet := ⟨fun c => first ≤ c && c ≤ last, 2⟩

def ofSpans (spans : List Span) : CharSet := ⟨inSpans spans, max 1 spans.length⟩

def none : CharSet := ⟨fun _ => false, 1⟩

def all : CharSet := ⟨fun _ => true, 10⟩

/-- The members of either set. -/
def union (first second : CharSet) : CharSet :=
  ⟨fun c => first.contains c || second.contains c, first.weight + second.weight⟩

/-- The common members. -/
def inter (first second : CharSet) : CharSet :=
  ⟨fun c => first.contains c && second.contains c, first.weight + second.weight⟩

/-- The members of the first set only. -/
def diff (first second : CharSet) : CharSet :=
  ⟨fun c => first.contains c && !second.contains c, first.weight + second.weight⟩

/-- The members of exactly one of the sets. -/
def symmDiff (first second : CharSet) : CharSet :=
  ⟨fun c => first.contains c != second.contains c, first.weight + second.weight⟩

def compl (set : CharSet) : CharSet := ⟨fun c => !set.contains c, set.weight + 10⟩

def complIf (negated : Bool) (set : CharSet) : CharSet := if negated then set.compl else set

/-- The set together with all characters that differ from a member in case only. -/
def caseless (set : CharSet) : CharSet :=
  ⟨fun c => set.contains c || (caseVariants c).any set.contains, 2 * set.weight⟩

/-- The ASCII members. -/
def ascii (set : CharSet) : CharSet :=
  ⟨fun c => c.toNat < 0x80 && set.contains c, 1⟩

def digits : CharSet := ofSpans Category.decimalDigits

def blanks : CharSet := ⟨isBlank, 10⟩

def words : CharSet := ⟨isWordChar, 1450⟩

/-- The set named by an ASCII class such as `alpha`. -/
def asciiClass? : String → Option CharSet
  | "alnum" => some ⟨fun c => c.isAlphanum, 3⟩
  | "alpha" => some ⟨fun c => c.isAlpha, 2⟩
  | "ascii" => some ⟨fun c => c.toNat < 0x80, 1⟩
  | "blank" => some ⟨fun c => c == ' ' || c == '\t', 2⟩
  | "cntrl" => some ⟨fun c => c.toNat < 0x20 || c.toNat == 0x7F, 2⟩
  | "digit" => some ⟨fun c => c.isDigit, 1⟩
  | "graph" => some ⟨fun c => 0x21 ≤ c.toNat && c.toNat ≤ 0x7E, 1⟩
  | "lower" => some ⟨fun c => c.isLower, 1⟩
  | "print" => some ⟨fun c => 0x20 ≤ c.toNat && c.toNat ≤ 0x7E, 1⟩
  | "punct" => some ⟨fun c => 0x21 ≤ c.toNat && c.toNat ≤ 0x7E && !c.isAlphanum, 4⟩
  | "space" => some ⟨fun c => c.toNat == 0x20 || (0x09 ≤ c.toNat && c.toNat ≤ 0x0D), 2⟩
  | "upper" => some ⟨fun c => c.isUpper, 1⟩
  | "word" => some ⟨fun c => c.isAlphanum || c == '_', 4⟩
  | "xdigit" => some ⟨isHexDigit, 3⟩
  | _ => Option.none

/-- Names of properties are compared without case, blanks, hyphens and underscores, and
without a leading `is`. -/
def looseName (name : List Char) : List Char :=
  let kept := (name.filter fun c => c != '_' && c != '-' && c != ' ').map Char.toLower
  match kept with
  | 'i' :: 's' :: rest => if rest == ['c'] || rest.isEmpty then kept else rest
  | _ => kept

open Category in
/-- The spans of a general category, by its loose name. -/
def categorySpans? : String → Option (List Span)
  | "l" | "letter" => some letterSpans
  | "lu" | "uppercaseletter" => some uppercaseLetters
  | "ll" | "lowercaseletter" => some lowercaseLetters
  | "lt" | "titlecaseletter" => some titlecaseLetters
  | "lc" | "casedletter" => some (uppercaseLetters ++ lowercaseLetters ++ titlecaseLetters)
  | "lm" | "modifierletter" => some modifierLetters
  | "lo" | "otherletter" => some otherLetters
  | "m" | "mark" | "combiningmark" => some markSpans
  | "mn" | "nonspacingmark" => some nonspacingMarks
  | "mc" | "spacingmark" => some spacingMarks
  | "me" | "enclosingmark" => some enclosingMarks
  | "n" | "number" => some numberSpans
  | "nd" | "decimalnumber" | "digit" => some decimalDigits
  | "nl" | "letternumber" => some letterNumbers
  | "no" | "othernumber" => some otherNumbers
  | "p" | "punctuation" | "punct" => some punctuationSpans
  | "pc" | "connectorpunctuation" => some connectorPunctuation
  | "pd" | "dashpunctuation" => some dashPunctuation
  | "ps" | "openpunctuation" => some openPunctuation
  | "pe" | "closepunctuation" => some closePunctuation
  | "pi" | "initialpunctuation" => some initialPunctuation
  | "pf" | "finalpunctuation" => some finalPunctuation
  | "po" | "otherpunctuation" => some otherPunctuation
  | "s" | "symbol" => some symbolSpans
  | "sm" | "mathsymbol" => some mathSymbols
  | "sc" | "currencysymbol" => some currencySymbols
  | "sk" | "modifiersymbol" => some modifierSymbols
  | "so" | "othersymbol" => some otherSymbols
  | "z" | "separator" => some (spaceSeparators ++ lineSeparators ++ paragraphSeparators)
  | "zs" | "spaceseparator" => some spaceSeparators
  | "zl" | "lineseparator" => some lineSeparators
  | "zp" | "paragraphseparator" => some paragraphSeparators
  | "cc" | "control" | "cntrl" => some controls
  | "cf" | "format" => some formats
  | "co" | "privateuse" => some privateUse
  | _ => Option.none

/-- Characters with a general category of their own. -/
def assigned : CharSet :=
  ⟨fun c => hasShape c || inSpans Category.spaceSeparators c || inSpans Category.lineSeparators c
      || inSpans Category.paragraphSeparators c || inSpans Category.controls c
      || inSpans Category.formats c || inSpans Category.privateUse c,
    700⟩

/-- The set of a general category, by its loose name. -/
def category? (name : String) : Option CharSet :=
  match categorySpans? name with
  | some spans => some (ofSpans spans)
  | Option.none =>
    match name with
    | "any" => some all
    | "ascii" => some ⟨fun c => c.toNat < 0x80, 1⟩
    | "assigned" => some assigned
    | "cn" | "unassigned" => some assigned.compl
    | "cs" | "surrogate" => some none
    | "c" | "other" =>
      some (union (ofSpans (Category.controls ++ Category.formats ++ Category.privateUse))
        assigned.compl)
    | _ => Option.none

/-- The set of a script, by its loose name. -/
def script? (name : String) : Option CharSet :=
  (Script.named? (Script.general ++ Script.particular) name).map fun script => ofSpans script.own

/-- The set of the characters that are written in a script, by its loose name.  What some
scripts share is not common to all of them. -/
def scriptExtensions? (name : String) : Option CharSet :=
  match Script.named? Script.general name with
  | some script => some ((ofSpans script.own).diff (ofSpans Script.sharedByScripts))
  | Option.none =>
    (Script.named? Script.particular name).map fun script => ofSpans (script.own ++ script.shared)

/-- The set of a property that characters have or lack, by its loose name. -/
def property? : String → Option CharSet
  | "alphabetic" | "alpha" => some (ofSpans Property.alphabetic)
  | "lowercase" | "lower" => some (ofSpans Property.lowercase)
  | "uppercase" | "upper" => some (ofSpans Property.uppercase)
  | "whitespace" | "wspace" | "space" => some blanks
  | _ => Option.none

/-- The set of a property given by one name. -/
def named? (name : List Char) : Option CharSet :=
  let loose := String.ofList (looseName name)
  if loose == "cf" || loose == "sc" || loose == "lc" then category? loose
  else (property? loose).or ((category? loose).or (script? loose))

/-- The set of a property given by the name of a family and a value. -/
def valued? (family value : List Char) : Option CharSet :=
  let value := String.ofList (looseName value)
  match String.ofList (looseName family) with
  | "generalcategory" | "gc" => category? value
  | "script" | "sc" => script? value
  | "scriptextensions" | "scx" => scriptExtensions? value
  | _ => Option.none

end CharSet

end CommandTree.Regex
