/-!
# Faults

A fault stops the setting up of a shell: a tree node that cannot be registered, a
configuration that cannot be read or accepted.  Refused lines are no faults; they
are diagnostics.
-/

namespace CommandTree

/-- What can be wrong with a node handed in for registration. -/
inductive RegistrationFault where
  /-- A node that stands for a whole tree. -/
  | rootNode
  /-- A literal without characters. -/
  | emptyLiteral
  /-- A literal that is not one word. -/
  | blankInLiteral (token : String)
  /-- An argument without a name. -/
  | unnamedArgument
  /-- A top-level literal that is registered already. -/
  | duplicateCommand (token : String)
deriving DecidableEq, Repr

def RegistrationFault.text : RegistrationFault → String
  | rootNode => "a root node cannot be registered"
  | emptyLiteral => "empty literal"
  | blankInLiteral token => "literal contains whitespace: \"" ++ token ++ "\""
  | unnamedArgument => "argument without a name"
  | duplicateCommand token => "duplicate command \"" ++ token ++ "\""

/-- What can be wrong with the links of a configuration. -/
inductive LinkFault where
  /-- A link whose name has no characters but blanks. -/
  | emptyName
  /-- A link whose name is not one word. -/
  | blankInName (name : String)
  /-- A link with the name of an earlier one. -/
  | duplicateName (name : String)
deriving DecidableEq, Repr

def LinkFault.text : LinkFault → String
  | emptyName => "social name is empty"
  | blankInName name => "social name contains whitespace: \"" ++ name ++ "\""
  | duplicateName name => "duplicate social: \"" ++ name ++ "\""

/-- A reason why a shell cannot be set up.  The first three kinds carry their wording;
faults in the form of a document carry none. -/
inductive Fault where
  /-- A configuration that is well formed but not acceptable. -/
  | config (detail : String)
  /-- A node that cannot be registered. -/
  | registration (detail : String)
  /-- A file that cannot be read. -/
  | file (detail : String)
  /-- A text that is no TOML document, or not one of the expected shape. -/
  | toml
  /-- A text that is no JSON document, or not one of the expected shape. -/
  | json
deriving DecidableEq, Repr

namespace Fault

def message? : Fault → Option String
  | config detail => some ("config error: " ++ detail)
  | registration detail => some ("registration error: " ++ detail)
  | file detail => some ("I/O error: " ++ detail)
  | toml | json => none

def noSuchFile : Fault := .file "No such file or directory (os error 2)"

/-- The fault of a file whose bytes are no text. -/
def notText : Fault := .file "stream did not contain valid UTF-8"

end Fault

end CommandTree
