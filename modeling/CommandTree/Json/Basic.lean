import CommandTree.Json.Quoted

/-!
# JSON documents

A JSON document as a tree.  Numbers and truth values are not told apart further.  A string
may be written with escapes that give no text, namely halves of a pair that stand alone;
such a string is part of a well-formed document, but has no value.
-/

namespace CommandTree

/-- A JSON document. -/
inductive Json where
  | null
  | scalar
  /-- A string, with its text unless it has none. -/
  | string (text : Option String)
  | array (elements : List Json)
  | object (members : List (Option String × Json))

namespace Json

def text? : Json → Option String
  | string text => text
  | _ => none

/-- The members of an object all of whose keys have a text. -/
def members? : Json → Option (List (String × Json))
  | object members => members.mapM fun member => member.1.map fun key => (key, member.2)
  | _ => none

/-- The documents under a key. -/
def under (members : List (String × Json)) (key : String) : List Json :=
  (members.filter fun member => member.1 = key).map Prod.snd

end Json

end CommandTree
