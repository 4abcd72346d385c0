/-!
# TOML tables

The contents of a TOML document.  A table comes into being in one of four ways, on which
depends who may add to it later: by its own header, by the header of a table inside it, by
a key with dots, or as an inline value.  The functions here carry out one assignment or one
header each, or refuse it.
-/

namespace CommandTree.Toml

/-- How a table came into being. -/
inductive Form where
  /-- By its own header, or as the whole document. -/
  | headed
  /-- By the header of a table inside it. -/
  | implied
  /-- By a key with dots. -/
  | dotted
  /-- As a value in braces. -/
  | inline
deriving DecidableEq, Repr

/-- A value of a TOML document.  Numbers, truth values and times are not told apart. -/
inductive Item where
  /-- A number, a truth value or a time. -/
  | scalar
  /-- A text. -/
  | text (text : String)
  /-- A list of values. -/
  | array (elements : List Item)
  /-- A table, with its entries in the order in which they were added. -/
  | table (form : Form) (entries : List (String × Item))
  /-- The tables made by the headers of a list, with the entries of each. -/
  | tables (elements : List (List (String × Item)))

abbrev Entries := List (String × Item)

namespace Entries

def get? (entries : Entries) (key : String) : Option Item :=
  (entries.find? fun entry => entry.1 = key).map Prod.snd

def put (entries : Entries) (key : String) (item : Item) : Entries :=
  if entries.any fun entry => entry.1 = key then
    entries.map fun entry => if entry.1 = key then (key, item) else entry
  else entries ++ [(key, item)]

end Entries

/-- Whether a table that came into being this way is only known from what is inside it. -/
def Form.isImplicit : Form → Bool
  | .implied | .dotted => true
  | .headed | .inline => false

/-- Change the last element of a list. -/
def changeLast {α : Type} (change : α → Option α) : List α → Option (List α)
  | [] => none
  | [last] => (change last).map ([·])
  | first :: rest => (changeLast change rest).map (first :: ·)

/-- Add a key and its value to the table at the end of a path of keys with dots.  The tables
on the way have no headers of their own, and the last one is made by such keys. -/
def assign (entries : Entries) (path : List String) (key : String) (item : Item) :
    Option Entries :=
  match path with
  | [] => if (entries.get? key).isNone then some (entries.put key item) else none
  | step :: later =>
    match entries.get? step with
    | none => do
      let inner ← assign [] later key item
      return entries.put step (.table .dotted inner)
    | some (.table form inner) =>
      if form.isImplicit && (!later.isEmpty || form = .dotted) then do
        let inner ← assign inner later key item
        return entries.put step (.table form inner)
      else none
    | some (.tables elements) =>
      if later.isEmpty then none
      else do
        let elements ← changeLast (assign · later key item) elements
        return entries.put step (.tables elements)
    | some .scalar | some (.text _) | some (.array _) => none

/-- Change the table at the end of a path of headers.  Tables that are missing on the way are
implied, and a list of tables stands for its last one. -/
def descend (entries : Entries) (path : List String) (change : Entries → Option Entries) :
    Option Entries :=
  match path with
  | [] => change entries
  | step :: later =>
    match entries.get? step with
    | none => do
      let inner ← descend [] later change
      return entries.put step (.table .implied inner)
    | some (.table .inline _) => none
    | some (.table form inner) => do
      let inner ← descend inner later change
      return entries.put step (.table form inner)
    | some (.tables elements) => do
      let elements ← changeLast (descend · later change) elements
      return entries.put step (.tables elements)
    | some .scalar | some (.text _) | some (.array _) => none

/-- Give a table its own header.  It must not be there yet, unless it was implied. -/
def openTable (key : String) (entries : Entries) : Option Entries :=
  match entries.get? key with
  | none => some (entries.put key (.table .headed []))
  | some (.table .implied inner) => some (entries.put key (.table .headed inner))
  | some _ => none

/-- Add a table to a list of tables. -/
def openElement (key : String) (entries : Entries) : Option Entries :=
  match entries.get? key with
  | none => some (entries.put key (.tables [[]]))
  | some (.tables elements) => some (entries.put key (.tables (elements ++ [[]])))
  | some _ => none

/-- The table of key-value pairs in braces. -/
def inlineTable (pairs : List (List String × String × Item)) : Option Item :=
  (pairs.foldlM (fun entries pair => assign entries pair.1 pair.2.1 pair.2.2) []).map
    (.table .inline)

end CommandTree.Toml
