import CommandTree.Config.Basic
import CommandTree.Toml.Parser

/-!
# Configurations in TOML

A configuration is written as a table whose keys set its fields.  Fields that are missing
keep their defaults, and other keys are passed over.
-/

namespace CommandTree

namespace Toml

def Item.text? : Item → Option String
  | .text t => some t
  | _ => none

/-- A field that a table may set: the last resort is the default. -/
def Entries.field? {α : Type} (entries : Entries) (read : Item → Option α) (default : α)
    (key : String) : Option α :=
  match entries.get? key with
  | none => some default
  | some item => read item

end Toml

open Toml

def Link.ofEntries? (entries : Entries) : Option Link := do
  let name ← (← entries.get? "name").text?
  let url ← (← entries.get? "url").text?
  return { name, url }

/-- A link in TOML: a table with a name and an address, or a list that starts with the two. -/
def Link.ofItem? : Item → Option Link
  | .table _ entries => Link.ofEntries? entries
  | .array (name :: url :: _) => do return { name := ← name.text?, url := ← url.text? }
  | _ => none

/-- Links in TOML: a list of values, or tables with headers. -/
def Link.listOfItem? : Item → Option (List Link)
  | .array elements => elements.mapM Link.ofItem?
  | .tables elements => elements.mapM Link.ofEntries?
  | _ => none

namespace Config

/-- A configuration from the entries of a table. -/
def ofEntries? (entries : Entries) : Option Config := do
  let linePrefix ← entries.field? Item.text? "" "prefix"
  let prompt ← entries.field? Item.text? defaultPrompt "prompt"
  let startup ← entries.field? (·.text?.map some) defaultStartup "startup_command"
  let errorLead ← entries.field? Item.text? defaultErrorLead "error_prefix"
  let warnLead ← entries.field? Item.text? defaultWarnLead "warn_prefix"
  let about ← entries.field? Item.text? defaultAbout "about"
  let links ← entries.field? Link.listOfItem? defaultLinks "socials"
  return { linePrefix, prompt, startup, errorLead, warnLead, about, links }

/-- The configuration that a TOML text sets, if it is acceptable. -/
def fromToml (text : String) : Except Fault Config :=
  match (Toml.parse? text).bind ofEntries? with
  | none => .error .toml
  | some config => config.validate

end Config

end CommandTree
