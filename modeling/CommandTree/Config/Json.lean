import CommandTree.Config.Basic
import CommandTree.Json.Parser

/-!
# Configurations in JSON

A configuration is written as an object whose members set its fields, or as an array of
the fields in their order.  Fields that are missing keep their defaults.  Members with
other keys are passed over, but no field is set twice.
-/

namespace CommandTree

/-- A field that a document may set: the last resort is the default. -/
def Json.field? {α : Type} (read : Json → Option α) (default : α) : List Json → Option α
  | [] => some default
  | [value] => read value
  | _ :: _ :: _ => none

/-- A text or nothing at all. -/
def Json.optionalText? : Json → Option (Option String)
  | .null => some none
  | value => value.text?.map some

/-- A link in JSON: an object with a name and an address, or an array of the two. -/
def Link.ofJson? : Json → Option Link
  | .array [name, url] => do return { name := ← name.text?, url := ← url.text? }
  | .array _ => none
  | value => do
    let members ← value.members?
    let name ← Json.field? (·.text?.map some) none (Json.under members "name")
    let url ← Json.field? (·.text?.map some) none (Json.under members "url")
    return { name := ← name, url := ← url }

def Link.listOfJson? : Json → Option (List Link)
  | .array elements => elements.mapM Link.ofJson?
  | _ => none

namespace Config

/-- A configuration from what is found for each of its fields. -/
def ofFields? (found : String → List Json) : Option Config := do
  let text (key : String) (default : String) := Json.field? Json.text? default (found key)
  let linePrefix ← text "prefix" ""
  let prompt ← text "prompt" defaultPrompt
  let startup ← Json.field? Json.optionalText? defaultStartup (found "startup_command")
  let errorLead ← text "error_prefix" defaultErrorLead
  let warnLead ← text "warn_prefix" defaultWarnLead
  let about ← text "about" defaultAbout
  let links ← Json.field? Link.listOfJson? defaultLinks (found "socials")
  return { linePrefix, prompt, startup, errorLead, warnLead, about, links }

/-- The keys of the fields, in their order. -/
def keys : List String :=
  ["prefix", "prompt", "startup_command", "error_prefix", "warn_prefix", "about", "socials"]

def ofJson? : Json → Option Config
  | .array elements =>
    if elements.length ≤ keys.length then
      ofFields? fun key => (elements[keys.idxOf key]?).toList
    else none
  | value => do ofFields? (Json.under (← value.members?))

/-- The configuration that a JSON text sets, if it is acceptable. -/
def fromJson (text : String) : Except Fault Config :=
  match (Json.parse? text).bind ofJson? with
  | none => .error .json
  | some config => config.validate

end Config

end CommandTree
