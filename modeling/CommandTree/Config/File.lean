import CommandTree.Config.Json
import CommandTree.Config.Toml

/-!
# Configuration files

A file whose name has the extension `json` is read as JSON, any other as TOML.
-/

namespace CommandTree

/-- A file that is asked for. -/
structure File where
  /-- Its name, without the folder it is in. -/
  name : String
  /-- Its bytes, if there is such a file. -/
  content : Option ByteArray

namespace File

/-- The extension of a name: what follows its last dot, unless nothing comes before that
dot. -/
def extension? (name : String) : Option String :=
  let reversed := name.toList.reverse
  let last := reversed.takeWhile (· != '.')
  match reversed.drop last.length with
  | [] | [_] => none
  | _ :: _ :: _ => if name = ".." then none else some (String.ofList last.reverse)

def text (file : File) : Except Fault String :=
  match file.content with
  | none => .error .noSuchFile
  | some bytes =>
    match String.fromUTF8? bytes with
    | none => .error .notText
    | some text => .ok text

end File

namespace Config

/-- The configuration in a file, if it is acceptable. -/
def load (file : File) : Except Fault Config := do
  let text ← file.text
  if File.extension? file.name = some "json" then fromJson text else fromToml text

end Config

end CommandTree
