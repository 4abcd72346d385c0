import CommandTree.Fault
import CommandTree.Output.Console
import CommandTree.Text.Blank

/-!
# Shell configurations

A configuration says how a shell is addressed, how it looks, and what its commands show.
It is acceptable if each link can be named in a line: names are single words, all of them
different.  What a field is where nothing sets it has a name of its own, which the readers of
configurations and `Config.default` have in common.
-/

namespace CommandTree

structure Link where
  name : String
  url : String
deriving DecidableEq, Repr

namespace Config

def defaultPrompt : String := "$ "

def defaultStartup : Option String := some "help"

def defaultErrorLead : String := "Error: "

def defaultWarnLead : String := "Warning: "

def defaultAbout : String :=
  "Hi i am tympanicblock61 or also known as zombi\n"
    ++ "i am not very well known and have very few projects that i actually continue\n"
    ++ "enjoy my site :)"

def defaultLinks : List Link :=
  [⟨"discord", "zombiiess"⟩,
    ⟨"github", "https://github.com/Tympanicblock61"⟩,
    ⟨"bluesky", "https://bsky.app/profile/howlingjackel.bsky.social"⟩,
    ⟨"myanimelist", "https://myanimelist.net/profile/thehowlingjackel"⟩,
    ⟨"anilist", "https://anilist.co/user/Thehowlingjackel/"⟩]

end Config

/-- How a shell is addressed, how it looks, and what its commands show. -/
structure Config where
  linePrefix : String := ""
  prompt : String := Config.defaultPrompt
  startup : Option String := Config.defaultStartup
  errorLead : String := Config.defaultErrorLead
  warnLead : String := Config.defaultWarnLead
  about : String := Config.defaultAbout
  links : List Link := Config.defaultLinks
deriving DecidableEq, Repr

/-- What is wrong with a link that comes after links with the given names. -/
def Link.fault? (earlier : List String) (link : Link) : Option LinkFault :=
  if link.name.toList.all Text.isBlank then some .emptyName
  else if link.name.toList.any Text.isBlank then some (.blankInName link.name)
  else if link.name ∈ earlier then some (.duplicateName link.name)
  else none

/-- What is wrong with links that come after links with the given names: the fault of the
first with which something is wrong. -/
def Link.firstFault? (earlier : List String) : List Link → Option LinkFault
  | [] => none
  | link :: rest =>
    match link.fault? earlier with
    | some fault => some fault
    | none => firstFault? (link.name :: earlier) rest

namespace Config

def default : Config := {}

def fault? (config : Config) : Option LinkFault := Link.firstFault? [] config.links

def validate (config : Config) : Except Fault Config :=
  match config.fault? with
  | some fault => .error (.config fault.text)
  | none => .ok config

/-- The console of a shell. -/
def console (config : Config) : Console :=
  { warnLead := config.warnLead, errorLead := config.errorLead }

end Config

end CommandTree
