import CommandTree.Config.Basic
import CommandTree.Dispatcher.Run

/-!
# The commands of the shell

A shell offers three commands: help on the commands, a word about its owner, and the
owner's links.
-/

namespace CommandTree.Application

/-- The command that shows help: on one command if it is named, else on all. -/
def helpCommand : Node Action :=
  { kind := .literal "help"
    description := "displays help about a command or all commands"
    children :=
      [{ kind := .argument "command" (.text { rule := some .commands })
         description := "the command to get help for"
         optional := true
         action := some (.showHelpOn "command") }]
    action := some .showHelp }

/-- The command that shows who the owner is. -/
def whoamiCommand (about : String) : Node Action :=
  { kind := .literal "whoami"
    description := "Displays who tympanicblock61 is :)"
    action := some (.say .output about) }

def showLink (link : Link) : String := link.name ++ ": " ++ link.url

def showLinks (links : List Link) : String := "\n".intercalate (links.map showLink)

/-- Shows the first link with the name an argument gives. -/
def linkAction (links : List Link) (argument : String) : Action := fun scene =>
  let named? := fun name => links.find? fun link => link.name = name
  let found := (scene.context.bindings.text? argument).bind named?
  (found.map fun link => Effect.send .output (showLink link)).toList

/-- The command that shows the links: one if it is named, else all. -/
def socialsCommand (links : List Link) : Node Action :=
  { kind := .literal "socials"
    description := "Lists the socials i have"
    children :=
      [{ kind := .argument "social" (.text { rule := some (.list (links.map Link.name)) })
         description := "the social you want to see"
         optional := true
         action := some (linkAction links "social") }]
    action := some (.say .output (showLinks links)) }

/-- The commands of a shell, in the order in which they are registered. -/
def commands (config : Config) : List (Node Action) :=
  [helpCommand, whoamiCommand config.about, socialsCommand config.links]

/-- A dispatcher for the commands of a shell. -/
def dispatcher (config : Config) : Dispatcher Action × Option RegistrationFault :=
  ({ linePrefix := config.linePrefix } : Dispatcher Action).registerAll (commands config)

end CommandTree.Application
