import Folio.CommandLine.Arguments
import Folio.Path

/-!
# The command line

Documents are rendered to standard output, a site is built, or documents are watched. What holds
for every command stands before its name.

Main definitions:
- `Command`, `CommandLine`
- `CommandLine.parse`
- `CommandLine.vars`
-/

namespace Folio

/-- What is to be done. -/
inductive Command where
  | render (paths : List String) (vars : List Binding)
  | build (output : Option Path) (clean : Bool)
  | watch (paths : List String) (vars : List Binding)
deriving Inhabited

/-- A command, and where its project is. -/
structure CommandLine where
  root : Option Path := none
  /-- The settings file, as seen from the root. -/
  config : Path
  command : Command
deriving Inhabited

namespace CommandLine

/-! ## Section 1: Rules -/

/-- The switch for help. -/
def helpRule : OptionRule := { long := "help", short := some 'h', role := .help }

/-- What stands before the name of a command. -/
def rules : ArgumentRules where
  options :=
    [ { long := "root", short := some 'r', role := .path },
      { long := "config", short := some 'C', role := .path },
      helpRule,
      { long := "version", short := some 'V', role := .version } ]
  commands := ["render", "build", "watch", "help"]

/-- What a command with documents takes. -/
def documentRules : ArgumentRules where
  options := [{ long := "var", role := .binding, shown := "--var <KEY=VALUE>" }, helpRule]
  operands := true

/-- What a build takes. -/
def buildRules : ArgumentRules where
  options :=
    [ { long := "output", short := some 'o', role := .path },
      { long := "clean", role := .switch },
      helpRule ]

/-- The settings file if none is named. -/
def defaultConfig : String := "quire.toml"

/-! ## Section 2: Reading -/

/-- The answer to a request for help about a command. -/
def helpAbout : List String → UsageError
  | [] => .help none
  | [name] => if rules.commands.contains name then .help (some name) else .unknownCommand
  | _ => .unknownCommand

/-- Read all arguments of a command that has none below it. -/
def readAll (rules : ArgumentRules) (name : String) (arguments : List String) :
    Except UsageError Arguments := do
  let (read, _) ← Arguments.read rules { command := some name } arguments
  read.settle

/-- Read a command with documents. -/
def documentsCommand (make : List String → List Binding → Command) (name : String)
    (arguments : List String) : Except UsageError Command := do
  let read ← readAll documentRules name arguments
  if read.operands.isEmpty then throw .missingOperand
  else return make read.operands read.bindings

/-- Read a command by its name. -/
def commandOf (name : String) (arguments : List String) : Except UsageError Command :=
  if name = "render" then documentsCommand .render name arguments
  else if name = "watch" then documentsCommand .watch name arguments
  else if name = "build" then do
    let read ← readAll buildRules name arguments
    return .build ((read.path? "output").map Path.ofString) (read.has "clean")
  else .error (helpAbout arguments)

/-- Read a command line, without the name of the program. -/
def parse (arguments : List String) : Except UsageError CommandLine := do
  let (read, command) ← Arguments.read rules {} arguments
  match command with
  | some (name, rest) =>
      let command ← commandOf name rest
      let read ← read.settle
      return { root := (read.path? "root").map Path.ofString,
               config := Path.ofString ((read.path? "config").getD defaultConfig),
               command }
  | none =>
      let read ← read.settle
      if read.isEmpty then throw .nothing else throw .missingCommand

/-- The variables on a command line; the last one of a name counts. -/
def vars (commandLine : CommandLine) : Variables :=
  match commandLine.command with
  | .render _ bindings | .watch _ bindings => .ofList bindings
  | .build .. => .empty

end CommandLine

end Folio
