import Folio.CommandLine.Binding

/-!
# Arguments

The arguments of a command: options with a value, switches, and operands. An option has a long name
after two hyphens and may have a short one after one hyphen; short switches can stand together. The
value of an option follows it in the same argument or is the next argument. After two hyphens alone
everything is an operand.

The value of an option is checked when the next option or operand comes up, so an argument that
means nothing is reported before it.

Main definitions:
- `OptionRule`, `ArgumentRules`: what a command takes
- `UsageError`: why arguments are refused
- `Arguments`, `Arguments.read`
-/

namespace Folio

/-! ## Section 1: Rules -/

/-- What an option is for. -/
inductive OptionRole where
  /-- It sets a path, once. -/
  | path
  /-- It binds a variable, any number of times. -/
  | binding
  /-- It is on if it is given, once. -/
  | switch
  | help
  | version
deriving DecidableEq, Inhabited

/-- Whether an option takes a value. -/
def OptionRole.takesValue : OptionRole → Bool
  | .path | .binding => true
  | _ => false

/-- An option. -/
structure OptionRule where
  long : String
  short : Option Char := none
  role : OptionRole
  /-- How the option is shown. -/
  shown : String := ""
deriving DecidableEq, Inhabited

/-- What a command takes. -/
structure ArgumentRules where
  options : List OptionRule
  /-- The commands below it. -/
  commands : List String := []
  /-- Whether it takes operands. -/
  operands : Bool := false

/-! ## Section 2: Failures -/

/-- Why arguments are refused, or what they ask for instead of a command. -/
inductive UsageError where
  | unknownArgument
  | unknownCommand
  | missingCommand
  | missingOperand
  /-- An option is given twice that may be given once. -/
  | repeatedOption
  /-- A switch has a value. -/
  | unexpectedValue
  /-- An option has no value or an empty one. -/
  | missingValue
  /-- A variable cannot be read. -/
  | badVariable (shown argument : String) (cause : BindingError)
  /-- Nothing at all is given. -/
  | nothing
  | help (command : Option String)
  | version
deriving DecidableEq, Inhabited

/-- A character that a message keeps: no control character other than space. -/
def isShownChar (c : Char) : Bool :=
  (' ' ≤ c && c ≠ '\x7f') || c = '\t' || c = '\n' || c = '\x0c' || c = '\r'

/-- The first line of the message about a variable. -/
def variableMessage (shown argument : String) (cause : BindingError) : String :=
  let text := ("error: invalid value '" ++ argument ++ "' for '" ++ shown ++ "': "
    ++ cause.message).toList.filter isShownChar
  let line := text.takeWhile (· ≠ '\n')
  let ended := line.length < text.length && line.getLast? = some '\r'
  String.ofList (if ended then line.dropLast else line)

/-! ## Section 3: Reading -/

/-- What has been read. -/
structure Arguments where
  /-- The command whose arguments these are. -/
  command : Option String := none
  /-- An option whose value is yet to come or to be checked. -/
  pending : Option (OptionRule × Option String) := none
  paths : List (String × String) := []
  bindings : List Binding := []
  switches : List String := []
  operands : List String := []
  /-- Whether everything that follows is an operand. -/
  operandsOnly : Bool := false
deriving Inhabited

namespace Arguments

/-- The value of an option that sets a path. -/
def path? (arguments : Arguments) (long : String) : Option String :=
  (arguments.paths.find? fun (name, _) => name = long).map (·.2)

/-- Whether a switch is given. -/
def has (arguments : Arguments) (long : String) : Bool := arguments.switches.contains long

/-- Whether anything is given that counts as an argument. -/
def isEmpty (arguments : Arguments) : Bool :=
  arguments.paths.isEmpty && arguments.bindings.isEmpty && arguments.switches.isEmpty
    && arguments.operands.isEmpty

/-- Whether the next argument can be the value of an option. -/
def awaitsValue (arguments : Arguments) : Bool :=
  match arguments.pending with
  | some (_, none) => true
  | _ => false

/-- Take the value of an option. -/
def take (arguments : Arguments) (rule : OptionRule) (value : String) :
    Except UsageError Arguments :=
  match rule.role with
  | .binding =>
      match Binding.parse value with
      | .ok binding => .ok { arguments with bindings := arguments.bindings ++ [binding] }
      | .error cause => .error (.badVariable rule.shown value cause)
  | _ =>
      if (arguments.path? rule.long).isSome then .error .repeatedOption
      else if value.isEmpty then .error .missingValue
      else .ok { arguments with paths := arguments.paths ++ [(rule.long, value)] }

/-- Check the option that is pending. -/
def settle (arguments : Arguments) : Except UsageError Arguments :=
  match arguments.pending with
  | none => .ok arguments
  | some (_, none) => .error .missingValue
  | some (rule, some value) => { arguments with pending := none }.take rule value

/-- Take an option with its value, if it is in the same argument. -/
def takeOption (arguments : Arguments) (rule : OptionRule) (value : Option String) :
    Except UsageError Arguments := do
  let arguments ← arguments.settle
  match value with
  | some value => arguments.take rule value
  | none => return { arguments with pending := some (rule, none) }

/-- Take a switch. -/
def takeSwitch (arguments : Arguments) (rule : OptionRule) : Except UsageError Arguments := do
  let arguments ← arguments.settle
  match rule.role with
  | .help => throw (.help arguments.command)
  | .version => throw .version
  | _ =>
      if arguments.has rule.long then throw .repeatedOption
      else return { arguments with switches := arguments.switches ++ [rule.long] }

/-- Take an argument with a long name, after its hyphens. -/
def takeLong (rules : ArgumentRules) (arguments : Arguments) (text : List Char) :
    Except UsageError Arguments :=
  let name := text.takeWhile (· ≠ '=')
  let value := match text.drop name.length with
    | [] => none
    | _ :: value => some (String.ofList value)
  match rules.options.find? fun rule => rule.long = String.ofList name with
  | none => .error .unknownArgument
  | some rule =>
      if rule.role.takesValue then arguments.takeOption rule value
      else if value.isSome then .error .unexpectedValue
      else arguments.takeSwitch rule

/-- Take an argument with short names, after its hyphen. -/
def takeShort (rules : ArgumentRules) (arguments : Arguments) :
    List Char → Except UsageError Arguments
  | [] => .ok arguments
  | c :: rest =>
      match rules.options.find? fun rule => rule.short = some c with
      | none => .error .unknownArgument
      | some rule =>
          if rule.role.takesValue then
            arguments.takeOption rule (match rest with
              | [] => none
              | '=' :: value => some (String.ofList value)
              | value => some (String.ofList value))
          else
            match arguments.takeSwitch rule with
            | .error e => .error e
            | .ok arguments => takeShort rules arguments rest

/-- Take an operand. -/
def takeOperand (rules : ArgumentRules) (arguments : Arguments) (operand : String) :
    Except UsageError Arguments := do
  if rules.operands then
    let arguments ← arguments.settle
    return { arguments with operands := arguments.operands ++ [operand] }
  else if rules.commands.isEmpty then throw .unknownArgument
  else if arguments.operandsOnly && rules.commands.contains operand then throw .unknownArgument
  else throw .unknownCommand

/-- Read arguments up to a command: what was read, and the command with the arguments after it. -/
def read (rules : ArgumentRules) :
    Arguments → List String → Except UsageError (Arguments × Option (String × List String))
  | arguments, [] => .ok (arguments, none)
  | arguments, argument :: rest =>
      if arguments.operandsOnly then
        match arguments.takeOperand rules argument with
        | .error e => .error e
        | .ok arguments => read rules arguments rest
      else if !arguments.awaitsValue && rules.commands.contains argument then
        .ok (arguments, some (argument, rest))
      else
        let next : Except UsageError Arguments := match argument.toList with
          | ['-', '-'] => .ok { arguments with operandsOnly := true }
          | '-' :: '-' :: text => arguments.takeLong rules text
          | '-' :: c :: text => arguments.takeShort rules (c :: text)
          | _ =>
              match arguments.pending with
              | some (rule, none) => .ok { arguments with pending := some (rule, some argument) }
              | _ => arguments.takeOperand rules argument
        match next with
        | .error e => .error e
        | .ok arguments => read rules arguments rest

end Arguments

end Folio
