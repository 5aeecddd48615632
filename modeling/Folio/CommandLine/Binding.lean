import Folio.Text.Blank
import Folio.Yaml

/-!
# Variables on a command line

A variable is given as its name, an equals sign and its value. The value is read as YAML, so that
numbers and booleans keep their kind; a list, an object and what is no YAML stay text.

Main definitions:
- `Binding.parse`
-/

namespace Folio

/-- Why a variable cannot be read. -/
inductive BindingError where
  | noEqualsSign (argument : String)
  | noName (argument : String)
deriving DecidableEq, Inhabited

/-- The wording of an error. -/
def BindingError.message : BindingError → String
  | .noEqualsSign argument => "expected KEY=VALUE, got \x60" ++ argument ++ "\x60"
  | .noName argument => "empty variable name in \x60" ++ argument ++ "\x60"

/-- A variable on a command line. -/
abbrev Binding := String × Value

namespace Binding

/-- The value that a text writes. -/
def valueOf (text : String) : Value :=
  if Text.isBlankText text.toList then .str text
  else
    match Yaml.readValue? text with
    | none | some (.list _) | some (.object _) => .str text
    | some v => v

/-- Read a variable. Space around its name does not count. -/
def parse (argument : String) : Except BindingError Binding :=
  let name := argument.toList.takeWhile (· ≠ '=')
  match argument.toList.drop name.length with
  | [] => .error (.noEqualsSign argument)
  | _ :: value =>
      let name := Text.trim name
      if name.isEmpty then .error (.noName argument)
      else .ok (String.ofList name, valueOf (String.ofList value))

end Binding

end Folio
