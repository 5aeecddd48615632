import Folio.CommandLine

/-!
# Help

The texts that explain the command line.

Main definitions:
- `UsageError.helpText?`: what is printed in place of a command
- `UsageError.summary`: why arguments are refused
-/

namespace Folio

/-- The version of the program. -/
def versionText : String := "quire 0.1.0\n"

/-- The help for the whole program. -/
def programHelp : String :=
"document renderer with front matter, pluggable compilers and recursive layouts

Usage: quire [OPTIONS] <COMMAND>

Commands:
  render  Render documents to stdout
  build   Render every document of the site into the output directory
  watch   Render documents, then re-render them whenever a source changes
  help    Print this message or the help of the given subcommand(s)

Options:
  -r, --root <ROOT>      Project root directory (default: current directory)
  -C, --config <CONFIG>  Config file name, relative to the project root [default: quire.toml]
  -h, --help             Print help
  -V, --version          Print version
"

/-- The help for a command with documents. -/
def documentsHelp (about name : String) : String :=
  about ++ "\n\nUsage: quire " ++ name ++ " [OPTIONS] <PATHS>...\n\n" ++
"Arguments:
  <PATHS>...  Logical document paths, relative to \x60[build].root\x60

Options:
      --var <KEY=VALUE>  Extra variable, overriding front matter (repeatable)
  -h, --help             Print help
"

/-- The help for building. -/
def buildHelp : String :=
"Render every document of the site into the output directory

Usage: quire build [OPTIONS]

Options:
  -o, --output <OUTPUT>  Output directory (relative to the project root)
      --clean            Clean output directory completely before building
  -h, --help             Print help
"

/-- The help for asking for help. -/
def helpHelp : String :=
"Print this message or the help of the given subcommand(s)

Usage: quire help [COMMAND]...

Arguments:
  [COMMAND]...  Print help for the subcommand(s)
"

/-- The help for a command, or for the whole program. -/
def helpText : Option String → String
  | some "render" => documentsHelp "Render documents to stdout" "render"
  | some "build" => buildHelp
  | some "watch" =>
      documentsHelp "Render documents, then re-render them whenever a source changes" "watch"
  | some "help" => helpHelp
  | _ => programHelp

namespace UsageError

/-- What is printed in place of a command, if that is what the arguments ask for. -/
def helpText? : UsageError → Option String
  | .help command => some (helpText command)
  | .version => some versionText
  | _ => none

/-- Why arguments are refused, on one line. -/
def summary : UsageError → String
  | .unknownArgument => "error: unexpected argument found"
  | .unknownCommand => "error: unrecognized subcommand"
  | .missingCommand => "error: 'quire' requires a subcommand but one was not provided"
  | .missingOperand => "error: the following required arguments were not provided:"
  | .repeatedOption => "error: an argument cannot be used multiple times"
  | .unexpectedValue => "error: unexpected value for an argument found; no more were expected"
  | .missingValue => "error: a value is required for an argument but none was supplied"
  | .badVariable shown argument cause => variableMessage shown argument cause
  | .nothing => programHelp
  | .help command => helpText command
  | .version => versionText

end UsageError

end Folio
