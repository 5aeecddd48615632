import Folio.CommandLine
import Folio.Config.Reader
import Folio.Config.Validation

/-!
# Loading settings

The settings of a project come from its settings file, or are the defaults if there is none. The
command line overrides them, paths become absolute, and the result is checked.

Main definitions:
- `FileSystem.absolute`: a path made absolute
- `Config.resolve`: settings with absolute paths
- `Config.load`
-/

namespace Folio

/-- The absolute path that a path leads to; if nothing is there, its spelling as seen from the
working directory. -/
def FileSystem.absolute (fs : FileSystem) (p : Path) : Path :=
  match fs.canonicalize p with
  | .ok path => path
  | .error _ => (Path.ofRootNames fs.workingDirectory).join p

namespace Config

/-- The settings in a file. -/
def readFile (fs : FileSystem) (path : Path) : Except ConfigError Config :=
  match fs.readText path with
  | .error cause => .error (.unreadable path cause)
  | .ok text =>
      match ofText text with
      | .error e => .error (e.inFile path)
      | .ok config => .ok { config with configPath := path }

/-- Settings with the paths below a root made absolute. The directories of layouts and partials stay
as they are, since they are seen from the root of the documents. -/
def resolve (fs : FileSystem) (root : Path) (config : Config) : Config :=
  let absolute (p : Path) : Path := fs.absolute (root.join p)
  { config with
    build := { config.build with
      root := absolute config.build.root
      output := absolute config.build.output }
    compilers := { config.compilers with
      scripts := config.compilers.scripts.map fun script =>
        { script with program := absolute script.program } } }

/-- The root of the project of a command line. -/
def projectRoot (commandLine : CommandLine) : Path := commandLine.root.getD (.ofString "./")

/-- Settings with what a command line says about a build. -/
def override (command : Command) (config : Config) : Config :=
  match command with
  | .build output clean =>
      { config with build := { config.build with
          output := output.getD config.build.output
          clean := config.build.clean || clean } }
  | _ => config

/-- Settings as a command line overrides them, with absolute paths. -/
def update (fs : FileSystem) (commandLine : CommandLine) (config : Config) : Config :=
  let root := fs.absolute (projectRoot commandLine)
  resolve fs root { override commandLine.command config with
    configPath := fs.absolute (root.join commandLine.config) }

/-- The settings of the project of a command line. -/
def load (fs : FileSystem) (commandLine : CommandLine) : Except ConfigError Config := do
  let path := (projectRoot commandLine).join commandLine.config
  let config ← if fs.pathExists path then readFile fs path else pure {}
  let config := config.update fs commandLine
  match config.check fs with
  | .error fault => throw (.invalid fault)
  | .ok () => return config

end Config

end Folio
