import Folio.Config.Basic

/-!
# The documents of a site

A site has as documents all files below its root that have one of its extensions, apart from what
is hidden, the directories of layouts and partials, what a build writes, the programs of scripts,
and the settings.

Main definitions:
- `Config.walk`: the files that are neither hidden nor in a directory that holds no documents
- `Config.isDocument`, `Config.documents`
-/

namespace Folio

/-- Whether a name is hidden: it is text and has a dot in front. -/
def Name.isHidden (name : Name) : Bool :=
  name.head? = some Name.dot && (Name.text? name).isSome

/-- Whether a name is text, ends in one of the extensions, and has something before it. -/
def Name.hasExtension (extensions : List String) (name : Name) : Bool :=
  (Name.text? name).isSome && extensions.any fun e =>
    !e.isEmpty && (Name.ofString e).length < name.length && (Name.ofString e).isSuffixOf name

namespace Config

/-- The directories below the root that hold no documents. -/
def skippedDirectories (config : Config) : List Path :=
  [config.build.root.join config.build.layouts, config.build.root.join config.build.includes,
    config.build.output]

/-- The files that are no documents whatever their name. -/
def skippedFiles (config : Config) : List Path :=
  config.compilers.scripts.map ScriptConfig.program ++ [config.configPath]

/-- Whether a walk leaves out what stands at the end of a way from the root, with everything in it:
what is hidden, and the skipped directories. -/
def isSkipped (config : Config) (way : List Name) : Bool :=
  way.getLast?.any Name.isHidden
    || config.skippedDirectories.any (config.build.root.join (Path.ofNames way)).equiv

/-- The files that a walk from a place comes to below one of its directories, by their ways from that
place. In a directory it goes through the names in their order. The number bounds how deep it
goes. -/
def walk (fs : FileSystem) (config : Config) (place : Place) : Nat → List Name → List (List Name)
  | 0, _ => []
  | deeper + 1, way =>
      (fs.namesIn (place ++ way)).flatMap fun name =>
        let way := way ++ [name]
        if config.isSkipped way then []
        else
          match fs.entry? (place ++ way) with
          | none => []
          | some (.file _) => [way]
          | some .directory => walk fs config place deeper way

/-- Whether a file that a walk has come to is a document. -/
def isDocument (config : Config) (way : List Name) : Bool :=
  !config.skippedFiles.any (config.build.root.join (Path.ofNames way)).equiv
    && way.getLast?.any (Name.hasExtension config.build.extensions)

/-- The documents of a site as seen from its root, in the order in which a walk comes to them. -/
def documents (fs : FileSystem) (config : Config) : List Path :=
  match fs.find config.build.root with
  | .ok (place, .directory) =>
      ((walk fs config place fs.depth []).filter config.isDocument).map Path.ofNames
  | _ => []

end Config

end Folio
