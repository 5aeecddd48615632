import Folio.Path

/-!
# File systems

A file system as a value: directories and files by their place below the root. There are no links,
so a place has one name. Operations take paths, which are seen from a working directory, and fail
with the causes an operating system gives.

Main definitions:
- `FileSystem`, `FileSystem.Entry`, `IoError`
- `FileSystem.entry?`: what stands at a place
- `FileSystem.locate`: the place a path leads to
- `FileSystem.readText`, `write`, `createDirectories`, `removeDirectories`, `canonicalize`
- `FileSystem.namesIn`: what a directory holds
-/

namespace Folio

/-! ## Section 1: Errors -/

/-- Why an operation on files fails. -/
inductive IoError where
  | notFound
  | notADirectory
  | isADirectory
  | alreadyExists
  | notUtf8
  | nameTooLong
  | nulInPath
  /-- A resource that is held in memory is missing. -/
  | noSuchResource (path : Path)
deriving DecidableEq, Inhabited

/-- The wording of an error. -/
def IoError.message : IoError → String
  | .notFound => "No such file or directory (os error 2)"
  | .notADirectory => "Not a directory (os error 20)"
  | .isADirectory => "Is a directory (os error 21)"
  | .alreadyExists => "File exists (os error 17)"
  | .notUtf8 => "stream did not contain valid UTF-8"
  | .nameTooLong => "File name too long (os error 36)"
  | .nulInPath => "file name contained an unexpected NUL byte"
  | .noSuchResource path => "no such resource: " ++ path.display

/-! ## Section 2: Entries by place -/

/-- A place: the names that lead to it from the root. -/
abbrev Place := List Name

/-- The order of places: a directory comes before what is in it, and names are in byte order. -/
def Place.lt : Place → Place → Bool
  | [], [] => false
  | [], _ :: _ => true
  | _ :: _, [] => false
  | a :: as, b :: bs => if a = b then Place.lt as bs else Name.lt a b

/-- What stands at a place. -/
inductive FileSystem.Entry where
  | file (content : ByteArray)
  | directory

instance : Inhabited FileSystem.Entry := ⟨.directory⟩

/-- Two files are equal when their bytes are. -/
instance : DecidableEq FileSystem.Entry
  | .file a, .file b =>
      if h : a.data = b.data then
        .isTrue (congrArg FileSystem.Entry.file (ByteArray.ext h))
      else .isFalse fun e => h (congrArg ByteArray.data (FileSystem.Entry.file.inj e))
  | .directory, .directory => .isTrue rfl
  | .file _, .directory => .isFalse nofun
  | .directory, .file _ => .isFalse nofun

/-- Directories and files by their place, and the directory that relative paths start from.

The entries stand in the order of their places. The root is a directory and has no entry. -/
structure FileSystem where
  entries : List (Place × FileSystem.Entry) := []
  workingDirectory : Place := []
deriving Inhabited

namespace FileSystem

/-- The first entry with a place. -/
def lookup (place : Place) : List (Place × Entry) → Option Entry
  | [] => none
  | (p, e) :: rest => if p = place then some e else lookup place rest

/-- Put an entry at its place in the order. -/
def put (place : Place) (entry : Entry) : List (Place × Entry) → List (Place × Entry)
  | [] => [(place, entry)]
  | (p, e) :: rest =>
      if p = place then (place, entry) :: rest
      else if Place.lt place p then (place, entry) :: (p, e) :: rest
      else (p, e) :: put place entry rest

/-- What stands at a place. -/
def entry? (fs : FileSystem) (place : Place) : Option Entry :=
  if place = [] then some .directory else lookup place fs.entries

/-- Set what stands at a place. -/
def set (fs : FileSystem) (place : Place) (entry : Entry) : FileSystem :=
  { fs with entries := put place entry fs.entries }

/-- Remove a place and everything below it. -/
def prune (fs : FileSystem) (place : Place) : FileSystem :=
  { fs with entries := fs.entries.filter fun (p, _) => !place.isPrefixOf p }

/-! ## Section 3: Following paths -/

/-- The longest name that a directory can hold, in bytes. -/
def maxName : Nat := 255

/-- Follow components from a place. Every place that is left must be a directory; the last place
need not exist. -/
def follow (fs : FileSystem) : Place → List Component → Except IoError Place
  | place, [] => .ok place
  | place, c :: rest =>
      match c with
      | .root => fs.follow [] rest
      | _ =>
          match fs.entry? place with
          | none => .error .notFound
          | some (.file _) => .error .notADirectory
          | some .directory =>
              match c with
              | .normal name =>
                  if name.length > maxName then .error .nameTooLong
                  else fs.follow (place ++ [name]) rest
              | .parent => fs.follow place.dropLast rest
              | _ => fs.follow place rest

/-- Whether the spelling of a path asks for a directory. -/
def asksForDirectory (p : Path) : Bool :=
  match p.segments.getLast? with
  | some segment => (Path.componentOf? segment).isNone
  | none => false

/-- The place that a path leads to, which need not exist. -/
def locate (fs : FileSystem) (p : Path) : Except IoError Place :=
  if p.bytes.contains 0 then .error .nulInPath
  else if p.bytes = [] then .error .notFound
  else fs.follow (if p.isAbsolute then [] else fs.workingDirectory) p.components

/-- What stands where a path leads, with its place. -/
def find (fs : FileSystem) (p : Path) : Except IoError (Place × Entry) :=
  match fs.locate p with
  | .error e => .error e
  | .ok place =>
      match fs.entry? place with
      | none => .error .notFound
      | some (.file content) =>
          if asksForDirectory p then .error .notADirectory else .ok (place, .file content)
      | some .directory => .ok (place, .directory)

/-- Whether a path leads to a file. -/
def isFile (fs : FileSystem) (p : Path) : Bool :=
  match fs.find p with
  | .ok (_, .file _) => true
  | _ => false

/-- Whether a path leads to a directory. -/
def isDirectory (fs : FileSystem) (p : Path) : Bool :=
  match fs.find p with
  | .ok (_, .directory) => true
  | _ => false

/-- Whether a path leads to anything. -/
def pathExists (fs : FileSystem) (p : Path) : Bool :=
  match fs.find p with
  | .ok _ => true
  | .error _ => false

/-- The absolute path of names that a path leads to. -/
def canonicalize (fs : FileSystem) (p : Path) : Except IoError Path :=
  match fs.find p with
  | .ok (place, _) => .ok (Path.ofRootNames place)
  | .error e => .error e

/-! ## Section 4: Reading and writing -/

/-- The bytes of a file. -/
def readBytes (fs : FileSystem) (p : Path) : Except IoError ByteArray :=
  match fs.find p with
  | .ok (_, .file content) => .ok content
  | .ok (_, .directory) => .error .isADirectory
  | .error e => .error e

/-- The text of a file, which must be UTF-8. -/
def readText (fs : FileSystem) (p : Path) : Except IoError String :=
  match fs.readBytes p with
  | .error e => .error e
  | .ok content =>
      match String.fromUTF8? content with
      | some text => .ok text
      | none => .error .notUtf8

/-- Write a file, whose directory must exist. -/
def write (fs : FileSystem) (p : Path) (content : ByteArray) : Except IoError FileSystem :=
  match fs.locate p with
  | .error e => .error e
  | .ok place =>
      match fs.entry? place with
      | some .directory => .error .isADirectory
      | some (.file _) =>
          if asksForDirectory p then .error .notADirectory else .ok (fs.set place (.file content))
      | none =>
          match fs.entry? place.dropLast with
          | none => .error .notFound
          | some (.file _) => .error .notADirectory
          | some .directory =>
              if asksForDirectory p then .error .isADirectory
              else .ok (fs.set place (.file content))

/-- Write a text. -/
def writeText (fs : FileSystem) (p : Path) (text : String) : Except IoError FileSystem :=
  fs.write p text.toByteArray

/-- Make one directory, whose parent must exist. -/
def createDirectory (fs : FileSystem) (p : Path) : Except IoError FileSystem :=
  match fs.locate p with
  | .error e => .error e
  | .ok place =>
      match fs.entry? place with
      | some _ => .error .alreadyExists
      | none =>
          match fs.entry? place.dropLast with
          | none => .error .notFound
          | some (.file _) => .error .notADirectory
          | some .directory => .ok (fs.set place .directory)

/-- Make a directory and those above it, as far as they are missing. -/
def createDirectoriesFrom : Nat → FileSystem → Path → Except IoError FileSystem
  | 0, _, _ => .error .notFound
  | fuel + 1, fs, p =>
      if p.bytes = [] then .ok fs
      else
        match fs.createDirectory p with
        | .ok fs => .ok fs
        | .error .notFound =>
            match p.parent? with
            | none => .error .notFound
            | some parent =>
                match createDirectoriesFrom fuel fs parent with
                | .error e => .error e
                | .ok fs =>
                    match fs.createDirectory p with
                    | .ok fs => .ok fs
                    | .error e => if fs.isDirectory p then .ok fs else .error e
        | .error e => if fs.isDirectory p then .ok fs else .error e

/-- Make a directory and those above it, as far as they are missing. -/
def createDirectories (fs : FileSystem) (p : Path) : Except IoError FileSystem :=
  createDirectoriesFrom (p.components.length + 2) fs p

/-- Remove a directory with everything in it. -/
def removeDirectories (fs : FileSystem) (p : Path) : Except IoError FileSystem :=
  match fs.find p with
  | .error e => .error e
  | .ok (_, .file _) => .error .notADirectory
  | .ok (place, .directory) => .ok (fs.prune place)

/-- Remove a file. -/
def removeFile (fs : FileSystem) (p : Path) : Except IoError FileSystem :=
  match fs.find p with
  | .error e => .error e
  | .ok (_, .directory) => .error .isADirectory
  | .ok (place, .file _) =>
      .ok { fs with entries := fs.entries.filter fun (q, _) => q ≠ place }

/-! ## Section 5: Directories -/

/-- Put a name in its place among names in byte order, unless it is there. -/
def insertName (name : Name) : List Name → List Name
  | [] => [name]
  | other :: rest =>
      if name = other then other :: rest
      else if Name.lt name other then name :: other :: rest
      else other :: insertName name rest

/-- The name by which a place stands in a directory, if it is in it and not deeper. -/
def nameIn? (directory place : Place) : Option Name :=
  if place.dropLast = directory then place.getLast? else none

/-- The names in a directory, in byte order. -/
def namesIn (fs : FileSystem) (directory : Place) : List Name :=
  (fs.entries.filterMap fun (place, _) => nameIn? directory place).foldr insertName []

/-- How many names the deepest place has. -/
def depth (fs : FileSystem) : Nat :=
  fs.entries.foldr (fun (place, _) deepest => max place.length deepest) 0

/-- The files below a directory in the order of their places, by the names that lead to them from
there. -/
def filesBelow (fs : FileSystem) (directory : Place) : List (Place × ByteArray) :=
  fs.entries.filterMap fun (place, entry) =>
    match entry with
    | .directory => none
    | .file content =>
        if directory.isPrefixOf place then some (place.drop directory.length, content) else none

end FileSystem

end Folio
