import GatewayAgent.Data.Dictionary
import GatewayAgent.Host.Path
import GatewayAgent.Host.SystemError
import GatewayAgent.Text.Utf8

/-!
# File systems

A file system is a tree of directories and regular files without links. A file has its bytes and
its permission bits. Relative paths start at the working directory, and the permissions of a new
file are limited by the mask.

Every request resolves its paths first. Resolving looks up one part after the other, so that a
missing directory and a file in the place of a directory are told apart.
-/

namespace GatewayAgent

/-- What is at one place of a file system. -/
inductive FileNode where
  /-- A regular file with its permission bits. -/
  | file (content : Bytes) (mode : Nat)
  | directory
  deriving DecidableEq, Repr

/-- A place in a file system: the names from the root down. -/
abbrev Location := List String

/-- A tree of files and directories. -/
structure FileSystem where
  /-- What is at the places below the root. -/
  nodes : Dictionary Location FileNode := .empty
  /-- Where relative paths start. -/
  workingDirectory : Location := []
  /-- The permission bits that a new file does not get. -/
  umask : Nat := 0o022

namespace FileSystem

/-- What is at a place. The root is a directory. -/
def node? (fs : FileSystem) (place : Location) : Option FileNode :=
  if place.isEmpty then some .directory else fs.nodes.find? place

/-- Puts something at a place. -/
def put (fs : FileSystem) (place : Location) (n : FileNode) : FileSystem :=
  { fs with nodes := fs.nodes.insert place n }

/-- Takes away what is at a place. -/
def drop (fs : FileSystem) (place : Location) : FileSystem :=
  { fs with nodes := fs.nodes.erase place }

/-! ### Resolving paths -/

/-- The length in bytes that a part of a path may have. -/
def longestName : Nat := 255

/-- The length in bytes that a path may have. -/
def longestPath : Nat := 4095

/-- The place that the parts lead to from a place. All but the last must lead to directories. -/
def walk (fs : FileSystem) : Location → List String → Except SystemError Location
  | place, [] => .ok place
  | place, name :: rest =>
    match fs.node? place with
    | none => .error .notFound
    | some (.file ..) => .error .notADirectory
    | some .directory =>
      if name = "." then fs.walk place rest
      else if name = ".." then fs.walk place.dropLast rest
      else if longestName < name.utf8ByteSize then .error .nameTooLong
      else fs.walk (place ++ [name]) rest

/-- The place that a path leads to, taking no notice of a slash at its end. -/
def locate (fs : FileSystem) (path : String) : Except SystemError Location :=
  if path.toList.contains '\x00' then .error .nulInPath
  else if path.isEmpty then .error .notFound
  else if longestPath < path.utf8ByteSize then .error .nameTooLong
  else
    let start := if Path.isAbsolute path then [] else fs.workingDirectory
    fs.walk start ((Path.parts path).filter (· ≠ ""))

/-- What a path leads to. A slash at the end asks for a directory. -/
def find (fs : FileSystem) (path : String) : Except SystemError (Location × FileNode) := do
  let place ← fs.locate path
  match fs.node? place with
  | none => .error .notFound
  | some (.file content mode) =>
    if Path.endsWithSlash path then .error .notADirectory
    else .ok (place, .file content mode)
  | some .directory => .ok (place, .directory)

/-! ### Looking -/

/-- Whether there is something at a path; an error if that cannot be found out. -/
def tryExists (fs : FileSystem) (path : String) : Except SystemError Bool :=
  match fs.find path with
  | .ok _ => .ok true
  | .error e => if e = .notFound then .ok false else .error e

/-- Whether something can be found at a path. -/
def hasEntry (fs : FileSystem) (path : String) : Bool := (fs.find path).isOk

/-- Whether a directory can be found at a path. -/
def isDirectory (fs : FileSystem) (path : String) : Bool :=
  match fs.find path with
  | .ok (_, .directory) => true
  | _ => false

/-- The bytes of the file at a path. -/
def read (fs : FileSystem) (path : String) : Except SystemError Bytes := do
  match ← fs.find path with
  | (_, .file content _) => .ok content
  | (_, .directory) => .error .isADirectory

/-- The text of the file at a path. -/
def readText (fs : FileSystem) (path : String) : Except SystemError String := do
  match Text.decode? (← fs.read path) with
  | some s => .ok s
  | none => .error .notText

/-! ### Changing -/

/-- Opens the file at a path for writing: an existing file loses its content and keeps its
permissions, a new one gets those of `mode` that the mask leaves. -/
def openTruncated (fs : FileSystem) (path : String) (mode : Nat) :
    Except SystemError (FileSystem × Location) := do
  let place ← fs.locate path
  if Path.endsWithSlash path then .error .isADirectory
  else
    match fs.node? place with
    | some .directory => .error .isADirectory
    | some (.file _ old) => .ok (fs.put place (.file [] old), place)
    | none => .ok (fs.put place (.file [] (mode &&& (0o777 ^^^ fs.umask))), place)

/-- Replaces the content of an open file. -/
def setContent (fs : FileSystem) (place : Location) (content : Bytes) : FileSystem :=
  match fs.node? place with
  | some (.file _ mode) => fs.put place (.file content mode)
  | _ => fs

/-- Replaces the permissions of the file at a place. -/
def setMode (fs : FileSystem) (place : Location) (mode : Nat) : FileSystem :=
  match fs.node? place with
  | some (.file content _) => fs.put place (.file content mode)
  | _ => fs

/-- Writes a file as a whole. -/
def write (fs : FileSystem) (path : String) (content : Bytes) (mode : Nat := 0o666) :
    Except SystemError FileSystem := do
  let (fs, place) ← fs.openTruncated path mode
  .ok (fs.setContent place content)

/-- Changes the permissions of the file at a path. -/
def chmod (fs : FileSystem) (path : String) (mode : Nat) : Except SystemError FileSystem := do
  let (place, _) ← fs.find path
  .ok (fs.setMode place mode)

/-- Copies a regular file with its permissions. -/
def copy (fs : FileSystem) (source target : String) : Except SystemError FileSystem := do
  match ← fs.find source with
  | (_, .directory) => .error .notARegularFile
  | (_, .file content mode) =>
    let (fs, place) ← fs.openTruncated target mode
    .ok ((fs.setContent place content).setMode place mode)

/-- Moves a file, replacing the file that is there. -/
def rename (fs : FileSystem) (source target : String) : Except SystemError FileSystem := do
  let (old, n) ← fs.find source
  let new ← fs.locate target
  match fs.node? new with
  | some .directory => .error .isADirectory
  | _ => .ok ((fs.drop old).put new n)

/-- Makes a directory. -/
def makeDirectory (fs : FileSystem) (path : String) : Except SystemError FileSystem := do
  let place ← fs.locate path
  match fs.node? place with
  | some _ => .error .alreadyExists
  | none => .ok (fs.put place .directory)

/-- What a directory that could not be made means: nothing where there is one already. -/
def settle (fs : FileSystem) (path : String) (e : SystemError) : Except SystemError Unit :=
  if fs.isDirectory path then .ok () else .error e

/-- Makes a directory and the missing directories above it, at most `depth` of them. A directory
that is there already is as good as a new one. Those that were made before a failure stay. -/
def makeDirectories (fs : FileSystem) : (depth : Nat) → (path : String) →
    FileSystem × Except SystemError Unit
  | 0, _ => (fs, .ok ())
  | depth + 1, path =>
    if path.isEmpty then (fs, .ok ())
    else
      match fs.makeDirectory path with
      | .ok fs => (fs, .ok ())
      | .error e =>
        if e ≠ .notFound then (fs, fs.settle path e)
        else
          match Path.parent? path with
          | none => (fs, .error .notFound)
          | some above =>
            match fs.makeDirectories depth above with
            | (fs, .error e) => (fs, .error e)
            | (fs, .ok ()) =>
              match fs.makeDirectory path with
              | .ok fs => (fs, .ok ())
              | .error e => (fs, fs.settle path e)

/-- Makes a directory with all directories above it. A path has fewer parts than characters, which
bounds how far up it can go. -/
def makeDirectoryPath (fs : FileSystem) (path : String) : FileSystem × Except SystemError Unit :=
  fs.makeDirectories (path.length + 1) path

/-! ### Listing -/

/-- What is below the working directory, by relative path. -/
def listing (fs : FileSystem) : List (String × FileNode) :=
  fs.nodes.entries.filterMap fun (place, n) =>
    if fs.workingDirectory.isPrefixOf place && place ≠ fs.workingDirectory then
      some ("/".intercalate (place.drop fs.workingDirectory.length), n)
    else none

end FileSystem

end GatewayAgent
