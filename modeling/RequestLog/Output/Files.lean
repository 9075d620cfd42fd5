import RequestLog.Output.IoError
import RequestLog.Text.Utf8

/-!
A tree of files held in memory. A file has a number of its own, so what is open stays open when its
name is moved or removed. Paths are relative to the root of the tree, apart from two devices.
-/

namespace RequestLog

inductive Node where
  | file (number : Nat)
  | directory
deriving DecidableEq, Repr

abbrev Place := List String

structure Files where
  nodes : List (Place × Node) := []
  /-- What was written to each file, the latest first. -/
  contents : List (List Bytes) := []
deriving DecidableEq, Repr

/-- What a path can lead to besides the tree. -/
inductive Special where
  | null
  | full
deriving DecidableEq, Repr

namespace Files

def node? (files : Files) (place : Place) : Option Node :=
  if place.isEmpty then some .directory else files.nodes.lookup place

def content (files : Files) (number : Nat) : Bytes :=
  (files.contents.getD number []).reverse.flatten

def appendTo (files : Files) (number : Nat) (bytes : Bytes) : Files :=
  { files with contents := files.contents.modify number (bytes :: ·) }

def putNode (files : Files) (place : Place) (node : Node) : Files :=
  { files with nodes := (place, node) :: files.nodes.filter (·.1 ≠ place) }

def create (files : Files) (place : Place) : Nat × Files :=
  (files.contents.length,
    { (files.putNode place (.file files.contents.length)) with contents := files.contents ++ [[]] })

/-- The places below a directory, itself included. -/
def isBelow (directory place : Place) : Bool := directory.isPrefixOf place

/-! ### Paths -/

def splitPath (path : String) : List String :=
  ((path.toList.splitOn '/').map String.ofList).filter (!·.isEmpty)

def nameLimit : Nat := 255

def pathLimit : Nat := 4096

def endsInSlash (path : String) : Bool := path.toList.getLast? = some '/'

def walkName (place : Place) (name : String) : Except IoError Place :=
  if name = "." then .ok place
  else if name = ".." then .ok place.dropLast
  else if nameLimit < name.utf8ByteSize then .error .nameTooLong
  else .ok (place ++ [name])

/-- Follows names that must all be directories. -/
def walk (files : Files) : Place → List String → Except IoError Place
  | place, [] => .ok place
  | place, name :: names =>
    match walkName place name with
    | .error cause => .error cause
    | .ok next =>
      match files.node? next with
      | none => .error .notFound
      | some (.file _) => .error .notDirectory
      | some .directory => walk files next names

inductive Target where
  | special (device : Special)
  /-- A place in the tree whose parent exists. A path that ends in a point or a slash can only be a
  directory. -/
  | place (place : Place) (directoryOnly : Bool)
deriving DecidableEq, Repr

def checkPath (path : String) : Except IoError Unit :=
  if path.toList.contains '\x00' then .error .nulInName
  else if path.isEmpty then .error .notFound
  else if pathLimit ≤ path.utf8ByteSize then .error .nameTooLong
  else .ok ()

def specialPaths : List (String × Special) := [("/dev/null", .null), ("/dev/full", .full)]

def locate (files : Files) (path : String) : Except IoError Target := do
  checkPath path
  match specialPaths.lookup path with
  | some device => return .special device
  | none =>
    match (splitPath path).getLast? with
    | none => return .place [] true
    | some name =>
      let parent ← files.walk [] (splitPath path).dropLast
      let place ← walkName parent name
      return .place place (name = "." || name = ".." || endsInSlash path)

/-! ### Whole files -/

def read (files : Files) (path : String) : Except IoError Bytes := do
  match ← files.locate path with
  | .special _ => return []
  | .place place directoryOnly =>
    match files.node? place with
    | none => throw .notFound
    | some .directory => throw .isDirectory
    | some (.file number) =>
      if directoryOnly then throw .notDirectory else return files.content number

def pathExists (files : Files) (path : String) : Bool :=
  match files.locate path with
  | .error _ => false
  | .ok (.special _) => true
  | .ok (.place place directoryOnly) =>
    match files.node? place with
    | none => false
    | some .directory => true
    | some (.file _) => !directoryOnly

inductive Opened where
  | special (device : Special)
  | file (number : Nat)
deriving DecidableEq, Repr

/-- Opens a file for appending; a missing one is created. -/
def openAppend (files : Files) (path : String) : Except IoError Opened × Files :=
  match files.locate path with
  | .error cause => (.error cause, files)
  | .ok (.special device) => (.ok (.special device), files)
  | .ok (.place place directoryOnly) =>
    if directoryOnly then (.error .isDirectory, files)
    else
      match files.node? place with
      | some .directory => (.error .isDirectory, files)
      | some (.file number) => (.ok (.file number), files)
      | none =>
        let (number, files) := files.create place
        (.ok (.file number), files)

/-- Replaces what a file holds; a missing one is created. -/
def replace (files : Files) (path : String) (bytes : Bytes) : Except IoError Files :=
  match files.openAppend path with
  | (.error cause, _) => .error cause
  | (.ok (.special .full), _) => if bytes.isEmpty then .ok files else .error .noSpace
  | (.ok (.special .null), _) => .ok files
  | (.ok (.file number), files) =>
    .ok { files with contents := files.contents.set number [bytes] }

def removeFile (files : Files) (path : String) : Except IoError Files := do
  match ← files.locate path with
  | .special _ => throw .invalidArgument
  | .place place directoryOnly =>
    match files.node? place with
    | none => throw .notFound
    | some .directory => throw .isDirectory
    | some (.file _) =>
      if directoryOnly then throw .notDirectory
      else return { files with nodes := files.nodes.filter (·.1 ≠ place) }

/-- Makes the directories on the way from one that exists. -/
def makeWay (files : Files) : Place → List String → Except IoError Files
  | _, [] => .ok files
  | place, name :: names =>
    match walkName place name with
    | .error cause => .error cause
    | .ok next =>
      match files.node? next with
      | some .directory => makeWay files next names
      | some (.file _) => .error .notDirectory
      | none => makeWay (files.putNode next .directory) next names

def makeDirectory (files : Files) (path : String) : Except IoError Files :=
  if path.isEmpty then .ok files
  else do
    checkPath path
    files.makeWay [] (splitPath path)

def removeDirectory (files : Files) (path : String) : Except IoError Files := do
  match ← files.locate path with
  | .special _ => throw .notDirectory
  | .place place _ =>
    match files.node? place with
    | none => throw .notFound
    | some (.file _) => throw .notDirectory
    | some .directory =>
      return { files with nodes := files.nodes.filter (!isBelow place ·.1) }

/-- A name moves over what it finds: a file over a file, a directory over an empty one. -/
def canReplace (files : Files) (moved : Node) (origin goal : Place) (directoryOnly : Bool) : Bool :=
  match moved, files.node? goal with
  | .file _, none => !directoryOnly
  | .file _, some (.file _) => !directoryOnly
  | .file _, some .directory => false
  | .directory, none => !isBelow origin goal
  | .directory, some (.file _) => false
  | .directory, some .directory =>
    origin = goal || (!isBelow origin goal && !files.nodes.any fun (place, _) =>
      isBelow goal place && place ≠ goal)

def moveNode (origin goal : Place) (entry : Place × Node) : Place × Node :=
  if isBelow origin entry.1 then (goal ++ entry.1.drop origin.length, entry.2) else entry

def rename (files : Files) (source destination : String) : Except IoError Files := do
  match ← files.locate source, ← files.locate destination with
  | .place origin originDirectory, .place goal goalDirectory =>
    match files.node? origin with
    | none => throw .notFound
    | some moved =>
      if originDirectory && moved ≠ .directory then throw .notDirectory
      else if origin.isEmpty || goal.isEmpty then throw .invalidArgument
      else if !files.canReplace moved origin goal goalDirectory then throw .isDirectory
      else if origin = goal then return files
      else
        let nodes := files.nodes.filter (·.1 ≠ goal)
        return { files with nodes := nodes.map (moveNode origin goal) }
  | _, _ => throw .invalidArgument

/-! ### Whole trees -/

def ofEntries (directories : List String) (files : List (String × Bytes)) :
    Except IoError Files := do
  let tree ← directories.foldlM makeDirectory {}
  files.foldlM (fun tree (path, bytes) => tree.replace path bytes) tree

/-- Paths with what they hold: nothing for directories, whose paths end in a slash. -/
def listing (files : Files) : List (String × Option Bytes) :=
  files.nodes.map fun (place, node) =>
    match node with
    | .directory => ("/".intercalate place ++ "/", none)
    | .file number => ("/".intercalate place, some (files.content number))

end Files

end RequestLog
