import RelProto.Action
import RelProto.OsFault
import RelProto.Text.Basic

/-! Directories, files and sockets below one root, and paths to them. A path is followed name by name,
from the root or from the working directory, so every name before the last has to be a directory. -/
namespace RelProto

namespace Path

/-- The names of a path; `.` and `..` are among them. -/
def names (path : String) : List String :=
  ((Text.split (· == '/') path.toList).filter (!·.isEmpty)).map String.ofList

/-- A path from the root is not taken below any other. -/
def startsAtRoot (path : String) : Bool := path.toList.head? == some '/'

def endsInSlash (path : String) : Bool := path.toList.getLast? == some '/'

/-- A path below `base`; one that starts at the root stays as it is. -/
def join (base path : String) : String :=
  if startsAtRoot path then path
  else if base.isEmpty || endsInSlash base then base ++ path
  else base ++ "/" ++ path

def dropDots (names : List String) : List String :=
  (names.reverse.dropWhile (· == ".")).reverse

theorem length_dropDots_le (names : List String) : (dropDots names).length ≤ names.length := by
  have := (List.dropWhile_suffix (l := names.reverse) (· == ".")).length_le
  simpa [dropDots] using this

/-- The names of the enclosing directory. A `.` at the end names nothing. -/
def parent (names : List String) : List String := dropDots (dropDots names).dropLast

end Path

/-- Where an entry lies: the names on the way from the root, without `.` and `..`. -/
abbrev Place := List String

/-- Where a path starts: at the root, or else where the working directory is. -/
def Path.origin (here : Place) (path : String) : Place := if startsAtRoot path then [] else here

inductive FileEntry where
  | directory
  | file (content : ByteArray)
  | socket

def FileEntry.isDirectory : FileEntry → Bool
  | directory => true
  | file _ | socket => false

/-- The entries below the root, seen from a working directory. That is a directory itself, and so are
the root and everything else on the way to it, whatever the entries say. -/
structure FileTree where
  entries : List (Place × FileEntry)
  workingDirectory : Place := []

namespace FileTree

def empty : FileTree := { entries := [] }

def entry? (tree : FileTree) (place : Place) : Option FileEntry :=
  if place <+: tree.workingDirectory then some .directory else tree.entries.lookup place

def put (tree : FileTree) (place : Place) (entry : FileEntry) : FileTree :=
  { tree with entries := (place, entry) :: tree.entries.filter (·.1 != place) }

def isDirectoryAt (tree : FileTree) (place : Place) : Bool :=
  (tree.entry? place).any FileEntry.isDirectory

/-- Looks one name up. No name may be longer than 255 bytes. -/
def step (place : Place) (name : String) : Except OsFault Place :=
  if name = "." then .ok place
  else if name = ".." then .ok place.dropLast
  else if name.utf8ByteSize > 255 then .error .nameTooLong
  else .ok (place ++ [name])

/-- Follows names that all have to be directories. -/
def enter (tree : FileTree) (place : Place) : List String → Except OsFault Place
  | [] => .ok place
  | name :: rest => do
    let next ← step place name
    match tree.entry? next with
    | none => .error .notFound
    | some .directory => tree.enter next rest
    | some _ => .error .notDirectory

/-- The place that names lead to from `start`, whether or not there is an entry. -/
def locate (tree : FileTree) (start : Place) (names : List String) : Except OsFault Place := do
  let directory ← tree.enter start names.dropLast
  match names.getLast? with
  | none => .ok directory
  | some name => step directory name

def isDirectory (tree : FileTree) (start : Place) (names : List String) : Bool :=
  match tree.locate start names with
  | .ok place => tree.isDirectoryAt place
  | .error _ => false

/-- Makes one directory, which must not exist. -/
def makeDirectory (tree : FileTree) (start : Place) (names : List String) :
    Except OsFault FileTree := do
  let place ← tree.locate start names
  match tree.entry? place with
  | some _ => .error .alreadyExists
  | none => .ok (tree.put place .directory)

/-- Makes a directory unless it exists. -/
def ensureDirectory (tree : FileTree) (start : Place) (names : List String) :
    Except OsFault FileTree :=
  match tree.makeDirectory start names with
  | .ok tree => .ok tree
  | .error fault => if tree.isDirectory start names then .ok tree else .error fault

/-- Makes a directory with all missing directories on the way. Those made before a failure stay. -/
def ensureDirectories (tree : FileTree) (start : Place) (names : List String) :
    Except OsFault Unit × FileTree :=
  if _h : names = [] then (.ok (), tree)
  else
    match tree.ensureDirectory start names with
    | .ok tree => (.ok (), tree)
    | .error fault =>
      if fault = .notFound then
        match tree.ensureDirectories start (Path.parent names) with
        | (.error fault, tree) => (.error fault, tree)
        | (.ok (), tree) =>
          match tree.ensureDirectory start names with
          | .ok tree => (.ok (), tree)
          | .error fault => (.error fault, tree)
      else (.error fault, tree)
  termination_by names.length
  decreasing_by
    have := Path.length_dropDots_le names
    have := Path.length_dropDots_le (Path.dropDots names).dropLast
    have := List.length_pos_iff.2 _h
    simp only [Path.parent, List.length_dropLast] at *
    omega

/-- Where a path starts in this tree. -/
abbrev startOf (tree : FileTree) (path : String) : Place := Path.origin tree.workingDirectory path

/-- The place that a path names, whether or not there is an entry. -/
def find (tree : FileTree) (path : String) : Except OsFault Place :=
  tree.locate (tree.startOf path) (Path.names path)

/-- Refuses a path that no system call takes. With the byte that ends it a path has at most 4096. -/
def checkPath (path : String) : Except OsFault Unit :=
  if path.toList.contains '\x00' then .error .nulInPath
  else if path.isEmpty then .error .notFound
  else if 4096 ≤ path.utf8ByteSize then .error .nameTooLong
  else .ok ()

/-- Makes the directory that the path names, with its parents. -/
def createDirectories (tree : FileTree) (path : String) : Except OsFault Unit × FileTree :=
  if path.isEmpty then (.ok (), tree)
  else
    match checkPath path with
    | .error fault => (.error fault, tree)
    | .ok () => tree.ensureDirectories (tree.startOf path) (Path.names path)

/-- Gives the file that the path names this content, making the file if needed. -/
def writeFile (tree : FileTree) (path : String) (content : ByteArray) :
    Except OsFault FileTree := do
  checkPath path
  let place ← tree.find path
  match tree.entry? place with
  | some .directory => .error .isDirectory
  | some .socket => .error .noDevice
  | some (.file _) | none => .ok (tree.put place (.file content))

/-- The text of the file that the path names. -/
def readFile (tree : FileTree) (path : String) : Except OsFault String := do
  checkPath path
  let place ← tree.find path
  match tree.entry? place with
  | none => .error .notFound
  | some .directory => .error .isDirectory
  | some .socket => .error .noDevice
  | some (.file content) =>
    if Path.endsInSlash path then .error .notDirectory
    else
      match String.fromUTF8? content with
      | some text => .ok text
      | none => .error .notUtf8

/-- Connects to the socket that the path names. A path of a socket has less than 108 bytes. Nobody
listens at a name that begins with a zero byte, which is none of the tree. -/
def connectSocket (tree : FileTree) (path : String) : Except OsFault Unit := do
  if path.toList.head? = some '\x00' then throw .connectionRefused
  if path.toList.contains '\x00' then throw .nulInSocketPath
  if 108 ≤ path.utf8ByteSize then throw .socketPathTooLong
  if path.isEmpty then throw .invalidArgument
  let place ← tree.find path
  match tree.entry? place with
  | none => throw .notFound
  | some .directory => throw .connectionRefused
  | some (.file _) => throw (if Path.endsInSlash path then .notDirectory else .connectionRefused)
  | some .socket => if Path.endsInSlash path then throw .notDirectory

end FileTree

/-- The operations on files that a monad offers. -/
class Files (m : Type → Type) where
  readFile (path : String) : m (Except OsFault String)
  createDirectories (path : String) : m (Except OsFault Unit)
  writeFile (path : String) (content : ByteArray) : m (Except OsFault Unit)

instance : Files (Action FileTree) where
  readFile path := fun tree => (.ok (tree.readFile path), tree)
  createDirectories path := fun tree =>
    let (made, tree) := tree.createDirectories path
    (.ok made, tree)
  writeFile path content := fun tree =>
    match tree.writeFile path content with
    | .ok tree => (.ok (.ok ()), tree)
    | .error fault => (.ok (.error fault), tree)

end RelProto
