import RelProto.Sqlite.Connect
import RelProto.Sqlite.FileName
import RelProto.Sqlite.Pragma

/-! A SQLite that opens the files of a tree, whatever the format of their contents. A missing file is
made, and empty. -/
namespace RelProto.Sqlite

/-- What a file holds, by its bytes. -/
abbrev Format : Type := ByteArray → Connection

/-- The failure to open the database of this name. -/
def cannotOpen (name : String) : Foreign :=
  .chain ("unable to open database file: " ++ name)
    ["Error code 14: Unable to open the database file"]

/-- The failure to read from what has been opened. -/
def unreadable : Foreign :=
  .chain "disk I/O error" ["Error code 10: Some kind of disk I/O error occurred"]

/-- Whether a place cannot even be looked at. A missing directory on the way does no harm. -/
def isBarred (tree : FileTree) (place : Place) : Bool :=
  match tree.locate [] place with
  | .ok _ => false
  | .error fault => fault ≠ .notFound

/-- Follows the names of a path. Two dots lead back even from a directory that does not exist. -/
def resolve? (tree : FileTree) (place : Place) : List String → Option Place
  | [] => some place
  | name :: rest =>
    if name = "." then resolve? tree place rest
    else if name = ".." then resolve? tree place.dropLast rest
    else if isBarred tree (place ++ [name]) then none
    else resolve? tree (place ++ [name]) rest

/-- The length of the path that leads from the root to a place. -/
def pathLength (place : Place) : Nat := place.foldl (fun n name => n + name.utf8ByteSize + 1) 0

/-- The longest path of a database. -/
def longestPath : Nat := 504

/-- Opens the file at a place. A missing one is empty, and made if that is allowed. A directory can
be opened for reading, though nothing can be read from it. -/
def openAt (tree : FileTree) (access : Access) (name : String) (place : Place) :
    Except Foreign (ByteArray × FileTree) :=
  if longestPath < pathLength place then .error (cannotOpen name)
  else
    match tree.entry? place with
    | some (.file content) => .ok (content, tree)
    | some .directory => .error (if access = .readOnly then unreadable else cannotOpen name)
    | some .socket => .error (cannotOpen name)
    | none =>
      if access = .create && tree.isDirectoryAt place.dropLast then
        .ok (.empty, tree.put place (.file .empty))
      else .error (cannotOpen name)

/-- Opens the database of a name, which may be in memory all the same. -/
def Format.openNamed (format : Format) (name : String) (tree : FileTree) :
    Except Foreign Connection × FileTree :=
  match Location.ofName name with
  | .error fault => (.error fault.toForeign, tree)
  | .ok .memory => (.ok (format .empty), tree)
  | .ok (.file path access) =>
    match resolve? tree (tree.startOf path) (Path.names path) with
    | none => (.error (cannotOpen name), tree)
    | some place =>
      match openAt tree access name place with
      | .ok (content, tree) => (.ok (format content), tree)
      | .error foreign => (.error foreign, tree)

def Engine.ofFormat (format : Format) : Engine where
  openMemory := .ok (format .empty)
  openNamed := format.openNamed

/-- A SQLite that reaches no file. -/
def Engine.withoutFiles : Engine where
  openMemory := .ok Pragmas.empty.connection
  openNamed name tree := (.error (cannotOpen name), tree)

end RelProto.Sqlite
