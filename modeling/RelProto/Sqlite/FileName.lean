import RelProto.Fault
import RelProto.Text.Bytes

/-! Names of databases. A name is the path of a file, or a URI that begins with `file:` and may say
how the file is opened. -/
namespace RelProto.Sqlite

/-- How a file is opened; only `create` makes a missing one. -/
inductive Access where
  | readOnly
  | readWrite
  | create
  deriving DecidableEq

/-- Whether an access allows no more than another one. -/
def Access.within : Access → Access → Bool
  | readOnly, _ | _, create | readWrite, readWrite => true
  | _, _ => false

/-- What an option says about the access: the database is in memory, or in a file. -/
inductive AccessMode where
  | memory
  | file (access : Access)
  deriving DecidableEq

namespace AccessMode

def ofName? : String → Option AccessMode
  | "ro" => some (file .readOnly)
  | "rw" => some (file .readWrite)
  | "rwc" => some (file .create)
  | "memory" => some memory
  | _ => none

/-- Whether the mode may be replaced by another one. From a file that may be less is allowed, and
memory at any time. -/
def admits : AccessMode → AccessMode → Bool
  | _, memory | memory, _ => true
  | file held, file access => access.within held

end AccessMode

/-- Where a database is kept. -/
inductive Location where
  | memory
  | file (path : String) (access : Access)
  deriving DecidableEq

/-- Why a name is refused. -/
inductive NameFault where
  | zeroByte (position : Nat)
  | authority (name : String)
  | cacheMode (value : String)
  | accessMode (value : String)
  | accessDenied (value : String)
  | fileSystem (name : String)
  deriving DecidableEq

def NameFault.toForeign : NameFault → Foreign
  | zeroByte position =>
    let message := "nul byte found in provided data at position: " ++ toString position
    .chain message [message]
  | authority name => wrong ("invalid uri authority: " ++ name)
  | cacheMode value => wrong ("no such cache mode: " ++ value)
  | accessMode value => wrong ("no such access mode: " ++ value)
  | accessDenied value =>
    .chain ("access mode not allowed: " ++ value) ["Error code 3: Access permission denied"]
  | fileSystem name => wrong ("no such vfs: " ++ name)
where
  wrong (message : String) : Foreign :=
    .chain message ["Error code 1: SQL error or missing database"]

namespace Uri

/-- Cuts bytes in front of the first one of this value. -/
def cutBefore (stop : UInt8) (bytes : List UInt8) : List UInt8 × List UInt8 :=
  (bytes.takeWhile (· != stop), bytes.dropWhile (· != stop))

/-- The text of a part of a URI, which ends at an escaped zero byte. -/
def part (bytes : List UInt8) : String :=
  Text.textOfBytes ((Text.unescapeBytes bytes).takeWhile (· != 0))

/-- What follows the authority, which may only name this machine. -/
def afterAuthority (bytes : List UInt8) : Except NameFault (List UInt8) :=
  match bytes with
  | 0x2f :: 0x2f :: rest =>
    let (authority, path) := cutBefore 0x2f rest
    if authority.isEmpty || authority == "localhost".toUTF8.toList then .ok path
    else .error (.authority (Text.textOfBytes authority))
  | bytes => .ok bytes

/-- The pieces between ampersands. -/
def pieces (bytes : List UInt8) : List (List UInt8) :=
  match _h : cutBefore 0x26 bytes with
  | (piece, []) => [piece]
  | (piece, _ :: rest) => piece :: pieces rest
  termination_by bytes.length
  decreasing_by
    have := (List.dropWhile_suffix (l := bytes) (· != 0x26)).length_le
    simp only [cutBefore, Prod.mk.injEq] at _h
    simp only [_h.2, List.length_cons] at this
    omega

/-- The options in the order in which they are written. One without a name is passed over. -/
def options (query : List UInt8) : List (String × String) :=
  ((pieces query).map option).filter (!·.1.isEmpty)
where
  option (piece : List UInt8) : String × String :=
    let (name, value) := cutBefore 0x3d piece
    (part name, part (value.drop 1))

/-- What the options say. -/
structure Settings where
  mode : AccessMode := .file .create
  fileSystem : String := "unix"

/-- Sets an option. Those of other names have no effect on an empty database. -/
def Settings.set (settings : Settings) : String × String → Except NameFault Settings
  | ("vfs", value) => .ok { settings with fileSystem := value }
  | ("cache", value) =>
    if ["shared", "private"].contains value then .ok settings else .error (.cacheMode value)
  | ("mode", value) =>
    match AccessMode.ofName? value with
    | none => .error (.accessMode value)
    | some mode =>
      if settings.mode.admits mode then .ok { settings with mode }
      else .error (.accessDenied value)
  | _ => .ok settings

/-- The file systems that have files on disk. -/
def diskFileSystems : List String := ["unix", "unix-none", "unix-dotfile", "unix-excl"]

def Settings.location (settings : Settings) (path : String) : Except NameFault Location :=
  if settings.fileSystem = "memdb" then .ok .memory
  else if diskFileSystems.contains settings.fileSystem then
    match settings.mode with
    | .memory => .ok .memory
    | .file access => .ok (if path.isEmpty || path = ":memory:" then .memory else .file path access)
  else .error (.fileSystem settings.fileSystem)

/-- Reads what follows the scheme. A number sign ends it. -/
def location (bytes : List UInt8) : Except NameFault Location := do
  let rest ← afterAuthority bytes
  let (path, query) := cutBefore 0x3f (cutBefore 0x23 rest).1
  let settings ← (options (query.drop 1)).foldlM Settings.set {}
  settings.location (part path)

end Uri

/-- The location that a name stands for. A nameless database is temporary. -/
def Location.ofName (name : String) : Except NameFault Location :=
  let bytes := name.toUTF8.toList
  match bytes.idxOf? 0, List.isPrefixOf? "file:".toUTF8.toList bytes with
  | some position, _ => .error (.zeroByte position)
  | none, some rest => Uri.location rest
  | none, none =>
    .ok (if name.isEmpty || name = ":memory:" then .memory else .file name .create)

example :
    (Location.ofName "file:a%2fb?mode=ro#c").toOption = some (.file "a/b" .readOnly) ∧
    (Location.ofName "file:a?mode=memory&mode=rw").toOption = some (.file "a" .readWrite) ∧
    (Location.ofName "file:a?mode=ro&mode=rw").toOption = none ∧
    (Location.ofName "file://x/a").toOption = none := by decide +kernel

end RelProto.Sqlite
