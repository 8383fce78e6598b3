import RelProto.Mysql.Connect
import RelProto.Postgresql.Connect
import RelProto.Sqlite.Connect

/-! Connecting to the database that a configuration names, whatever its kind. -/
namespace RelProto

/-- The servers within a world of type `σ`, SQLite, and the name of the user who connects to them. -/
structure Servers (σ : Type) where
  postgresql : Server Postgresql.Failure Postgresql.Rows σ
  mysql : Server Mysql.Failure (List Mysql.Row) σ
  sqlite : Sqlite.Engine
  currentUser : String

/-- Files, and a session with the servers. -/
abbrev Outside (σ : Type) : Type := FileTree × Session σ

variable {σ : Type}

def Servers.connect (servers : Servers σ) (settings : DatabaseSettings) :
    Action (Outside σ) (Catalog (Outside σ)) := do
  match settings.provider with
  | some .postgresql =>
    let catalog ← (Postgresql.connect servers.postgresql servers.currentUser settings).onSecond
    return catalog.onSecond
  | some .mysql =>
    let catalog ← (Mysql.connect servers.mysql settings).onSecond
    return catalog.onSecond
  | some .sqlite =>
    let connection ← (Sqlite.connect servers.sqlite settings).onFirst
    return connection.catalog
  | none => throw (.of (.adhoc "database.provider is required"))

/-- Reaches an endpoint: a socket of the file tree, or a port for which `listens` holds. -/
def Endpoint.reach (sockets : FileTree) (listens : String → UInt16 → Bool) :
    Endpoint → Except OsFault Unit
  | .socket path => sockets.connectSocket path
  | .port host number =>
    if host.toList.contains '\x00' then .error .nulInPath
    else if listens host number then .ok ()
    else .error .connectionRefused

/-- A server that nobody reaches. What would be said to it fails in the same way. -/
def Server.unreachable {Failure Answer : Type} (failure : OsFault → Failure) :
    Server Failure Answer σ where
  reach endpoint :=
    match endpoint.reach .empty (fun _ _ => false) with
    | .ok () => return
    | .error fault => throw (failure fault)
  encrypts := throw (failure .notFound)
  greet _ := throw (failure .notFound)
  takePassword _ := throw (failure .notFound)
  ask _ := throw (failure .notFound)
  answer _ := throw (failure .notFound)

/-- Nobody listens anywhere. -/
def Servers.unreachable (sqlite : Sqlite.Engine) (currentUser : String) : Servers σ :=
  ⟨.unreachable .unreachable, .unreachable .unreachable, sqlite, currentUser⟩

end RelProto
