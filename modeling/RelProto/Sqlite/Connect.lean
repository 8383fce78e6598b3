import RelProto.Config
import RelProto.FileTree
import RelProto.Sqlite.Catalog

/-! Connecting to a SQLite database. What a name stands for, and what its file holds, only SQLite
knows. -/
namespace RelProto.Sqlite

/-- SQLite: how it opens a database in memory, and the database of a name, which may make a file. -/
structure Engine where
  openMemory : Except Foreign Connection
  openNamed : String → FileTree → Except Foreign Connection × FileTree

/-- Opens the database of this name; one name is that of a database in memory. -/
def Engine.openDatabase (engine : Engine) (name : String) : Action FileTree Connection := fun tree =>
  let (opened, tree) :=
    if name = ":memory:" then (engine.openMemory, tree) else engine.openNamed name tree
  (.ofExcept (opened.mapError fun foreign => .of (.connectionFailure foreign)), tree)

/-- Asks for a one, which every connection that works answers. -/
def Connection.ping (connection : Connection) : Except Fault Int64 :=
  (connection.selectFirst .one (·.integer 0)).mapError fun foreign =>
    .of (.connectionFailure foreign)

/-- Opens the configured database. -/
def connect (engine : Engine) (settings : DatabaseSettings) : Action FileTree Connection := do
  .info ("Connecting to sqlite://" ++ settings.database)
  let connection ← engine.openDatabase settings.database
  let _ ← Action.ofExcept connection.ping
  return connection

end RelProto.Sqlite
