import RelProto.Table

/-! Everything that was read from one database. -/
namespace RelProto

structure Schema where
  name : String
  tables : List Table
  deriving DecidableEq

def Schema.table? (schema : Schema) (name : String) : Option Table :=
  schema.tables.find? (·.name == name)

/-- The schemas read through one provider, in the order in which they were asked for. -/
structure Database where
  provider : String
  schemas : List Schema
  deriving DecidableEq

namespace Database

def schema? (database : Database) (name : String) : Option Schema :=
  database.schemas.find? (·.name == name)

def table? (database : Database) (schema name : String) : Option Table :=
  (database.schema? schema).bind (·.table? name)

def tables (database : Database) : List Table := database.schemas.flatMap (·.tables)

end Database

end RelProto
