/-! The configuration of a run: where the database is, where files go, how they look and what is
read. -/
namespace RelProto

inductive DatabaseKind where
  | postgresql
  | mysql
  | sqlite
  deriving DecidableEq

namespace DatabaseKind

def name : DatabaseKind → String
  | postgresql => "postgresql"
  | mysql => "mysql"
  | sqlite => "sqlite"

/-- Reads a name or an alias. -/
def ofName? (name : String) : Option DatabaseKind :=
  if name = "postgresql" || name = "postgres" then some postgresql
  else if name = "mysql" || name = "mariadb" then some mysql
  else if name = "sqlite" then some sqlite
  else none

@[simp] theorem ofName?_name (kind : DatabaseKind) : ofName? kind.name = some kind := by
  cases kind <;> decide

/-- The port on which a server of this kind listens unless told otherwise. -/
def defaultPort? : DatabaseKind → Option UInt16
  | postgresql => some 5432
  | mysql => some 3306
  | sqlite => none

end DatabaseKind

structure DatabaseSettings where
  provider : Option DatabaseKind := none
  host : String := ""
  port : Option UInt16 := none
  database : String := ""
  user : String := ""
  password : String := ""
  deriving DecidableEq

namespace DatabaseSettings

/-- The configured port, or else the default one; without a provider there is none. -/
def effectivePort (settings : DatabaseSettings) : Option UInt16 :=
  settings.provider.bind fun provider => settings.port <|> provider.defaultPort?

/-- The connection target, without the password. -/
def target (settings : DatabaseSettings) : String :=
  match settings.provider with
  | none | some .sqlite => settings.database
  | some provider =>
    let host :=
      match settings.effectivePort with
      | some port => settings.host ++ ":" ++ toString port.toNat
      | none => settings.host
    provider.name ++ "://" ++ settings.user ++ "@" ++ host ++ "/" ++ settings.database

end DatabaseSettings

/-- `suffix` and `language` are accepted but have no effect. -/
structure OutputSettings where
  path : String := ""
  suffix : String := ""
  language : String := ""
  deriving DecidableEq

inductive ProtoVersion where
  | proto2
  | proto3
  deriving DecidableEq

namespace ProtoVersion

def name : ProtoVersion → String
  | proto2 => "proto2"
  | proto3 => "proto3"

def ofName? (name : String) : Option ProtoVersion :=
  if name = "proto2" then some proto2 else if name = "proto3" then some proto3 else none

@[simp] theorem ofName?_name (version : ProtoVersion) : ofName? version.name = some version := by
  cases version <;> decide

/-- Whether every field that is not repeated carries a label. -/
def requiresLabel (version : ProtoVersion) : Bool := version == proto2

end ProtoVersion

structure ProtoSettings where
  path : String := "proto"
  javaPackage : String := ""
  objcPrefix : String := ""
  version : ProtoVersion := .proto3
  deriving DecidableEq

/-- Columns left out of the table with this qualified name. -/
structure ExcludedColumns where
  table : String
  columns : List String
  deriving DecidableEq

/-- Whether the entry is for the table `name` of `schema`: its text is the schema, a dot and the
name. -/
def ExcludedColumns.isFor (entry : ExcludedColumns) (schema name : String) : Bool :=
  match List.isPrefixOf? schema.toList entry.table.toList with
  | some ('.' :: rest) => rest == name.toList
  | _ => false

structure GeneratorSettings where
  schemas : List String := []
  excludedTables : List String := []
  excludedColumns : List ExcludedColumns := []
  embedRelationships : Bool := false
  deriving DecidableEq

namespace GeneratorSettings

def excludesTable (settings : GeneratorSettings) (name : String) : Bool :=
  settings.excludedTables.contains name

def excludesColumn (settings : GeneratorSettings) (schema table column : String) : Bool :=
  settings.excludedColumns.any fun entry =>
    entry.isFor schema table && entry.columns.contains column

end GeneratorSettings

structure Config where
  database : DatabaseSettings := {}
  output : OutputSettings := {}
  proto : ProtoSettings := {}
  generator : GeneratorSettings := {}
  deriving DecidableEq

end RelProto
