/-! Tables with their columns, indexes and foreign relations. -/
namespace RelProto

/-- A column as the catalog of its database describes it. `nativeType` decides how the column is
mapped; `dataType` is the catalog's own classification. -/
structure Column where
  schema : String
  table : String
  name : String
  ordinal : UInt32
  dataType : String
  nativeType : String
  default : Option String
  nullable : Bool
  sequence : Bool
  primaryKey : Bool
  deriving DecidableEq

namespace Column

/-- A record may leave the column out; the server assigns the value of a sequence. -/
def isOptional (column : Column) : Bool := column.nullable || column.sequence

def isArray (column : Column) : Bool :=
  column.dataType == "ARRAY" || "[]".toList.isSuffixOf column.nativeType.toList

def qualifiedName (column : Column) : String :=
  column.schema ++ "." ++ column.table ++ "." ++ column.name

end Column

inductive IndexKind where
  | primaryKey
  | unique
  | nonUnique
  deriving DecidableEq

/-- The flag for the primary key beats the one for uniqueness. -/
def IndexKind.ofFlags (primary unique : Bool) : IndexKind :=
  if primary then .primaryKey else if unique then .unique else .nonUnique

structure Index where
  schema : String
  table : String
  name : String
  kind : IndexKind
  columns : List String
  deriving DecidableEq

namespace Index

def isPrimaryKey (index : Index) : Bool := index.kind == .primaryKey

def isUnique (index : Index) : Bool := index.kind != .nonUnique

end Index

/-- One column pair of a foreign key. -/
structure KeyPart where
  ordinal : UInt32
  localColumn : String
  foreignColumn : String
  deriving DecidableEq

inductive Multiplicity where
  | zeroOneOrMore
  | manyToMany
  deriving DecidableEq

/-- A foreign key constraint: its key parts refer to one foreign table. -/
structure Relation where
  name : String
  foreignSchema : String
  foreignTable : String
  multiplicity : Multiplicity
  keys : List KeyPart
  deriving DecidableEq

namespace Relation

/-- The key part that stands for the whole key: the first one of lowest ordinal. -/
def representative (relation : Relation) : Option KeyPart := relation.keys.minOn? (·.ordinal)

def localColumns (relation : Relation) : List String := relation.keys.map (·.localColumn)

def hasLocalColumn (relation : Relation) (name : String) : Bool :=
  relation.keys.any (·.localColumn == name)

def foreignName (relation : Relation) : String :=
  relation.foreignSchema ++ "." ++ relation.foreignTable

end Relation

structure Table where
  schema : String
  name : String
  columns : List Column
  indexes : List Index
  relations : List Relation
  deriving DecidableEq

namespace Table

def column? (table : Table) (name : String) : Option Column :=
  table.columns.find? (·.name == name)

def primaryKey? (table : Table) : Option Index := table.indexes.find? Index.isPrimaryKey

def primaryKeyColumns (table : Table) : List Column := table.columns.filter (·.primaryKey)

def qualifiedName (table : Table) : String := table.schema ++ "." ++ table.name

end Table

end RelProto
