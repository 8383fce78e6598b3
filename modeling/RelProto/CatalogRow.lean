import RelProto.Fault
import RelProto.Grouping
import RelProto.Table

/-! Catalog rows: one per index part and one per column pair of a foreign key. Consecutive rows of
one index or constraint make up an index or a relation. -/
namespace RelProto

structure IndexRow where
  index : String
  column : String
  unique : Bool
  primary : Bool
  deriving DecidableEq

structure ForeignKeyRow where
  constraint : String
  foreignSchema : String
  foreignTable : String
  foreignColumn : String
  localColumn : String
  ordinal : UInt32
  deriving DecidableEq

/-- What tells the foreign keys of one table apart. -/
structure RelationKey where
  foreignSchema : String
  foreignTable : String
  constraint : String
  deriving DecidableEq

instance : Text.Literal RelationKey where
  literal key :=
    let names := [key.foreignSchema, key.foreignTable, key.constraint]
    "(" ++ ", ".intercalate (names.map Text.literal) ++ ")"

def Reopened.fault {κ : Type} [Text.Literal κ] (reopened : Reopened κ) : Fault :=
  .of (.invalidCatalogOrder (Text.literal reopened.key))

namespace IndexRow

/-- The kind of an index is taken from its first row. -/
def builder (schema table : String) : GroupBuilder Id IndexRow String Index where
  keyOf row := row.index
  start row := ⟨schema, table, row.index, .ofFlags row.primary row.unique, []⟩
  append index row := { index with columns := index.columns ++ [row.column] }

end IndexRow

/-- The indexes that the rows list. -/
def indexesOf (schema table : String) (rows : List IndexRow) : Except Fault (List Index) :=
  (consecutiveGroups (IndexRow.builder schema table) rows).mapError Reopened.fault

namespace ForeignKeyRow

def key (row : ForeignKeyRow) : RelationKey := ⟨row.foreignSchema, row.foreignTable, row.constraint⟩

def keyPart (row : ForeignKeyRow) : KeyPart := ⟨row.ordinal, row.localColumn, row.foreignColumn⟩

def builder : GroupBuilder Id ForeignKeyRow RelationKey Relation where
  keyOf := key
  start row := ⟨row.constraint, row.foreignSchema, row.foreignTable, .zeroOneOrMore, []⟩
  append relation row := { relation with keys := relation.keys ++ [row.keyPart] }

end ForeignKeyRow

/-- The relations that the rows list. -/
def relationsOf (rows : List ForeignKeyRow) : Except Fault (List Relation) :=
  (consecutiveGroups ForeignKeyRow.builder rows).mapError Reopened.fault

/-- The rows that list a relation. -/
def Relation.rows (relation : Relation) : List ForeignKeyRow :=
  relation.keys.map fun part =>
    ⟨relation.name, relation.foreignSchema, relation.foreignTable, part.foreignColumn,
     part.localColumn, part.ordinal⟩

end RelProto
