import RelProto.Catalog
import RelProto.Sqlite.Query
import RelProto.Text.Basic
import RelProto.Text.Lowercase

/-! The catalog of a SQLite database. Primary keys that have no index of their own get one, and
foreign keys, which have no names, are numbered. -/
namespace RelProto.Sqlite

def catalogName : String := "sqlite"

/-- A column as its row describes it; nothing assigns its value. -/
def columnOf (schema table : String) (cells : Cells) : Except DecodeFault Column := do
  let type := Text.lower (← cells.text 2)
  let name ← cells.text 0
  let ordinal ← cells.word 1
  let default ← cells.optionalText 3
  let notNull ← cells.flag 4
  let primaryKey ← cells.word 5
  return { schema, table, name, ordinal, dataType := type, nativeType := type, default,
           nullable := !notNull, sequence := false, primaryKey := 0 < primaryKey }

/-- A part of an index, which has no column if it is an expression. -/
structure IndexPart where
  index : String
  column : Option String
  unique : Bool
  primary : Bool

def indexPartOf (cells : Cells) : Except DecodeFault IndexPart := do
  return ⟨← cells.text 0, ← cells.optionalText 1, ← cells.flag 2, ← cells.flag 3⟩

/-- A referenced column without a name is called like the column that refers to it. -/
def foreignKeyOf (schema table : String) (cells : Cells) : Except DecodeFault ForeignKeyRow := do
  let id ← cells.integer 0
  let localColumn ← cells.text 3
  let foreignTable ← cells.text 1
  let foreignColumn ← cells.optionalText 2
  let ordinal ← cells.word 4
  return ⟨table ++ "_fk" ++ toString id.toInt, schema, foreignTable,
    foreignColumn.getD localColumn, localColumn, ordinal⟩

/-- Whether a column is the primary key on its own and may stand for the row's number. -/
def isSoleIntegerKey (columns : List Column) (column : Column) : Bool :=
  column.primaryKey && column.nativeType == "integer" &&
    (columns.filter (·.primaryKey)).length == 1

/-- The part of an index, unless it is an expression; that is logged. -/
def IndexPart.row (part : IndexPart) : Logged Fault (Option IndexRow) :=
  match part.column with
  | some column => return some ⟨part.index, column, part.unique, part.primary⟩
  | none => do
    .write .debug ("skipping expression key part of index " ++ part.index)
    return none

namespace Connection

def tables (connection : Connection) (schema : String) (excluded : List String) :
    Except Fault (List String) := do
  let names ← connection.select (.tables schema) (·.text 0)
  return names.filter (!excluded.contains ·)

def isWithoutRowid (connection : Connection) (schema table : String) : Except Fault Bool :=
  (connection.selectFirst (.withoutRowid schema table) (·.flag 0)).mapError fun foreign =>
    .of (.queryFailure foreign)

/-- The columns of a table. A sole integer key of a table with row numbers is the row number, which
SQLite assigns. -/
def columns (connection : Connection) (schema table : String) : Except Fault (List Column) := do
  let columns ← connection.select (.columns schema table) (columnOf schema table)
  if columns.any (isSoleIntegerKey columns) then
    let numbered := !(← connection.isWithoutRowid schema table)
    return columns.map fun column =>
      { column with sequence := numbered && isSoleIntegerKey columns column }
  else return columns

/-- The parts of an index over the primary key, which has none in the database. -/
def keyRows (index : String) (columns : List Column) : List IndexRow :=
  (columns.filter (·.primaryKey)).map fun column => ⟨index, column.name, true, true⟩

/-- The parts of the indexes. Without a primary one the primary key is listed as the last index. -/
def indexRows (connection : Connection) (schema table : String) :
    Logged Fault (List IndexRow) := do
  let parts ← .ofExcept (connection.select (.indexes schema table) indexPartOf)
  let rows := (← parts.mapM IndexPart.row).filterMap id
  if rows.any (·.primary) then return rows
  else
    let name := Text.freshName (table ++ "_pkey") (rows.map (·.index))
    return rows ++ keyRows name (← .ofExcept (connection.columns schema table))

def foreignKeyRows (connection : Connection) (schema table : String) :
    Except Fault (List ForeignKeyRow) :=
  connection.select (.foreignKeys schema table) (foreignKeyOf schema table)

/-- The catalog does not change with what is asked of it. -/
def catalog {σ : Type} (connection : Connection) : Catalog σ where
  name := catalogName
  tables schema excluded := .ofExcept (connection.tables schema excluded)
  columns schema table := .ofExcept (connection.columns schema table)
  indexRows schema table := connection.indexRows schema table
  foreignKeyRows schema table := .ofExcept (connection.foreignKeyRows schema table)

end Connection

end RelProto.Sqlite
