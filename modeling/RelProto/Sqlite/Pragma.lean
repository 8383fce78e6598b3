import RelProto.Sqlite.Query

/-! What SQLite knows of its tables, and how the queries are answered from it. -/
namespace RelProto.Sqlite

structure TableListRow where
  schema : Value
  name : Value
  type : Value
  withoutRowid : Value

/-- A column of the table `arg` in `schema`. -/
structure TableInfoRow where
  arg : Value
  schema : Value
  id : Value
  name : Value
  type : Value
  notNull : Value
  default : Value
  primaryKey : Value

/-- An index of the table `arg` in `schema`. -/
structure IndexListRow where
  arg : Value
  schema : Value
  name : Value
  unique : Value
  origin : Value

/-- A part of the index `arg` in `schema`. -/
structure IndexInfoRow where
  arg : Value
  schema : Value
  sequence : Value
  name : Value

/-- A part of a foreign key of the table `arg` in `schema`. -/
structure ForeignKeyListRow where
  arg : Value
  schema : Value
  id : Value
  sequence : Value
  table : Value
  source : Value
  target : Value

structure Pragmas where
  tableList : List TableListRow
  tableInfo : List TableInfoRow
  indexList : List IndexListRow
  indexInfo : List IndexInfoRow
  foreignKeyList : List ForeignKeyListRow

/-- Sorts by values, the first of which counts most. Rows that agree in all of them keep their
order. -/
def sortedOn {α : Type} (keys : α → List Value) (rows : List α) : List α :=
  rows.mergeSort fun a b => (order (keys a) (keys b)).isLE
where
  order : List Value → List Value → Ordering
    | v :: vs, w :: ws => (v.order w).then (order vs ws)
    | _, _ => .eq

namespace Pragmas

/-- An empty database. -/
def empty : Pragmas := ⟨[], [], [], [], []⟩

/-- The columns of a table. -/
def columnsOf (pragmas : Pragmas) (schema table : Value) : List TableInfoRow :=
  pragmas.tableInfo.filter fun row => row.arg.equals table && row.schema.equals schema

def tableRows (pragmas : Pragmas) (schema : Value) : List Row :=
  let rows := pragmas.tableList.filter fun row =>
    row.schema.equals schema && row.type.equals (.text "table") && row.name.isUnreserved
  (sortedOn (fun row => [row.name]) rows).map fun row => [row.name]

def withoutRowidRows (pragmas : Pragmas) (schema table : Value) : List Row :=
  (pragmas.tableList.filter fun row => row.schema.equals schema && row.name.equals table).map
    fun row => [row.withoutRowid]

def columnRows (pragmas : Pragmas) (schema table : Value) : List Row :=
  (sortedOn (fun row => [row.id]) (pragmas.columnsOf schema table)).map fun row =>
    [row.name, row.id.plusOne, row.type, row.default, row.notNull, row.primaryKey]

/-- An index with each of its parts. -/
def indexRows (pragmas : Pragmas) (schema table : Value) : List Row :=
  let indexes := pragmas.indexList.filter fun row =>
    row.arg.equals table && row.schema.equals schema
  let parts (index : IndexListRow) := pragmas.indexInfo.filter fun row =>
    row.arg.equals index.name && row.schema.equals schema
  let pairs := indexes.flatMap fun index => (parts index).map (index, ·)
  (sortedOn (fun (index, part) => [index.name, part.sequence]) pairs).map fun (index, part) =>
    [index.name, part.name, index.unique, .ofTruth? (index.origin.equals? (.text "pk"))]

/-- The column that a part of a foreign key refers to: the column that it names, else the column of
the referenced table with the same place in the primary key. -/
def referencedColumn (pragmas : Pragmas) (schema : Value) (part : ForeignKeyListRow) : Value :=
  match part.target with
  | .null =>
    let keys := (pragmas.columnsOf schema part.table).filter
      (·.primaryKey.equals part.sequence.plusOne)
    (keys.head?.map (·.name)).getD .null
  | target => target

def foreignKeyRows (pragmas : Pragmas) (schema table : Value) : List Row :=
  let parts := pragmas.foreignKeyList.filter fun row =>
    row.arg.equals table && row.schema.equals schema
  (sortedOn (fun row => [row.table, row.id, row.sequence]) parts).map fun row =>
    [row.id, row.table, pragmas.referencedColumn schema row, row.source, row.sequence.plusOne]

def rows (pragmas : Pragmas) : Query → List Row
  | .one => [[.integer 1]]
  | .tables schema => pragmas.tableRows (.text schema)
  | .withoutRowid schema table => pragmas.withoutRowidRows (.text schema) (.text table)
  | .columns schema table => pragmas.columnRows (.text schema) (.text table)
  | .indexes schema table => pragmas.indexRows (.text schema) (.text table)
  | .foreignKeys schema table => pragmas.foreignKeyRows (.text schema) (.text table)

def connection (pragmas : Pragmas) : Connection := ⟨fun query => .ok (pragmas.rows query)⟩

end Pragmas

end RelProto.Sqlite
