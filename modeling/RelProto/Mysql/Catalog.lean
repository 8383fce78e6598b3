import RelProto.Mysql.Answer
import RelProto.Server.Client

/-! The catalog of a MySQL server. -/
namespace RelProto.Mysql

def catalogName : String := "mysql"

def tablesText : String := "SELECT TABLE_NAME
FROM information_schema.TABLES
WHERE TABLE_TYPE = 'BASE TABLE'
    AND TABLE_SCHEMA = ?
ORDER BY TABLE_NAME"

def columnsText : String := "SELECT
    COLUMN_NAME,
    ORDINAL_POSITION,
    LOWER(DATA_TYPE),
    COLUMN_DEFAULT,
    IS_NULLABLE = 'YES',
    COLUMN_KEY = 'PRI',
    EXTRA LIKE '%auto_increment%'
FROM information_schema.COLUMNS
WHERE TABLE_SCHEMA = ?
    AND TABLE_NAME = ?
ORDER BY ORDINAL_POSITION"

def indexesText : String := "SELECT
    INDEX_NAME,
    COLUMN_NAME,
    NON_UNIQUE = 0,
    INDEX_NAME = 'PRIMARY'
FROM information_schema.STATISTICS
WHERE TABLE_SCHEMA = ?
    AND TABLE_NAME = ?
ORDER BY INDEX_NAME, SEQ_IN_INDEX"

def foreignKeysText : String := "SELECT
    CONSTRAINT_NAME,
    REFERENCED_TABLE_SCHEMA,
    REFERENCED_TABLE_NAME,
    REFERENCED_COLUMN_NAME,
    COLUMN_NAME,
    ORDINAL_POSITION
FROM information_schema.KEY_COLUMN_USAGE
WHERE TABLE_SCHEMA = ?
    AND TABLE_NAME = ?
    AND REFERENCED_TABLE_NAME IS NOT NULL
ORDER BY REFERENCED_TABLE_SCHEMA, REFERENCED_TABLE_NAME, CONSTRAINT_NAME, ORDINAL_POSITION"

def statementText : CatalogQuery → String
  | .tables _ => tablesText
  | .columns _ _ => columnsText
  | .indexRows _ _ => indexesText
  | .foreignKeyRows _ _ => foreignKeysText

def columnOf (schema table : String) (row : Row) : Except DecodeFault Column := do
  let type ← row.text 2
  return { schema, table, dataType := type, nativeType := type, name := ← row.text 0,
           ordinal := ← row.word 1, default := ← row.optionalText 3, nullable := ← row.flag 4,
           primaryKey := ← row.flag 5, sequence := ← row.flag 6 }

def foreignKeyRowOf (row : Row) : Except DecodeFault ForeignKeyRow := do
  return ⟨← row.text 0, ← row.text 1, ← row.text 2, ← row.text 3, ← row.text 4, ← row.word 5⟩

/-- Decodes a part of an index. If it has no column it is an expression, which is logged; its flags
do not matter then. -/
def indexRowOf (row : Row) : Logged Fault (Option IndexRow) := do
  let index ← decoded (row.text 0)
  match ← decoded (row.optionalText 1) with
  | none => do
    .write .debug ("skipping expression key part of index " ++ index)
    return none
  | some column => return some ⟨index, column, ← decoded (row.flag 2), ← decoded (row.flag 3)⟩
where
  decoded {α : Type} (x : Except DecodeFault α) : Logged Fault α :=
    .ofExcept (x.mapError DecodeFault.fault)

variable {σ : Type}

def answer (client : Client Failure (List Row) σ) (query : CatalogQuery) :
    Action (Session σ) (List Row) :=
  client.answer ⟨statementText query, query, []⟩

/-- The decoded rows that answer a query. -/
def select {α : Type} (client : Client Failure (List Row) σ) (query : CatalogQuery)
    (decode : Row → Except DecodeFault α) : Action (Session σ) (List α) := do
  let rows ← answer client query
  Action.ofExcept ((rows.mapM decode).mapError DecodeFault.fault)

/-- The excluded tables are left out here, not by the server. -/
def catalog (client : Client Failure (List Row) σ) : Catalog (Session σ) where
  name := catalogName
  tables schema excluded := do
    let names ← select client (.tables schema) (·.text 0)
    return names.filter (!excluded.contains ·)
  columns schema table := select client (.columns schema table) (columnOf schema table)
  indexRows schema table := do
    let rows ← answer client (.indexRows schema table)
    return (← (rows.mapM indexRowOf : Logged Fault _)).filterMap id
  foreignKeyRows schema table := select client (.foreignKeyRows schema table) foreignKeyRowOf

end RelProto.Mysql
