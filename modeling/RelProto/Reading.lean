import RelProto.Catalog
import RelProto.Config
import RelProto.Database

/-! Reading a database: schema by schema, table by table, until something fails. -/
namespace RelProto

variable {σ : Type}

namespace Catalog

/-- The columns that are not excluded; an excluded one is logged. -/
def keepColumns (settings : GeneratorSettings) (schema table : String) :
    List Column → Action σ (List Column)
  | [] => pure []
  | column :: rest =>
    if settings.excludesColumn schema table column.name then do
      .info ("   excluding column: " ++ column.name)
      keepColumns settings schema table rest
    else (column :: ·) <$> keepColumns settings schema table rest

/-- Reads one table. A failure says what was being read or grouped, and for which table. -/
def readTable (catalog : Catalog σ) (settings : GeneratorSettings) (schema name : String) :
    Action σ Table := do
  if schema.isEmpty || name.isEmpty then
    throw (.invalidArguments ("table reference `" ++ schema ++ "." ++ name ++ "` is incomplete"))
  let about (activity : String) := activity ++ " for table " ++ schema ++ "." ++ name
  let columns ← (catalog.columns schema name).inContext (about "reading columns")
  let columns ← keepColumns settings schema name columns
  let rows ← (catalog.indexRows schema name).inContext (about "reading indexes")
  let indexes ←
    (Action.ofExcept (indexesOf schema name rows)).inContext (about "grouping indexes")
  let rows ←
    (catalog.foreignKeyRows schema name).inContext (about "reading foreign relationships")
  let relations ←
    (Action.ofExcept (relationsOf rows)).inContext (about "grouping foreign relationships")
  return ⟨schema, name, columns, indexes, relations⟩

/-- Reads the listed tables that are not excluded. -/
def readTables (catalog : Catalog σ) (settings : GeneratorSettings) (schema : String) :
    List String → Action σ (List Table)
  | [] => pure []
  | name :: rest => do
    let line := "[" ++ catalog.name ++ "] " ++ schema ++ "." ++ name
    if settings.excludesTable name then
      .info (line ++ " (excluding)")
      catalog.readTables settings schema rest
    else
      .info line
      let table ← catalog.readTable settings schema name
      return table :: (← catalog.readTables settings schema rest)

def readSchema (catalog : Catalog σ) (settings : GeneratorSettings) (name : String) :
    Action σ Schema := do
  if name.isEmpty then throw (.invalidArguments "schema name is empty")
  .info ("[" ++ catalog.name ++ "] " ++ name)
  let names ← catalog.tables name settings.excludedTables
  return ⟨name, ← catalog.readTables settings name names⟩

/-- Reads the schemas in order. A failure says which schema was being read. -/
def readSchemas (catalog : Catalog σ) (settings : GeneratorSettings) :
    List String → Action σ (List Schema)
  | [] => pure []
  | name :: rest => do
    let schema ← (catalog.readSchema settings name).inContext
      ("[" ++ catalog.name ++ "] failed reading schema " ++ name)
    return schema :: (← catalog.readSchemas settings rest)

/-- Reads every configured schema; at least one has to be configured. -/
def readDatabase (catalog : Catalog σ) (settings : GeneratorSettings) : Action σ Database := do
  if settings.schemas.isEmpty then throw (.invalidArguments "no schema names configured")
  return ⟨catalog.name, ← catalog.readSchemas settings settings.schemas⟩

end Catalog

end RelProto
