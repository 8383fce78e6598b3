import RelProto.Action
import RelProto.CatalogRow

/-! The questions that reading a database puts to its catalog. -/
namespace RelProto

/-- What a catalog is asked for, without the exclusions that only spare it work. -/
inductive CatalogQuery where
  | tables (schema : String)
  | columns (schema table : String)
  | indexRows (schema table : String)
  | foreignKeyRows (schema table : String)
  deriving DecidableEq

namespace CatalogQuery

def name : CatalogQuery → String
  | tables _ => "tables"
  | columns _ _ => "columns"
  | indexRows _ _ => "index_rows"
  | foreignKeyRows _ _ => "foreign_key_rows"

/-- The schema, or the table with its schema, that the query is about. -/
def subject : CatalogQuery → String
  | tables schema => schema
  | columns schema table | indexRows schema table | foreignKeyRows schema table =>
    schema ++ "." ++ table

def text (query : CatalogQuery) : String := query.name ++ " " ++ query.subject

end CatalogQuery

/-- A catalog that is asked within a world of type `σ`. It lists the base tables of a schema by
name, columns by ordinal, and the rows of one index or constraint one after the other. It may leave
out excluded tables, but does not have to. -/
structure Catalog (σ : Type) where
  name : String
  tables (schema : String) (excluded : List String) : Action σ (List String)
  columns (schema table : String) : Action σ (List Column)
  indexRows (schema table : String) : Action σ (List IndexRow)
  foreignKeyRows (schema table : String) : Action σ (List ForeignKeyRow)

/-- An action of a world that is the first part of a larger one. -/
def Action.onFirst {σ τ α : Type} (action : Action σ α) : Action (σ × τ) α := fun (world, outer) =>
  let (outcome, world) := action world
  (outcome, world, outer)

/-- An action of a world that is the second part of a larger one. -/
def Action.onSecond {τ σ α : Type} (action : Action σ α) : Action (τ × σ) α := fun (outer, world) =>
  let (outcome, world) := action world
  (outcome, outer, world)

/-- A catalog of a world that is the second part of a larger one. -/
def Catalog.onSecond {τ σ : Type} (catalog : Catalog σ) : Catalog (τ × σ) where
  name := catalog.name
  tables schema excluded := (catalog.tables schema excluded).onSecond
  columns schema table := (catalog.columns schema table).onSecond
  indexRows schema table := (catalog.indexRows schema table).onSecond
  foreignKeyRows schema table := (catalog.foreignKeyRows schema table).onSecond

/-- Notes every query before the catalog answers it. -/
def Catalog.recorded {σ : Type} (catalog : Catalog σ) : Catalog (List CatalogQuery × σ) where
  name := catalog.name
  tables schema excluded := noting (.tables schema) (catalog.tables schema excluded)
  columns schema table := noting (.columns schema table) (catalog.columns schema table)
  indexRows schema table := noting (.indexRows schema table) (catalog.indexRows schema table)
  foreignKeyRows schema table :=
    noting (.foreignKeyRows schema table) (catalog.foreignKeyRows schema table)
where
  noting {α : Type} (query : CatalogQuery) (action : Action σ α) :
      Action (List CatalogQuery × σ) α := do
    .modify fun (queries, world) => (queries ++ [query], world)
    action.onSecond

end RelProto
