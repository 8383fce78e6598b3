import RelProto.Catalog

/-! A catalog whose answers are laid down beforehand. -/
namespace RelProto

/-- The answer to every query, unless it is one that fails. -/
structure CatalogScript where
  name : String
  tables : String → List String
  columns : String → String → List Column
  indexRows : String → String → List IndexRow
  foreignKeyRows : String → String → List ForeignKeyRow
  dropsExcluded : Bool
  failure? : CatalogQuery → Option Fault

namespace CatalogScript

def answer {α : Type} (script : CatalogScript) (query : CatalogQuery) (rows : List α) :
    Action Unit (List α) :=
  match script.failure? query with
  | some fault => throw fault
  | none => pure rows

def catalog (script : CatalogScript) : Catalog Unit where
  name := script.name
  tables schema excluded := script.answer (.tables schema) <|
    if script.dropsExcluded then (script.tables schema).filter (!excluded.contains ·)
    else script.tables schema
  columns schema table := script.answer (.columns schema table) (script.columns schema table)
  indexRows schema table :=
    script.answer (.indexRows schema table) (script.indexRows schema table)
  foreignKeyRows schema table :=
    script.answer (.foreignKeyRows schema table) (script.foreignKeyRows schema table)

end CatalogScript

end RelProto
