import RelProto.Catalog.Script
import RelProto.Proofs.Action
import RelProto.Proofs.CatalogRow
import RelProto.Reading

/-! What reading a database returns: a schema for every configured name, a table for every listed
name that is not excluded, and in each table what its catalog queries answered. -/
namespace RelProto

namespace GeneratorSettings

/-- The listed tables that are read. -/
def keptTables (settings : GeneratorSettings) (names : List String) : List String :=
  names.filter (!settings.excludesTable ·)

/-- The columns of a table that are not excluded. -/
def keptColumns (settings : GeneratorSettings) (schema table : String) (columns : List Column) :
    List Column :=
  columns.filter fun column => !settings.excludesColumn schema table column.name

@[simp] theorem mem_keptTables {settings : GeneratorSettings} {names : List String} {name : String} :
    name ∈ settings.keptTables names ↔ name ∈ names ∧ settings.excludesTable name = false := by
  simp [keptTables]

end GeneratorSettings

namespace Catalog

open RelProto.Action

variable {σ : Type} {catalog : Catalog σ} {settings : GeneratorSettings}

lemma outcome_keepColumns (settings : GeneratorSettings) (schema table : String)
    (columns : List Column) :
    (keepColumns settings schema table columns : Action σ (List Column)).outcome =
      (pure (settings.keptColumns schema table columns) : Action σ (List Column)).outcome := by
  induction columns with
  | nil => rfl
  | cons column rest ih =>
    rw [keepColumns]
    by_cases h : settings.excludesColumn schema table column.name
    · funext world
      rw [if_pos h, outcome_info_bind, ih]
      simp [h, GeneratorSettings.keptColumns]
    · funext world
      rw [if_neg h, map_eq_pure_bind, outcome_bind, ih]
      simp [h, GeneratorSettings.keptColumns]

/-- Reading a table asks for its columns, its index rows and its foreign key rows, in this order. -/
theorem readTable_returns_iff {schema name : String} {world after : σ} {table : Table} :
    (catalog.readTable settings schema name).Returns world table after ↔
      schema ≠ "" ∧ name ≠ "" ∧ ∃ columns world₁ indexRows world₂ keyRows indexes relations,
        (catalog.columns schema name).Returns world columns world₁ ∧
        (catalog.indexRows schema name).Returns world₁ indexRows world₂ ∧
        indexesOf schema name indexRows = .ok indexes ∧
        (catalog.foreignKeyRows schema name).Returns world₂ keyRows after ∧
        relationsOf keyRows = .ok relations ∧
        table = ⟨schema, name, settings.keptColumns schema name columns, indexes, relations⟩ := by
  have hkeep : ∀ (columns kept : List Column) (before between : σ),
      (keepColumns settings schema name columns).Returns before kept between ↔
        kept = settings.keptColumns schema name columns ∧ between = before := by
    intro columns kept before between
    rw [returns_iff_of_outcome (outcome_keepColumns settings schema name columns), returns_pure_iff]
  rw [readTable, returns_unless_iff]
  simp only [returns_bind_iff, returns_inContext_iff, returns_ofExcept_iff, returns_pure_iff, hkeep]
  constructor
  · rintro ⟨hnames, columns, _, hcolumns, _, world₁, ⟨rfl, rfl⟩, indexRows, _, hindexRows, indexes,
      world₂, ⟨hindexes, rfl⟩, keyRows, _, hkeyRows, relations, _, ⟨hrelations, rfl⟩, rfl, rfl⟩
    have hboth : schema ≠ "" ∧ name ≠ "" := by simpa using hnames
    exact ⟨hboth.1, hboth.2, columns, world₁, indexRows, world₂, keyRows, indexes, relations,
      hcolumns, hindexRows, hindexes, hkeyRows, hrelations, rfl⟩
  · rintro ⟨hschema, hname, columns, world₁, indexRows, world₂, keyRows, indexes, relations,
      hcolumns, hindexRows, hindexes, hkeyRows, hrelations, rfl⟩
    exact ⟨by simp [hschema, hname], columns, world₁, hcolumns, _, _, ⟨rfl, rfl⟩, indexRows, world₂,
      hindexRows, indexes, _, ⟨hindexes, rfl⟩, keyRows, _, hkeyRows, relations, _,
      ⟨hrelations, rfl⟩, rfl, rfl⟩

/-- Tables are read in the order of their listing; an excluded one only leaves a log line. -/
theorem outcome_readTables (catalog : Catalog σ) (settings : GeneratorSettings) (schema : String)
    (names : List String) : (catalog.readTables settings schema names).outcome =
      ((settings.keptTables names).mapM (catalog.readTable settings schema)).outcome := by
  induction names with
  | nil => rfl
  | cons name rest ih =>
    funext world
    rw [readTables]
    by_cases h : settings.excludesTable name
    · simp [h, ih, GeneratorSettings.keptTables]
    · have hkept : settings.keptTables (name :: rest) = name :: settings.keptTables rest := by
        simp [h, GeneratorSettings.keptTables]
      rw [if_neg h, outcome_info_bind, hkept, List.mapM_cons]
      apply congrFun
      apply outcome_bind_congr rfl
      intro table
      exact outcome_bind_congr ih fun _ => rfl

lemma readSchemas_eq_mapM (catalog : Catalog σ) (settings : GeneratorSettings)
    (names : List String) : catalog.readSchemas settings names =
      names.mapM fun name => (catalog.readSchema settings name).inContext
        ("[" ++ catalog.name ++ "] failed reading schema " ++ name) := by
  induction names with
  | nil => rfl
  | cons name rest ih => rw [readSchemas, List.mapM_cons, ih]

/-- Reading a schema asks for its tables and then reads those that are not excluded. -/
theorem readSchema_returns_iff {name : String} {world after : σ} {schema : Schema} :
    (catalog.readSchema settings name).Returns world schema after ↔
      name ≠ "" ∧ schema.name = name ∧ ∃ names between,
        (catalog.tables name settings.excludedTables).Returns world names between ∧
        ((settings.keptTables names).mapM (catalog.readTable settings name)).Returns between
          schema.tables after := by
  have hread : ∀ (names : List String) (tables : List Table) (before after : σ),
      (catalog.readTables settings name names).Returns before tables after ↔
        ((settings.keptTables names).mapM (catalog.readTable settings name)).Returns before
          tables after := by
    intro names tables before after
    exact returns_iff_of_outcome (outcome_readTables catalog settings name names)
  rw [readSchema, returns_unless_iff, returns_info_bind_iff]
  simp only [returns_bind_iff, returns_pure_iff, hread]
  constructor
  · rintro ⟨hname, names, between, hnames, tables, _, htables, rfl, rfl⟩
    exact ⟨by simpa using hname, rfl, names, between, hnames, htables⟩
  · rintro ⟨hname, rfl, names, between, hnames, htables⟩
    exact ⟨by simpa using hname, names, between, hnames, _, _, htables, rfl, rfl⟩

theorem readDatabase_returns_iff {world after : σ} {database : Database} :
    (catalog.readDatabase settings).Returns world database after ↔
      settings.schemas ≠ [] ∧ database.provider = catalog.name ∧
        (settings.schemas.mapM fun name => (catalog.readSchema settings name).inContext
          ("[" ++ catalog.name ++ "] failed reading schema " ++ name)).Returns world
            database.schemas after := by
  rw [readDatabase, returns_unless_iff, readSchemas_eq_mapM]
  simp only [returns_bind_iff, returns_pure_iff]
  constructor
  · rintro ⟨hschemas, schemas, _, hread, rfl, rfl⟩
    exact ⟨by simpa using hschemas, rfl, hread⟩
  · rintro ⟨hschemas, hprovider, hread⟩
    refine ⟨by simpa using hschemas, database.schemas, after, hread, ?_, rfl⟩
    rw [← hprovider]

/-- The catalog may list the table in a configured schema, and the table is not excluded. -/
def Lists (catalog : Catalog σ) (settings : GeneratorSettings) (schema table : String) : Prop :=
  schema ∈ settings.schemas ∧ ∃ world names after,
    (catalog.tables schema settings.excludedTables).Returns world names after ∧
      table ∈ settings.keptTables names

section Read

variable {world after : σ} {database : Database}
  (hread : (catalog.readDatabase settings).Returns world database after)
include hread

/-- Every table was read under its own name, and under the name of the schema that holds it. -/
theorem readTable_of_mem {schema : Schema} (hschema : schema ∈ database.schemas) {table : Table}
    (htable : table ∈ schema.tables) :
    table.schema = schema.name ∧ catalog.Lists settings table.schema table.name ∧
      ∃ before between,
        (catalog.readTable settings table.schema table.name).Returns before table between := by
  obtain ⟨_, _, hschemas⟩ := readDatabase_returns_iff.mp hread
  obtain ⟨schemaName, hconfigured, start, stop, hschema⟩ :=
    (runs_of_returns_mapM hschemas).2 schema hschema
  rw [returns_inContext_iff, readSchema_returns_iff] at hschema
  obtain ⟨_, rfl, names, listed, hnames, htables⟩ := hschema
  obtain ⟨name, hname, before, between, htable⟩ := (runs_of_returns_mapM htables).2 table htable
  have hfields := readTable_returns_iff.mp htable
  obtain ⟨_, _, columns, _, _, _, _, indexes, relations, _, _, _, _, _, rfl⟩ := hfields
  exact ⟨rfl, ⟨hconfigured, start, names, listed, hnames, hname⟩, before, between, htable⟩

lemma readTable_of_mem_tables {table : Table} (htable : table ∈ database.tables) :
    catalog.Lists settings table.schema table.name ∧ ∃ before between,
      (catalog.readTable settings table.schema table.name).Returns before table between := by
  obtain ⟨schema, hschema, htable⟩ := List.mem_flatMap.mp htable
  exact (readTable_of_mem hread hschema htable).2

/-- The tables of a configured schema were listed, and all that are not excluded were read. -/
theorem exists_listing {schema : String} (hschema : schema ∈ settings.schemas) :
    ∃ before names between,
      (catalog.tables schema settings.excludedTables).Returns before names between ∧
      ∀ name ∈ settings.keptTables names, ∃ table ∈ database.tables,
        table.schema = schema ∧ table.name = name := by
  obtain ⟨_, _, hschemas⟩ := readDatabase_returns_iff.mp hread
  obtain ⟨read, hread, start, stop, hschema⟩ := (runs_of_returns_mapM hschemas).1 schema hschema
  rw [returns_inContext_iff, readSchema_returns_iff] at hschema
  obtain ⟨_, _, names, listed, hnames, htables⟩ := hschema
  refine ⟨start, names, listed, hnames, ?_⟩
  intro name hname
  obtain ⟨table, hmem, _, _, htable⟩ := (runs_of_returns_mapM htables).1 name hname
  obtain ⟨_, _, columns, _, _, _, _, indexes, relations, _, _, _, _, _, rfl⟩ :=
    readTable_returns_iff.mp htable
  exact ⟨_, List.mem_flatMap.mpr ⟨read, hread, hmem⟩, rfl, rfl⟩

/-- The schemas are those that are configured, in their order. -/
theorem map_name_schemas : database.schemas.map (·.name) = settings.schemas := by
  obtain ⟨_, _, hschemas⟩ := readDatabase_returns_iff.mp hread
  rw [eq_comm, ← List.forall₂_eq_eq_eq, List.forall₂_map_right_iff]
  apply (forall₂_of_returns_mapM hschemas).imp
  rintro name schema ⟨_, _, hschema⟩
  rw [returns_inContext_iff, readSchema_returns_iff] at hschema
  exact hschema.2.1.symm

/-- The tables of a schema are those that were listed and are not excluded, in their order. -/
theorem exists_map_name_tables {schema : Schema} (hschema : schema ∈ database.schemas) :
    ∃ before names between,
      (catalog.tables schema.name settings.excludedTables).Returns before names between ∧
      schema.tables.map (·.name) = settings.keptTables names := by
  obtain ⟨_, _, hschemas⟩ := readDatabase_returns_iff.mp hread
  obtain ⟨_, _, start, _, hschema⟩ := (runs_of_returns_mapM hschemas).2 schema hschema
  rw [returns_inContext_iff, readSchema_returns_iff] at hschema
  obtain ⟨_, rfl, names, between, hnames, htables⟩ := hschema
  refine ⟨start, names, between, hnames, ?_⟩
  rw [eq_comm, ← List.forall₂_eq_eq_eq, List.forall₂_map_right_iff]
  apply (forall₂_of_returns_mapM htables).imp
  rintro name table ⟨_, _, htable⟩
  obtain ⟨_, _, columns, _, _, _, _, indexes, relations, _, _, _, _, _, rfl⟩ :=
    readTable_returns_iff.mp htable
  rfl

end Read

end Catalog

namespace CatalogScript

lemma returns_answer_iff {α : Type} {script : CatalogScript} {query : CatalogQuery}
    {rows rows' : List α} :
    (script.answer query rows).Returns () rows' () ↔
      script.failure? query = none ∧ rows' = rows := by
  rw [answer]
  cases script.failure? query with
  | none => simp
  | some fault => simp

/-- It makes no difference which excluded tables a script drops by itself. -/
lemma keptTables_of_dropsExcluded (settings : GeneratorSettings) (drops : Bool)
    (names : List String) :
    settings.keptTables (if drops then names.filter (!settings.excludedTables.contains ·) else names) =
      settings.keptTables names := by
  cases drops with
  | false => rfl
  | true => simp [GeneratorSettings.keptTables, GeneratorSettings.excludesTable]

lemma mem_of_lists {script : CatalogScript} {settings : GeneratorSettings} {schema table : String}
    (h : script.catalog.Lists settings schema table) :
    schema ∈ settings.schemas ∧ table ∈ settings.keptTables (script.tables schema) := by
  obtain ⟨hschema, _, names, _, hnames, htable⟩ := h
  obtain ⟨_, rfl⟩ := returns_answer_iff.mp hnames
  rw [keptTables_of_dropsExcluded] at htable
  exact ⟨hschema, htable⟩

/-- A catalog of these tables. -/
def ofTables (tables : List Table) : CatalogScript where
  name := "sqlite"
  tables schema := (tables.filter (·.schema = schema)).map (·.name)
  columns schema name := (found schema name).flatMap (·.columns)
  indexRows _ _ := []
  foreignKeyRows schema name := (found schema name).flatMap (·.relations.flatMap Relation.rows)
  dropsExcluded := false
  failure? _ := none
where
  found (schema name : String) : List Table :=
    tables.filter fun table => table.schema = schema && table.name = name

end CatalogScript

end RelProto
