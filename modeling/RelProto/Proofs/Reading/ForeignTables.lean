import RelProto.Config.Rules
import RelProto.Proofs.ProtoFile.Imports
import RelProto.Proofs.Reading

/-! Which imports lead to tables that were read. Foreign keys are kept whatever they refer to, while
tables are only read if they are not excluded and their schemas are configured. -/
namespace RelProto

open RelProto.Action

variable {σ : Type} {catalog : Catalog σ} {settings : GeneratorSettings}

/-- Foreign keys into a configured schema refer to tables that are listed there, unless these are
excluded. -/
def Catalog.ListsForeignTables (catalog : Catalog σ) (settings : GeneratorSettings) : Prop :=
  ∀ schema table, catalog.Lists settings schema table →
    ∀ world rows after, (catalog.foreignKeyRows schema table).Returns world rows after →
      ∀ row ∈ rows, row.foreignSchema ∈ settings.schemas →
        ∀ before names between,
          (catalog.tables row.foreignSchema settings.excludedTables).Returns before names between →
          settings.excludesTable row.foreignTable = false → row.foreignTable ∈ names

theorem CatalogScript.listsForeignTables {script : CatalogScript}
    (h : ∀ schema ∈ settings.schemas, ∀ table ∈ settings.keptTables (script.tables schema),
      ∀ row ∈ script.foreignKeyRows schema table, row.foreignSchema ∈ settings.schemas →
        row.foreignTable ∈ script.tables row.foreignSchema) :
    script.catalog.ListsForeignTables settings := by
  intro schema table hlists _ rows _ hrows row hrow hforeign _ names _ hnames hkept
  obtain ⟨hschema, htable⟩ := mem_of_lists hlists
  obtain ⟨_, rfl⟩ := returns_answer_iff.mp hrows
  obtain ⟨_, rfl⟩ := returns_answer_iff.mp hnames
  have hlisted := h schema hschema table htable row hrow hforeign
  have hmem := GeneratorSettings.mem_keptTables.mpr ⟨hlisted, hkept⟩
  rw [← keptTables_of_dropsExcluded settings script.dropsExcluded] at hmem
  exact (GeneratorSettings.mem_keptTables.mp hmem).1

namespace Catalog

variable {world after : σ} {database : Database}
  (hread : (catalog.readDatabase settings).Returns world database after)
include hread

/-- Every relation of a table that was read is listed by a row that the catalog returned. -/
lemma exists_foreignKeyRow {table : Table} (htable : table ∈ database.tables) {relation : Relation}
    (hrelation : relation ∈ table.relations) : ∃ before rows between,
      (catalog.foreignKeyRows table.schema table.name).Returns before rows between ∧
      ∃ row ∈ rows, row.foreignSchema = relation.foreignSchema ∧
        row.foreignTable = relation.foreignTable := by
  obtain ⟨_, before, between, htable⟩ := readTable_of_mem_tables hread htable
  obtain ⟨_, _, columns, world₁, indexRows, world₂, rows, indexes, relations, _, _, _, hrows,
    hrelations, heq⟩ := readTable_returns_iff.mp htable
  obtain ⟨_, rfl⟩ := relationsOf_eq_ok_iff.mp hrelations
  rw [heq] at hrelation
  obtain ⟨key, hkey, rfl⟩ := List.mem_map.mp hrelation
  obtain ⟨row, hrow, rfl⟩ := List.mem_map.mp (mem_runKeys.mp hkey)
  exact ⟨world₂, rows, between, hrows, row, hrow, rfl, rfl⟩

/-- The foreign table of a relation was read exactly if its schema is configured and it is not
excluded. -/
theorem foreign_table_mem_iff (hforeign : catalog.ListsForeignTables settings) {table : Table}
    (htable : table ∈ database.tables) {relation : Relation}
    (hrelation : relation ∈ table.relations) :
    (∃ other ∈ database.tables,
        other.schema = relation.foreignSchema ∧ other.name = relation.foreignTable) ↔
      relation.foreignSchema ∈ settings.schemas ∧
        settings.excludesTable relation.foreignTable = false := by
  constructor
  · rintro ⟨other, hother, hschema, hname⟩
    obtain ⟨⟨hconfigured, _, names, _, _, hkept⟩, _⟩ := readTable_of_mem_tables hread hother
    rw [← hschema, ← hname]
    exact ⟨hconfigured, (GeneratorSettings.mem_keptTables.mp hkept).2⟩
  · rintro ⟨hschema, hkept⟩
    obtain ⟨_, rows, _, hrows, row, hrow, hrowSchema, hrowTable⟩ :=
      exists_foreignKeyRow hread htable hrelation
    obtain ⟨_, names, _, hnames, hall⟩ := exists_listing hread hschema
    have hlisted : relation.foreignTable ∈ names := by
      rw [← hrowSchema] at hschema hnames
      rw [← hrowTable] at hkept ⊢
      exact hforeign _ _ (readTable_of_mem_tables hread htable).1 _ rows _ hrows row hrow hschema _
        names _ hnames hkept
    obtain ⟨other, hother, hotherSchema, hotherName⟩ :=
      hall relation.foreignTable (GeneratorSettings.mem_keptTables.mpr ⟨hlisted, hkept⟩)
    exact ⟨other, hother, hotherSchema, hotherName⟩

/-- The imports of a file are those of the foreign tables of its embedded relations, and such a
foreign table was read exactly if its schema is configured and it is not excluded. -/
theorem foreignImports_resolve_iff (hforeign : catalog.ListsForeignTables settings) {table : Table}
    (htable : table ∈ database.tables) {proto : ProtoSettings} {file : ProtoFile}
    (hfile : (table.protoFile proto true).result = .ok file) :
    (∀ path, path ∈ file.foreignImports ↔
      ∃ relation ∈ table.relations, table.Embeds relation ∧ relation.importPath = path) ∧
    ∀ relation ∈ table.relations, table.Embeds relation →
      ((∃ other ∈ database.tables,
          other.schema = relation.foreignSchema ∧ other.name = relation.foreignTable) ↔
        relation.foreignSchema ∈ settings.schemas ∧
          settings.excludesTable relation.foreignTable = false) := by
  constructor
  · intro path
    exact Table.mem_foreignImports_iff hfile
  · intro relation hrelation _
    exact foreign_table_mem_iff hread hforeign htable hrelation

end Catalog

namespace Config

/-- Orders and customers are read, but not the addresses of customers. -/
def withoutAddresses : Config where
  database := { provider := some .sqlite, database := "app.db" }
  output := { path := "out" }
  generator :=
    { schemas := ["shop"], excludedTables := ["address"], embedRelationships := true }

/-- Orders and customers as they are read. -/
def ordersRead : Database := ⟨"sqlite", [⟨"shop", [Table.order, Table.customer]⟩]⟩

lemma readDatabase_orders :
    ((CatalogScript.ofTables Table.orders).catalog.readDatabase withoutAddresses.generator).Returns
      () ordersRead () := rfl

lemma listsForeignTables_orders :
    (CatalogScript.ofTables Table.orders).catalog.ListsForeignTables withoutAddresses.generator :=
  CatalogScript.listsForeignTables (by decide)

theorem foreignImports_resolve_iff_customer :
    ∃ file, (Table.customer.protoFile withoutAddresses.proto true).result = .ok file ∧
      (∀ path, path ∈ file.foreignImports ↔ ∃ relation ∈ Table.customer.relations,
        Table.customer.Embeds relation ∧ relation.importPath = path) ∧
      ∀ relation ∈ Table.customer.relations, Table.customer.Embeds relation →
        ((∃ other ∈ ordersRead.tables,
            other.schema = relation.foreignSchema ∧ other.name = relation.foreignTable) ↔
          relation.foreignSchema ∈ withoutAddresses.generator.schemas ∧
            withoutAddresses.generator.excludesTable relation.foreignTable = false) := by
  obtain ⟨file, hfile⟩ := Table.exists_protoFile withoutAddresses.proto
    (show Table.customer.Resolvable by decide)
  exact ⟨file, hfile, Catalog.foreignImports_resolve_iff readDatabase_orders
    listsForeignTables_orders (by decide) hfile⟩

/-- The file of a table that refers to an excluded one imports a file that is not generated. -/
theorem not_foreignImports_resolve_customer :
    ¬ ∀ (config : Config) (σ : Type) (catalog : Catalog σ) (world after : σ) (database : Database),
      config.validate = .ok () → config.generator.embedRelationships = true →
      (catalog.readDatabase config.generator).Returns world database after →
      ∀ table ∈ database.tables, ∀ file, (table.protoFile config.proto true).result = .ok file →
        ∀ path ∈ file.foreignImports, ∃ other ∈ database.tables, other.importPath = path := by
  intro h
  have hall := h withoutAddresses Unit _ () () ordersRead rfl rfl readDatabase_orders
  obtain ⟨file, hfile⟩ := Table.exists_protoFile withoutAddresses.proto
    (show Table.customer.Resolvable by decide)
  have himport : "shop/address.proto" ∈ file.foreignImports := by
    rw [Table.mem_foreignImports_iff hfile]
    decide
  have hnone : ¬ ∃ other ∈ ordersRead.tables, other.importPath = "shop/address.proto" := by decide
  exact hnone (hall Table.customer (by decide) file hfile _ himport)

end Config

end RelProto
