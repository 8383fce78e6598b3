import RelProto.Proofs.Field.Pruning
import RelProto.Proofs.Output
import RelProto.Proofs.Reading

/-! Excluded tables and columns leave no trace in the generated files: catalogs that agree on the
rest give databases whose tables render alike. -/
namespace RelProto

open RelProto.Action

/-- The foreign key rows whose local columns are not excluded. -/
def GeneratorSettings.keptKeyRows (settings : GeneratorSettings) (schema table : String)
    (rows : List ForeignKeyRow) : List ForeignKeyRow :=
  rows.filter fun row => !settings.excludesColumn schema table row.localColumn

namespace Table

variable {settings : GeneratorSettings} {schema name : String} {columns : List Column}
  {indexes indexes' : List Index} {rows rows' : List ForeignKeyRow}
  {relations relations' : List Relation}

/-- A row for a column of the table is kept, since none of the columns is excluded. -/
lemma filter_present_keptKeyRows {table : Table}
    (hkept : ∀ column ∈ table.columns,
      settings.excludesColumn schema name column.name = false) (rows : List ForeignKeyRow) :
    (settings.keptKeyRows schema name rows).filter
        (fun row => (table.column? row.localColumn).isSome) =
      rows.filter fun row => (table.column? row.localColumn).isSome := by
  rw [GeneratorSettings.keptKeyRows, List.filter_filter]
  apply List.filter_congr
  intro row _
  rw [Bool.and_eq_left_iff_imp]
  intro hpresent
  obtain ⟨column, hcolumn, hname⟩ := List.find?_isSome.mp hpresent
  rw [← beq_iff_eq.mp hname, hkept column hcolumn]
  rfl

/-- Two tables with the same columns, of which none is excluded, render alike if their foreign keys
were listed by the same rows for columns that are not excluded. -/
theorem rendersAlike_of_keptKeyRows
    (hkept : ∀ column ∈ columns, settings.excludesColumn schema name column.name = false)
    (hrows : settings.keptKeyRows schema name rows = settings.keptKeyRows schema name rows')
    (hrelations : relationsOf rows = .ok relations)
    (hrelations' : relationsOf rows' = .ok relations') :
    RendersAlike ⟨schema, name, columns, indexes, relations⟩
      ⟨schema, name, columns, indexes', relations'⟩ := by
  let table : Table := ⟨schema, name, columns, indexes, []⟩
  -- Both are what the rows for columns of the table list, and these rows are the same.
  have hpruned : table.prunedAmong relations = table.prunedAmong relations' := by
    apply Except.ok.inj
    rw [← relationsOf_filter_present hrelations, ← relationsOf_filter_present hrelations',
      ← filter_present_keptKeyRows hkept rows, hrows, filter_present_keptKeyRows hkept rows']
  have hview := view_resolvedFields_prunedAmong table (keyed_of_relationsOf hrelations)
  have hview' := view_resolvedFields_prunedAmong table (keyed_of_relationsOf hrelations')
  have hindexes : (table.withRelations relations').resolvedFields =
      (⟨schema, name, columns, indexes', relations'⟩ : Table).resolvedFields := by
    apply resolvedFields_congr
    · rfl
    · rfl
    · rfl
  rw [hpruned, hview', hindexes] at hview
  exact rendersAlike_of_view rfl rfl rfl hview.symm

end Table

variable {σ σ' : Type} {settings : GeneratorSettings} {related : σ → σ' → Prop}
  {catalog : Catalog σ} {catalog' : Catalog σ'}

/-- In related worlds both catalogs answer alike, as far as tables and columns are concerned that
are not excluded. Nothing is asked of index rows, of excluded tables and of excluded columns. -/
structure Catalog.AgreeOnKept (settings : GeneratorSettings) (related : σ → σ' → Prop)
    (catalog : Catalog σ) (catalog' : Catalog σ') : Prop where
  tables : ∀ schema ∈ settings.schemas,
    Agree related (fun names names' => settings.keptTables names = settings.keptTables names')
      (catalog.tables schema settings.excludedTables)
      (catalog'.tables schema settings.excludedTables)
  columns : ∀ schema table, catalog.Lists settings schema table →
    Agree related (fun columns columns' =>
        settings.keptColumns schema table columns = settings.keptColumns schema table columns')
      (catalog.columns schema table) (catalog'.columns schema table)
  indexRows : ∀ schema table, catalog.Lists settings schema table →
    Agree related (fun _ _ => True) (catalog.indexRows schema table)
      (catalog'.indexRows schema table)
  foreignKeyRows : ∀ schema table, catalog.Lists settings schema table →
    Agree related (fun rows rows' =>
        settings.keptKeyRows schema table rows = settings.keptKeyRows schema table rows')
      (catalog.foreignKeyRows schema table) (catalog'.foreignKeyRows schema table)

namespace Catalog.AgreeOnKept

variable (h : AgreeOnKept settings related catalog catalog')
include h

lemma readTable {schema name : String} (hlisted : catalog.Lists settings schema name) :
    Agree related Table.RendersAlike (catalog.readTable settings schema name)
      (catalog'.readTable settings schema name) := by
  intro world world' table table' after after' hworlds htable htable'
  obtain ⟨_, _, columns, world₁, indexRows, world₂, keyRows, indexes, relations, hcolumns,
    hindexRows, _, hkeyRows, hrelations, rfl⟩ := readTable_returns_iff.mp htable
  obtain ⟨_, _, columns', world₁', indexRows', world₂', keyRows', indexes', relations', hcolumns',
    hindexRows', _, hkeyRows', hrelations', rfl⟩ := readTable_returns_iff.mp htable'
  obtain ⟨hsame, hworlds₁⟩ := h.columns schema name hlisted hworlds hcolumns hcolumns'
  obtain ⟨_, hworlds₂⟩ := h.indexRows schema name hlisted hworlds₁ hindexRows hindexRows'
  obtain ⟨hrows, hafter⟩ := h.foreignKeyRows schema name hlisted hworlds₂ hkeyRows hkeyRows'
  have hkept : ∀ column ∈ settings.keptColumns schema name columns,
      settings.excludesColumn schema name column.name = false := by
    intro column hcolumn
    simpa using (List.mem_filter.mp hcolumn).2
  rw [← hsame]
  exact ⟨Table.rendersAlike_of_keptKeyRows hkept hrows hrelations hrelations', hafter⟩

lemma readSchema {name : String} (hname : name ∈ settings.schemas) :
    Agree related Schema.RendersAlike (catalog.readSchema settings name)
      (catalog'.readSchema settings name) := by
  intro world world' schema schema' after after' hworlds hschema hschema'
  obtain ⟨_, hname₁, names, between, hnames, htables⟩ := readSchema_returns_iff.mp hschema
  obtain ⟨_, hname₂, names', between', hnames', htables'⟩ := readSchema_returns_iff.mp hschema'
  obtain ⟨hkept, hbetween⟩ := h.tables name hname hworlds hnames hnames'
  rw [← hkept] at htables'
  have hread : ∀ table ∈ settings.keptTables names, Agree related Table.RendersAlike
      (catalog.readTable settings name table) (catalog'.readTable settings name table) := by
    intro table htable
    exact h.readTable ⟨hname, world, names, between, hnames, htable⟩
  obtain ⟨htables, hafter⟩ := Agree.mapM hread hbetween htables htables'
  exact ⟨⟨hname₁.trans hname₂.symm, htables⟩, hafter⟩

/-- Runs that start in related worlds and both read a database read tables that render alike. -/
theorem readDatabase : Agree related Database.RendersAlike (catalog.readDatabase settings)
    (catalog'.readDatabase settings) := by
  intro world world' database database' after after' hworlds hread hread'
  obtain ⟨_, _, hschemas⟩ := readDatabase_returns_iff.mp hread
  obtain ⟨_, _, hschemas'⟩ := readDatabase_returns_iff.mp hread'
  apply Agree.mapM _ hworlds hschemas hschemas'
  intro name hname
  exact (h.readSchema hname).inContext _ _

end Catalog.AgreeOnKept

namespace CatalogScript

variable {script script' : CatalogScript}

lemma agree_answer {α : Type} {same : List α → List α → Prop} {query query' : CatalogQuery}
    {rows rows' : List α} (h : same rows rows') :
    Agree (fun _ _ => True) same (script.answer query rows) (script'.answer query' rows') := by
  intro _ _ as as' _ _ _ has has'
  obtain ⟨_, rfl⟩ := returns_answer_iff.mp has
  obtain ⟨_, rfl⟩ := returns_answer_iff.mp has'
  exact ⟨h, trivial⟩

/-- Answers that agree as they stand agree in every run. -/
theorem agreeOnKept
    (htables : ∀ schema ∈ settings.schemas,
      settings.keptTables (script.tables schema) = settings.keptTables (script'.tables schema))
    (hcolumns : ∀ schema ∈ settings.schemas, ∀ table ∈ settings.keptTables (script.tables schema),
      settings.keptColumns schema table (script.columns schema table) =
        settings.keptColumns schema table (script'.columns schema table))
    (hrows : ∀ schema ∈ settings.schemas, ∀ table ∈ settings.keptTables (script.tables schema),
      settings.keptKeyRows schema table (script.foreignKeyRows schema table) =
        settings.keptKeyRows schema table (script'.foreignKeyRows schema table)) :
    Catalog.AgreeOnKept settings (fun _ _ => True) script.catalog script'.catalog := by
  constructor
  case tables =>
    intro schema hschema
    apply agree_answer
    rw [keptTables_of_dropsExcluded, keptTables_of_dropsExcluded, htables schema hschema]
  case columns =>
    intro schema table h
    obtain ⟨hschema, htable⟩ := mem_of_lists h
    exact agree_answer (hcolumns schema hschema table htable)
  case indexRows =>
    intro schema table _
    exact agree_answer trivial
  case foreignKeyRows =>
    intro schema table h
    obtain ⟨hschema, htable⟩ := mem_of_lists h
    exact agree_answer (hrows schema hschema table htable)

end CatalogScript

namespace Catalog

/-- Excluded tables and columns do not influence the generated files: catalogs that agree on all
others give the same texts, or the same failures, and the same files. -/
theorem files_eq_of_agreeOnKept (h : AgreeOnKept settings related catalog catalog')
    {world after : σ} {world' after' : σ'} {database database' : Database}
    (hworlds : related world world')
    (hread : (catalog.readDatabase settings).Returns world database after)
    (hread' : (catalog'.readDatabase settings).Returns world' database' after') :
    (∀ (proto : ProtoSettings) (embed : Bool),
      database.tables.map (fun table => (table.render proto embed).result) =
        database'.tables.map fun table => (table.render proto embed).result) ∧
    ∀ (proto : ProtoSettings) (embed : Bool) (root : String),
      (database.generate proto embed root).outcome =
        (database'.generate proto embed root).outcome := by
  obtain ⟨halike, _⟩ := h.readDatabase hworlds hread hread'
  exact ⟨halike.map_render, Database.outcome_generate_of_rendersAlike halike⟩

/-- The foreign keys of an order's parts, which refer to an address and to a note. -/
def partKeys : List Relation := [
  ⟨"fk_address", "shop", "address", .zeroOneOrMore,
   [⟨1, "note", "note"⟩, ⟨2, "zip", "zip"⟩, ⟨3, "street", "street"⟩]⟩,
  ⟨"fk_note", "shop", "note", .zeroOneOrMore, [⟨1, "note", "id"⟩]⟩]

/-- The foreign keys that are left without the notes. -/
def partKeysWithoutNotes : List Relation := [
  ⟨"fk_address", "shop", "address", .zeroOneOrMore,
   [⟨2, "zip", "zip"⟩, ⟨3, "street", "street"⟩]⟩]

def parts : CatalogScript := .ofTables [
  .ofNames "shop" "part" ["id", "zip", "street", "note"] partKeys, .ofNames "shop" "note" ["id"] []]

/-- Parts without notes, but with an index. -/
def partsWithoutNotes : CatalogScript :=
  { CatalogScript.ofTables [
      .ofNames "shop" "part" ["id", "zip", "street"] partKeysWithoutNotes] with
    indexRows := fun _ _ => [⟨"by_street", "street", true, false⟩] }

def noNotes : GeneratorSettings where
  schemas := ["shop"]
  excludedTables := ["note"]
  excludedColumns := [⟨"shop.part", ["note"]⟩]

/-- The parts as they are read without their notes. -/
def partsRead (indexes : List Index) (relations : List Relation) : Database :=
  ⟨"sqlite", [⟨"shop",
    [{ Table.ofNames "shop" "part" ["id", "zip", "street"] relations with indexes := indexes }]⟩]⟩

lemma readDatabase_parts :
    (parts.catalog.readDatabase noNotes).Returns () (partsRead [] partKeys) () := rfl

lemma readDatabase_partsWithoutNotes :
    (partsWithoutNotes.catalog.readDatabase noNotes).Returns ()
      (partsRead [⟨"shop", "part", "by_street", .unique, ["street"]⟩] partKeysWithoutNotes) () := rfl

theorem files_eq_of_agreeOnKept_parts :
    (∀ (proto : ProtoSettings) (embed : Bool),
      (partsRead [] partKeys).tables.map (fun table => (table.render proto embed).result) =
        (partsRead [⟨"shop", "part", "by_street", .unique, ["street"]⟩]
          partKeysWithoutNotes).tables.map fun table => (table.render proto embed).result) ∧
    ∀ (proto : ProtoSettings) (embed : Bool) (root : String),
      ((partsRead [] partKeys).generate proto embed root).outcome =
        ((partsRead [⟨"shop", "part", "by_street", .unique, ["street"]⟩]
          partKeysWithoutNotes).generate proto embed root).outcome := by
  have hagree : AgreeOnKept noNotes (fun _ _ => True) parts.catalog partsWithoutNotes.catalog :=
    CatalogScript.agreeOnKept (by decide) (by decide) (by decide)
  exact files_eq_of_agreeOnKept hagree trivial readDatabase_parts readDatabase_partsWithoutNotes

end Catalog

end RelProto
