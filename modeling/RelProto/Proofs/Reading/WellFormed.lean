import RelProto.Proofs.Field.Warnings
import RelProto.Proofs.Reading.Exclusion

/-! What holds of every table that was read: it is found under its names, nothing excluded is in it,
and its columns, indexes and relations can be told apart. Resolving its foreign keys never comes
across a relation without key columns, or one that is many-to-many. -/
namespace RelProto

open RelProto.Action

/-- The columns have names of their own, and are listed by ordinal. -/
structure ColumnsInOrder (columns : List Column) : Prop where
  nodup_names : (columns.map (·.name)).Nodup
  ordinals : (columns.map (·.ordinal)).Pairwise (· < ·)

instance (columns : List Column) : Decidable (ColumnsInOrder columns) :=
  decidable_of_iff ((columns.map (·.name)).Nodup ∧ (columns.map (·.ordinal)).Pairwise (· < ·))
    ⟨fun h => ⟨h.1, h.2⟩, fun h => ⟨h.1, h.2⟩⟩

lemma ColumnsInOrder.sublist {columns kept : List Column} (h : ColumnsInOrder columns)
    (hkept : kept.Sublist columns) : ColumnsInOrder kept :=
  ⟨h.nodup_names.sublist (hkept.map _), h.ordinals.sublist (hkept.map _)⟩

/-- What reading makes sure of in a table. -/
structure Table.WellFormed (settings : GeneratorSettings) (table : Table) : Prop where
  table_kept : settings.excludesTable table.name = false
  columns_kept : ∀ column ∈ table.columns,
    settings.excludesColumn table.schema table.name column.name = false
  columns_inOrder : ColumnsInOrder table.columns
  nodup_indexes : (table.indexes.map (·.name)).Nodup
  index_belongs : ∀ index ∈ table.indexes,
    index.schema = table.schema ∧ index.table = table.name ∧ index.columns ≠ []
  nodup_relations : (table.relations.map Relation.key).Nodup
  relation_keyed : ∀ relation ∈ table.relations,
    relation.multiplicity = .zeroOneOrMore ∧ relation.keys ≠ []

namespace Table.WellFormed

variable {settings : GeneratorSettings} {table : Table} (h : table.WellFormed settings)
include h

lemma keyed : Keyed table.relations := by
  intro relation hrelation _
  exact (h.relation_keyed relation hrelation).2

/-- Resolving skips nothing but relations whose key columns are all excluded. -/
lemma exists_excluded_of_mem_log {line : LogLine} (hline : line ∈ table.resolvedFields.log) :
    ∃ relation ∈ table.relations, table.presentKeys relation = [] ∧
      line = table.excludedKeyWarning relation := by
  obtain ⟨relation, hrelation, hwarns⟩ := exists_warns_of_mem_resolvedFields hline
  rcases hwarns with ⟨hmany, _⟩ | ⟨_, hpresent, rfl⟩
  · rw [(h.relation_keyed relation hrelation).1] at hmany
    contradiction
  · exact ⟨relation, hrelation, hpresent, rfl⟩

lemma manyToManyWarning_notMem_log (relation : Relation) :
    table.manyToManyWarning relation ∉ table.resolvedFields.log := by
  intro hline
  obtain ⟨other, _, _, hsame⟩ := h.exists_excluded_of_mem_log hline
  exact manyToManyWarning_ne_excludedKeyWarning relation other hsame

end Table.WellFormed

lemma find?_eq_some_iff_of_nodup {ι : Type} {key : ι → String} {items : List ι}
    (h : (items.map key).Nodup) {name : String} {item : ι} :
    items.find? (key · == name) = some item ↔ item ∈ items ∧ key item = name := by
  induction items with
  | nil => simp
  | cons first items ih =>
    rw [List.map_cons, List.nodup_cons] at h
    by_cases hfirst : key first = name
    · rw [List.find?_cons_of_pos (by simpa using hfirst), Option.some.injEq, List.mem_cons]
      constructor
      · rintro rfl
        exact ⟨.inl rfl, hfirst⟩
      · rintro ⟨rfl | hitem, hname⟩
        · rfl
        · exact absurd (hfirst.trans hname.symm ▸ List.mem_map_of_mem hitem) h.1
    · rw [List.find?_cons_of_neg (by simpa using hfirst), ih h.2, List.mem_cons]
      constructor
      · rintro ⟨hitem, hname⟩
        exact ⟨.inr hitem, hname⟩
      · rintro ⟨rfl | hitem, hname⟩
        · exact absurd hname hfirst
        · exact ⟨hitem, hname⟩

/-- In a database whose names can be told apart, a table is found under its names. -/
theorem Database.table?_eq_some_iff {database : Database}
    (hschemas : (database.schemas.map (·.name)).Nodup)
    (htables : ∀ schema ∈ database.schemas, (schema.tables.map (·.name)).Nodup)
    (hbelongs : ∀ schema ∈ database.schemas, ∀ table ∈ schema.tables, table.schema = schema.name)
    {schema name : String} {table : Table} :
    database.table? schema name = some table ↔
      table ∈ database.tables ∧ table.schema = schema ∧ table.name = name := by
  simp only [table?, schema?, Schema.table?, Option.bind_eq_some_iff, tables, List.mem_flatMap,
    find?_eq_some_iff_of_nodup hschemas]
  constructor
  · rintro ⟨holder, ⟨hholder, rfl⟩, hfound⟩
    rw [find?_eq_some_iff_of_nodup (htables holder hholder)] at hfound
    exact ⟨⟨holder, hholder, hfound.1⟩, hbelongs holder hholder table hfound.1, hfound.2⟩
  · rintro ⟨⟨holder, hholder, htable⟩, rfl, rfl⟩
    refine ⟨holder, ⟨hholder, (hbelongs holder hholder table htable).symm⟩, ?_⟩
    rw [find?_eq_some_iff_of_nodup (htables holder hholder)]
    exact ⟨htable, rfl⟩

namespace Catalog

variable {σ : Type} {catalog : Catalog σ} {settings : GeneratorSettings}

/-- The columns of a table that is read are listed by ordinal, under names of their own. -/
def ListsColumnsInOrder (catalog : Catalog σ) (settings : GeneratorSettings) : Prop :=
  ∀ schema table, catalog.Lists settings schema table → ∀ world columns after,
    (catalog.columns schema table).Returns world columns after → ColumnsInOrder columns

lemma wellFormed_of_readTable (hcolumns : catalog.ListsColumnsInOrder settings)
    {schema name : String} (hlists : catalog.Lists settings schema name) {world after : σ}
    {table : Table} (htable : (catalog.readTable settings schema name).Returns world table after) :
    table.WellFormed settings := by
  obtain ⟨_, _, columns, between, indexRows, _, keyRows, indexes, relations, hlisted, _, hindexes,
    _, hrelations, rfl⟩ := readTable_returns_iff.mp htable
  have hinOrder := hcolumns schema name hlists world columns between hlisted
  obtain ⟨_, _, names, _, _, hkept⟩ := hlists
  obtain ⟨hnodup, hbelongs⟩ := names_of_indexesOf hindexes
  obtain ⟨hkeys, hkeyed⟩ := keys_of_relationsOf hrelations
  exact {
    table_kept := (GeneratorSettings.mem_keptTables.mp hkept).2
    columns_kept := by
      intro column hcolumn
      simpa using (List.mem_filter.mp hcolumn).2
    columns_inOrder := hinOrder.sublist List.filter_sublist
    nodup_indexes := hnodup
    index_belongs := hbelongs
    nodup_relations := hkeys
    relation_keyed := hkeyed }

/-- Every table that was read belongs to the schema that holds it and is well-formed, and resolving
its relations neither fails for a missing key nor skips a many-to-many relation. If no schema is
configured twice and no table is listed twice, a table is found exactly under its names. -/
theorem wellFormed_of_readDatabase (hcolumns : catalog.ListsColumnsInOrder settings)
    {world after : σ} {database : Database}
    (hread : (catalog.readDatabase settings).Returns world database after) :
    (∀ schema ∈ database.schemas, ∀ table ∈ schema.tables,
      table.schema = schema.name ∧ table.WellFormed settings ∧
      (∀ relation on, table.resolvedFields.result ≠ .error (.keyless relation on)) ∧
      ∀ relation, table.manyToManyWarning relation ∉ table.resolvedFields.log) ∧
    (settings.schemas.Nodup →
      (∀ schema ∈ settings.schemas, ∀ before names between,
        (catalog.tables schema settings.excludedTables).Returns before names between →
          names.Nodup) →
      ∀ schema name table, database.table? schema name = some table ↔
        table ∈ database.tables ∧ table.schema = schema ∧ table.name = name) := by
  constructor
  · intro schema hschema table htable
    obtain ⟨hbelongs, hlists, _, _, hrun⟩ := readTable_of_mem hread hschema htable
    have hwell := wellFormed_of_readTable hcolumns hlists hrun
    exact ⟨hbelongs, hwell, Table.resolvedFields_ne_keyless hwell.keyed,
      hwell.manyToManyWarning_notMem_log⟩
  · intro hschemas hnames schema name table
    apply Database.table?_eq_some_iff
    · rwa [map_name_schemas hread]
    · intro holder hholder
      obtain ⟨before, names, between, hlisted, htables⟩ := exists_map_name_tables hread hholder
      have hconfigured : holder.name ∈ settings.schemas :=
        map_name_schemas hread ▸ List.mem_map_of_mem hholder
      rw [htables]
      exact (hnames holder.name hconfigured before names between hlisted).filter _
    · intro holder hholder table htable
      exact (readTable_of_mem hread hholder htable).1

end Catalog

lemma CatalogScript.listsColumnsInOrder {script : CatalogScript} {settings : GeneratorSettings}
    (h : ∀ schema ∈ settings.schemas, ∀ table ∈ settings.keptTables (script.tables schema),
      ColumnsInOrder (script.columns schema table)) :
    script.catalog.ListsColumnsInOrder settings := by
  intro schema table hlists _ columns _ hcolumns
  obtain ⟨hschema, htable⟩ := mem_of_lists hlists
  obtain ⟨_, rfl⟩ := returns_answer_iff.mp hcolumns
  exact h schema hschema table htable

namespace Catalog

/-- Parts with two indexes. -/
def indexedParts : CatalogScript :=
  { parts with
    indexRows := fun _ _ => [
      ⟨"by_place", "zip", false, false⟩, ⟨"by_place", "street", false, false⟩,
      ⟨"part_pkey", "id", true, true⟩] }

def partIndexes : List Index := [
  ⟨"shop", "part", "by_place", .nonUnique, ["zip", "street"]⟩,
  ⟨"shop", "part", "part_pkey", .primaryKey, ["id"]⟩]

theorem wellFormed_of_readDatabase_parts :
    indexedParts.catalog.ListsColumnsInOrder noNotes ∧
    (indexedParts.catalog.readDatabase noNotes).Returns () (partsRead partIndexes partKeys) () ∧
    (∀ schema ∈ (partsRead partIndexes partKeys).schemas, ∀ table ∈ schema.tables,
      table.schema = schema.name ∧ table.WellFormed noNotes ∧
      (∀ relation on, table.resolvedFields.result ≠ .error (.keyless relation on)) ∧
      ∀ relation, table.manyToManyWarning relation ∉ table.resolvedFields.log) ∧
    ∀ schema name table, (partsRead partIndexes partKeys).table? schema name = some table ↔
      table ∈ (partsRead partIndexes partKeys).tables ∧ table.schema = schema ∧
        table.name = name := by
  have hcolumns : indexedParts.catalog.ListsColumnsInOrder noNotes :=
    CatalogScript.listsColumnsInOrder (by decide)
  have hread : (indexedParts.catalog.readDatabase noNotes).Returns ()
      (partsRead partIndexes partKeys) () := rfl
  obtain ⟨hwell, hfound⟩ := wellFormed_of_readDatabase hcolumns hread
  refine ⟨hcolumns, hread, hwell, hfound (by decide) ?_⟩
  intro schema hschema _ names _ hnames
  obtain ⟨_, rfl⟩ := CatalogScript.returns_answer_iff.mp hnames
  rw [List.mem_singleton.mp hschema]
  decide

end Catalog

end RelProto
