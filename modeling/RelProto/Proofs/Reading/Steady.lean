import RelProto.Proofs.Reading.Exclusion

/-! Reading from a catalog whose answers do not depend on what it was asked before. Leaving out
excluded tables and columns while reading, or afterwards, comes to the same database, and schemas
can be read apart. -/
namespace RelProto

namespace Action

variable {σ α β : Type} {still : σ → Prop}

/-- The action returns `a` in every still world, and leaves it still. -/
def Gives (still : σ → Prop) (action : Action σ α) (a : α) : Prop :=
  ∀ world, still world → ∃ after, still after ∧ action.Returns world a after

/-- What the action returns in one still world, it returns in all of them. -/
def Steady (still : σ → Prop) (action : Action σ α) : Prop :=
  ∀ world a after, still world → action.Returns world a after → Gives still action a

lemma Steady.still_of_returns {action : Action σ α} (h : Steady still action) {world after : σ}
    {a : α} (hworld : still world) (ha : action.Returns world a after) : still after := by
  obtain ⟨last, hlast, hreturns⟩ := h world a after hworld ha world hworld
  rwa [(returns_unique ha hreturns).2]

lemma Gives.mapM {f : α → Action σ β} {as : List α} {bs : List β}
    (h : List.Forall₂ (fun a b => Gives still (f a) b) as bs) : Gives still (as.mapM f) bs := by
  induction h with
  | nil =>
    intro world hworld
    exact ⟨world, hworld, rfl⟩
  | cons hb _ ih =>
    intro world hworld
    obtain ⟨between, hbetween, hb⟩ := hb world hworld
    obtain ⟨after, hafter, hbs⟩ := ih between hbetween
    rw [List.mapM_cons]
    exact ⟨after, hafter, returns_bind_iff.mpr ⟨_, between, hb,
      returns_bind_iff.mpr ⟨_, after, hbs, returns_pure_iff.mpr ⟨rfl, rfl⟩⟩⟩⟩

/-- A loop over steady actions that returns gives what it returned, element by element. -/
lemma forall₂_gives_of_returns_mapM {f : α → Action σ β} {as : List α} {bs : List β}
    (hsteady : ∀ a ∈ as, Steady still (f a)) {world after : σ} (hworld : still world)
    (h : (as.mapM f).Returns world bs after) :
    List.Forall₂ (fun a b => Gives still (f a) b) as bs := by
  have hruns := forall₂_of_keeps_of_returns_mapM
    (fun a ha _ _ _ hstart => (hsteady a ha).still_of_returns hstart) hworld h
  apply ((List.forall₂_and_left _ _).mpr ⟨hsteady, hruns⟩).imp
  rintro a b ⟨ha, before, between, hbefore, hb⟩
  exact ha before b between hbefore hb

lemma Steady.mapM {f : α → Action σ β} {as : List α} (h : ∀ a ∈ as, Steady still (f a)) :
    Steady still (as.mapM f) := by
  intro world bs after hworld hbs
  exact .mapM (forall₂_gives_of_returns_mapM h hworld hbs)

lemma gives_inContext_iff {message : String} {action : Action σ α} {a : α} :
    Gives still (action.inContext message) a ↔ Gives still action a := by
  simp only [Gives, returns_inContext_iff]

lemma Steady.inContext {action : Action σ α} (h : Steady still action) (message : String) :
    Steady still (action.inContext message) := by
  intro world a after hworld ha
  rw [returns_inContext_iff] at ha
  exact gives_inContext_iff.mpr (h world a after hworld ha)

end Action

open RelProto.Action

variable {σ : Type} {settings : GeneratorSettings}

/-- As long as the world is still, every query has one answer. -/
structure Catalog.Steady (catalog : Catalog σ) (still : σ → Prop) : Prop where
  tables : ∀ schema excluded, Action.Steady still (catalog.tables schema excluded)
  columns : ∀ schema table, Action.Steady still (catalog.columns schema table)
  indexRows : ∀ schema table, Action.Steady still (catalog.indexRows schema table)
  foreignKeyRows : ∀ schema table, Action.Steady still (catalog.foreignKeyRows schema table)

/-- When it is told what is excluded, the catalog may leave out excluded tables, and no others. -/
def Catalog.OmitsOnlyExcluded (catalog : Catalog σ) (settings : GeneratorSettings)
    (still : σ → Prop) : Prop :=
  ∀ schema ∈ settings.schemas, ∀ world names after, still world →
    (catalog.tables schema []).Returns world names after →
    ∃ listed, Gives still (catalog.tables schema settings.excludedTables) listed ∧
      (settings.keptTables names).Sublist listed ∧ listed.Sublist names

namespace GeneratorSettings

def withoutExclusions (settings : GeneratorSettings) : GeneratorSettings :=
  { settings with excludedTables := [], excludedColumns := [] }

@[simp] theorem keptTables_withoutExclusions (names : List String) :
    settings.withoutExclusions.keptTables names = names := by
  simp [keptTables, withoutExclusions, excludesTable]

@[simp] theorem keptColumns_withoutExclusions (schema table : String) (columns : List Column) :
    settings.withoutExclusions.keptColumns schema table columns = columns := by
  simp [keptColumns, withoutExclusions, excludesColumn]

lemma keptTables_eq_of_sublist {names listed : List String}
    (hkept : (settings.keptTables names).Sublist listed) (hlisted : listed.Sublist names) :
    settings.keptTables listed = settings.keptTables names := by
  have htwice : settings.keptTables (settings.keptTables names) = settings.keptTables names := by
    simp [keptTables]
  apply (hlisted.filter _).antisymm
  have hfilter := hkept.filter (!settings.excludesTable ·)
  rwa [← keptTables, htwice] at hfilter

end GeneratorSettings

/-- The table without the excluded columns. -/
def Table.excluding (settings : GeneratorSettings) (table : Table) : Table :=
  { table with columns := settings.keptColumns table.schema table.name table.columns }

/-- The schema without the excluded tables, and the others without the excluded columns. -/
def Schema.excluding (settings : GeneratorSettings) (schema : Schema) : Schema :=
  { schema with
    tables := (schema.tables.filter fun table => !settings.excludesTable table.name).map
      (Table.excluding settings) }

/-- The database without the excluded tables and columns. -/
def Database.excluding (settings : GeneratorSettings) (database : Database) : Database :=
  { database with schemas := database.schemas.map (Schema.excluding settings) }

namespace Catalog

variable {catalog : Catalog σ} {still : σ → Prop}

namespace Steady

variable (h : catalog.Steady still)
include h

/-- Whatever is excluded, a table that was read once is read again, with the columns that are not
excluded then. -/
lemma exists_columns {schema name : String} {world after : σ} {table : Table} (hworld : still world)
    (htable : (catalog.readTable settings schema name).Returns world table after) :
    ∃ columns, table.columns = settings.keptColumns schema name columns ∧
      ∀ other : GeneratorSettings, Gives still (catalog.readTable other schema name)
        { table with columns := other.keptColumns schema name columns } := by
  obtain ⟨hschema, hname, columns, world₁, indexRows, world₂, keyRows, indexes, relations, hcolumns,
    hindexRows, hindexes, hkeyRows, hrelations, rfl⟩ := readTable_returns_iff.mp htable
  have hworld₁ := (h.columns schema name).still_of_returns hworld hcolumns
  have hworld₂ := (h.indexRows schema name).still_of_returns hworld₁ hindexRows
  refine ⟨columns, rfl, ?_⟩
  intro other start hstart
  obtain ⟨next, hnext, hcolumns⟩ := h.columns schema name _ _ _ hworld hcolumns start hstart
  obtain ⟨last, hlast, hindexRows⟩ := h.indexRows schema name _ _ _ hworld₁ hindexRows next hnext
  obtain ⟨stop, hstop, hkeyRows⟩ := h.foreignKeyRows schema name _ _ _ hworld₂ hkeyRows last hlast
  exact ⟨stop, hstop, readTable_returns_iff.mpr ⟨hschema, hname, columns, next, indexRows, last,
    keyRows, indexes, relations, hcolumns, hindexRows, hindexes, hkeyRows, hrelations, rfl⟩⟩

lemma readTable (schema name : String) :
    Action.Steady still (catalog.readTable settings schema name) := by
  intro world table after hworld htable
  obtain ⟨columns, hcolumns, hgives⟩ := h.exists_columns hworld htable
  have hsame := hgives settings
  rwa [← hcolumns] at hsame

lemma readSchema (name : String) : Action.Steady still (catalog.readSchema settings name) := by
  intro world schema after hworld hschema
  obtain ⟨hname, rfl, names, between, hnames, htables⟩ := readSchema_returns_iff.mp hschema
  have hbetween := (h.tables _ _).still_of_returns hworld hnames
  intro start hstart
  obtain ⟨next, hnext, hnames⟩ := h.tables _ _ _ _ _ hworld hnames start hstart
  obtain ⟨last, hlast, htables⟩ :=
    Action.Steady.mapM (fun table _ => h.readTable schema.name table) _ _ _ hbetween htables next
      hnext
  exact ⟨last, hlast, readSchema_returns_iff.mpr ⟨hname, rfl, names, next, hnames, htables⟩⟩

theorem readDatabase : Action.Steady still (catalog.readDatabase settings) := by
  intro world database after hworld hread
  obtain ⟨hschemas, hprovider, hall⟩ := readDatabase_returns_iff.mp hread
  intro start hstart
  obtain ⟨last, hlast, hall⟩ :=
    Action.Steady.mapM (fun name _ => (h.readSchema name).inContext _) _ _ _ hworld hall start hstart
  exact ⟨last, hlast, readDatabase_returns_iff.mpr ⟨hschemas, hprovider, hall⟩⟩

lemma readTable_excluding {schema name : String} {world after : σ} {table : Table}
    (hworld : still world)
    (htable : (catalog.readTable settings.withoutExclusions schema name).Returns world table after) :
    table.name = name ∧
      Gives still (catalog.readTable settings schema name) (table.excluding settings) := by
  obtain ⟨columns, hcolumns, hgives⟩ := h.exists_columns hworld htable
  rw [GeneratorSettings.keptColumns_withoutExclusions] at hcolumns
  obtain ⟨_, _, _, _, _, _, _, _, _, _, _, _, _, _, rfl⟩ := readTable_returns_iff.mp htable
  have hexcluded := hgives settings
  rw [← hcolumns] at hexcluded
  exact ⟨rfl, hexcluded⟩

lemma readSchema_excluding (homits : catalog.OmitsOnlyExcluded settings still) {name : String}
    (hconfigured : name ∈ settings.schemas) {world after : σ} {schema : Schema}
    (hworld : still world)
    (hschema : (catalog.readSchema settings.withoutExclusions name).Returns world schema after) :
    Gives still (catalog.readSchema settings name) (schema.excluding settings) := by
  obtain ⟨hname, rfl, names, between, hnames, htables⟩ := readSchema_returns_iff.mp hschema
  rw [GeneratorSettings.keptTables_withoutExclusions] at htables
  obtain ⟨listed, hlisted, hkept, hsublist⟩ :=
    homits schema.name hconfigured world names between hworld hnames
  have hbetween := (h.tables _ _).still_of_returns hworld hnames
  -- Every table that is listed comes with one that was read, and is read again if it is kept.
  have hread : List.Forall₂ (fun name table => table.name = name ∧
      Gives still (catalog.readTable settings schema.name name) (table.excluding settings))
      names schema.tables := by
    have hsteady : ∀ name ∈ names,
        Action.Steady still (catalog.readTable settings.withoutExclusions schema.name name) :=
      fun name _ => h.readTable schema.name name
    apply (forall₂_gives_of_returns_mapM hsteady hbetween htables).imp
    intro name table hgives
    obtain ⟨_, _, htable⟩ := hgives between hbetween
    exact h.readTable_excluding hbetween htable
  have hkeptRead : List.Forall₂
      (fun name table => Gives still (catalog.readTable settings schema.name name) table)
      (settings.keptTables listed) (schema.excluding settings).tables := by
    rw [GeneratorSettings.keptTables_eq_of_sublist hkept hsublist, Schema.excluding,
      List.forall₂_map_right_iff]
    refine (List.rel_filter ?_ hread).imp fun name table hboth => hboth.2
    rintro name table ⟨rfl, _⟩
    rfl
  intro start hstart
  obtain ⟨next, hnext, hnames⟩ := hlisted start hstart
  obtain ⟨last, hlast, htables⟩ := Gives.mapM hkeptRead next hnext
  exact ⟨last, hlast, readSchema_returns_iff.mpr ⟨hname, rfl, listed, next, hnames, htables⟩⟩

/-- Reading without the excluded tables and columns gives what is left of the whole database. -/
theorem readDatabase_excluding (homits : catalog.OmitsOnlyExcluded settings still)
    {world after : σ} {database : Database} (hworld : still world)
    (hread : (catalog.readDatabase settings.withoutExclusions).Returns world database after) :
    Gives still (catalog.readDatabase settings) (database.excluding settings) := by
  obtain ⟨hschemas, hprovider, hall⟩ := readDatabase_returns_iff.mp hread
  have hgives := forall₂_gives_of_returns_mapM
    (fun name _ => (h.readSchema name).inContext _) hworld hall
  have hread : List.Forall₂ (fun name schema =>
      Gives still ((catalog.readSchema settings name).inContext
        ("[" ++ catalog.name ++ "] failed reading schema " ++ name)) schema)
      settings.schemas (database.excluding settings).schemas := by
    rw [Database.excluding, List.forall₂_map_right_iff]
    apply ((List.forall₂_and_left _ _).mpr ⟨fun _ hname => hname, hgives⟩).imp
    rintro name schema ⟨hconfigured, hgives⟩
    obtain ⟨_, _, hschema⟩ := hgives world hworld
    rw [returns_inContext_iff] at hschema
    exact gives_inContext_iff.mpr (h.readSchema_excluding homits hconfigured hworld hschema)
  intro start hstart
  obtain ⟨last, hlast, hall⟩ := Gives.mapM hread start hstart
  exact ⟨last, hlast, readDatabase_returns_iff.mpr ⟨hschemas, hprovider, hall⟩⟩

end Steady

section Append

/-- The configured schemas do not matter to the reading of one schema. -/
lemma readSchema_withSchemas (schemas : List String) :
    catalog.readSchema { settings with schemas := schemas } = catalog.readSchema settings := by
  have hcolumns : ∀ schema table columns,
      (keepColumns { settings with schemas := schemas } schema table columns : Action σ _) =
        keepColumns settings schema table columns := by
    intro schema table columns
    induction columns with
    | nil => rfl
    | cons column rest ih =>
      rw [keepColumns, keepColumns, ih]
      rfl
  have htables : ∀ schema names,
      catalog.readTables { settings with schemas := schemas } schema names =
        catalog.readTables settings schema names := by
    intro schema names
    induction names with
    | nil => rfl
    | cons name rest ih =>
      simp only [readTables, Catalog.readTable, ih, hcolumns]
      rfl
  funext name
  simp only [Catalog.readSchema, htables]

/-- Reading schemas one after the other gives what reading them apart gives. -/
theorem readDatabase_append_returns_iff {xs ys : List String} (hxs : xs ≠ []) (hys : ys ≠ [])
    {world after : σ} {database : Database} :
    (catalog.readDatabase { settings with schemas := xs ++ ys }).Returns world database after ↔
      ∃ first second between,
        (catalog.readDatabase { settings with schemas := xs }).Returns world first between ∧
        (catalog.readDatabase { settings with schemas := ys }).Returns between second after ∧
        database = ⟨catalog.name, first.schemas ++ second.schemas⟩ := by
  simp only [readDatabase_returns_iff, readSchema_withSchemas, List.mapM_append, returns_bind_iff,
    returns_pure_iff]
  constructor
  · rintro ⟨_, hprovider, first, between, hfirst, second, last, hsecond, hschemas, rfl⟩
    refine ⟨⟨catalog.name, first⟩, ⟨catalog.name, second⟩, between, ⟨hxs, rfl, hfirst⟩,
      ⟨hys, rfl, hsecond⟩, ?_⟩
    rw [← hprovider, ← hschemas]
  · rintro ⟨first, second, between, ⟨_, _, hfirst⟩, ⟨_, _, hsecond⟩, rfl⟩
    exact ⟨by simp [hxs], rfl, _, _, hfirst, _, _, hsecond, rfl, rfl⟩

/-- In still worlds it does not matter which schemas are read first. -/
lemma Steady.readDatabase_append_iff (h : catalog.Steady still) {xs ys : List String}
    (hxs : xs ≠ []) (hys : ys ≠ []) {world : σ} (hworld : still world) {database : Database} :
    (∃ after, (catalog.readDatabase { settings with schemas := xs ++ ys }).Returns world database
        after) ↔
      ∃ first second,
        (∃ after, (catalog.readDatabase { settings with schemas := xs }).Returns world first after) ∧
        (∃ after, (catalog.readDatabase { settings with schemas := ys }).Returns world second
          after) ∧
        database = ⟨catalog.name, first.schemas ++ second.schemas⟩ := by
  simp only [readDatabase_append_returns_iff hxs hys]
  constructor
  · rintro ⟨after, first, second, between, hfirst, hsecond, heq⟩
    have hbetween := h.readDatabase.still_of_returns hworld hfirst
    obtain ⟨last, _, hsecond⟩ := h.readDatabase between second after hbetween hsecond world hworld
    exact ⟨first, second, ⟨between, hfirst⟩, ⟨last, hsecond⟩, heq⟩
  · rintro ⟨first, second, ⟨between, hfirst⟩, ⟨after, hsecond⟩, heq⟩
    have hbetween := h.readDatabase.still_of_returns hworld hfirst
    obtain ⟨last, _, hsecond⟩ := h.readDatabase world second after hworld hsecond between hbetween
    exact ⟨last, first, second, between, hfirst, hsecond, heq⟩

/-- Exclusion commutes with reading: when the answers of the catalog do not change, reading without
the excluded tables and columns gives what is left of the whole database. And reading composes over
schemas: two lists of schemas are read one after the other or, when the answers do not change,
apart. -/
theorem readDatabase_excluding_and_append (catalog : Catalog σ) (settings : GeneratorSettings) :
    (∀ still world, catalog.Steady still → still world →
      catalog.OmitsOnlyExcluded settings still → ∀ database after,
        (catalog.readDatabase settings.withoutExclusions).Returns world database after →
        ∃ after, (catalog.readDatabase settings).Returns world (database.excluding settings)
          after) ∧
    (∀ xs ys, xs ≠ [] → ys ≠ [] → ∀ world database after,
      (catalog.readDatabase { settings with schemas := xs ++ ys }).Returns world database after ↔
        ∃ first second between,
          (catalog.readDatabase { settings with schemas := xs }).Returns world first between ∧
          (catalog.readDatabase { settings with schemas := ys }).Returns between second after ∧
          database = ⟨catalog.name, first.schemas ++ second.schemas⟩) ∧
    ∀ still world, catalog.Steady still → still world →
      ∀ xs ys, xs ≠ [] → ys ≠ [] → ∀ database,
        (∃ after, (catalog.readDatabase { settings with schemas := xs ++ ys }).Returns world
            database after) ↔
          ∃ first second,
            (∃ after, (catalog.readDatabase { settings with schemas := xs }).Returns world first
              after) ∧
            (∃ after, (catalog.readDatabase { settings with schemas := ys }).Returns world second
              after) ∧
            database = ⟨catalog.name, first.schemas ++ second.schemas⟩ := by
  refine ⟨?_, ?_, ?_⟩
  · intro still world hsteady hworld homits database after hread
    obtain ⟨last, _, hexcluded⟩ :=
      hsteady.readDatabase_excluding homits hworld hread world hworld
    exact ⟨last, hexcluded⟩
  · intro xs ys hxs hys world database after
    exact readDatabase_append_returns_iff hxs hys
  · intro still world hsteady hworld xs ys hxs hys database
    exact hsteady.readDatabase_append_iff hxs hys hworld

end Append

end Catalog

namespace CatalogScript

/-- A script answers every query the same way, however often it is asked. -/
lemma steady (script : CatalogScript) : script.catalog.Steady fun _ => True := by
  have hanswer : ∀ {α : Type} (query : CatalogQuery) (rows : List α),
      Action.Steady (fun _ => True) (script.answer query rows) := by
    intro α query rows _ answer _ _ hreturns _ _
    exact ⟨(), trivial, hreturns⟩
  exact ⟨fun _ _ => hanswer _ _, fun _ _ => hanswer _ _, fun _ _ => hanswer _ _,
    fun _ _ => hanswer _ _⟩

lemma omitsOnlyExcluded (script : CatalogScript) :
    script.catalog.OmitsOnlyExcluded settings fun _ => True := by
  intro schema _ _ names _ _ hnames
  obtain ⟨hnone, rfl⟩ := returns_answer_iff.mp hnames
  refine ⟨_, fun _ _ => ⟨(), trivial, returns_answer_iff.mpr ⟨hnone, rfl⟩⟩, ?_, ?_⟩
  · cases script.dropsExcluded <;> simp [GeneratorSettings.keptTables, GeneratorSettings.excludesTable]
  · cases script.dropsExcluded <;> simp

end CatalogScript

namespace Catalog

/-- All of the parts, with their notes. -/
def wholeParts : Database := ⟨"sqlite", [⟨"shop", [
  .ofNames "shop" "part" ["id", "zip", "street", "note"] partKeys, .ofNames "shop" "note" ["id"] []]⟩]⟩

theorem readDatabase_excluding_and_append_parts :
    parts.catalog.Steady (fun _ => True) ∧
    parts.catalog.OmitsOnlyExcluded noNotes (fun _ => True) ∧
    (parts.catalog.readDatabase noNotes.withoutExclusions).Returns () wholeParts () ∧
    wholeParts.excluding noNotes = partsRead [] partKeys ∧
    (∃ after, (parts.catalog.readDatabase noNotes).Returns () (wholeParts.excluding noNotes) after) ∧
    ∃ first second,
      (∃ after, (parts.catalog.readDatabase { noNotes with schemas := ["shop"] }).Returns () first
        after) ∧
      (∃ after, (parts.catalog.readDatabase { noNotes with schemas := ["crm"] }).Returns () second
        after) ∧
      ⟨"sqlite", (partsRead [] partKeys).schemas ++ [⟨"crm", []⟩]⟩ =
        (⟨"sqlite", first.schemas ++ second.schemas⟩ : Database) := by
  have hread : (parts.catalog.readDatabase noNotes.withoutExclusions).Returns () wholeParts () := rfl
  obtain ⟨hexcluding, _, happend⟩ := readDatabase_excluding_and_append parts.catalog noNotes
  refine ⟨parts.steady, parts.omitsOnlyExcluded, hread, by decide, ?_, ?_⟩
  · exact hexcluding _ () parts.steady trivial parts.omitsOnlyExcluded wholeParts () hread
  · exact (happend _ () parts.steady trivial ["shop"] ["crm"] (by decide) (by decide) _).mp ⟨(), rfl⟩

end Catalog

end RelProto
