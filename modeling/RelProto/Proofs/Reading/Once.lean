import RelProto.Config.Rules
import RelProto.Proofs.Output.Generation
import RelProto.Proofs.Reading.FirstFailure

/-! How often a run asks and writes. The schemas of a database are the configured ones, so that they
can be told apart exactly if none is configured twice; and exactly then no question is put to the
catalog twice. Every file is written once exactly if schemas of one name have no table in common. -/
namespace RelProto

open RelProto.Action

namespace CatalogQuery

/-- The schema that the query is about, or that holds its table. -/
def schema : CatalogQuery → String
  | tables schema | columns schema _ | indexRows schema _ | foreignKeyRows schema _ => schema

/-- The schema whose tables are to be listed. -/
def listing? : CatalogQuery → Option String
  | tables schema => some schema
  | columns _ _ | indexRows _ _ | foreignKeyRows _ _ => none

lemma listing?_eq_some_iff {query : CatalogQuery} {schema : String} :
    query.listing? = some schema ↔ query = .tables schema := by
  cases query <;> simp [listing?]

end CatalogQuery

namespace ReadStep

/-- The queries that are made in the step or may become due because of it. -/
def Covers : ReadStep → CatalogQuery → Prop
  | schemaList, _ => True
  | schemaName schema, query | tables schema, query => query.schema = schema
  | tableName schema table, query | columns schema table, query =>
    query = .columns schema table ∨ query = .indexRows schema table ∨
      query = .foreignKeyRows schema table
  | indexRows schema table, query =>
    query = .indexRows schema table ∨ query = .foreignKeyRows schema table
  | indexes schema table _, query | foreignKeyRows schema table, query =>
    query = .foreignKeyRows schema table
  | relations _ _ _, _ => False

/-- No query comes from both steps. -/
def Apart (step other : ReadStep) : Prop := ∀ query, step.Covers query → ¬ other.Covers query

/-- The schemas whose tables get listed because of the step. -/
def listings (settings : GeneratorSettings) : ReadStep → List String
  | schemaList => settings.schemas
  | schemaName schema | tables schema => [schema]
  | tableName _ _ | columns _ _ | indexRows _ _ | indexes _ _ _ | foreignKeyRows _ _
  | relations _ _ _ => []

lemma covers_of_query? {step : ReadStep} {query : CatalogQuery} (h : step.query? = some query) :
    step.Covers query := by
  cases step <;> cases h <;> simp [Covers, CatalogQuery.schema]

lemma apart_schemaNames {schemas : List String} (h : schemas.Nodup) :
    (schemas.map schemaName).Pairwise Apart := by
  rw [List.pairwise_map]
  refine h.imp ?_
  rintro schema other hne query rfl hother
  exact hne hother

lemma apart_tableNames (schema : String) {tables : List String} (h : tables.Nodup) :
    (tables.map (tableName schema)).Pairwise Apart := by
  rw [List.pairwise_map]
  refine h.imp ?_
  rintro table other hne query (rfl | rfl | rfl) hother <;> simp_all [Covers]

end ReadStep

namespace Catalog

variable {σ : Type} {catalog : Catalog σ} {settings : GeneratorSettings}

/-- No answer lists a table twice. -/
def ListsOnce (catalog : Catalog σ) (settings : GeneratorSettings) : Prop :=
  ∀ schema world names after,
    (catalog.tables schema settings.excludedTables).Returns world names after → names.Nodup

/-- What becomes due in a step is part of what the step covers, has nothing in common, and does not
repeat the step's own query. -/
theorem apart_of_perform (hlists : catalog.ListsOnce settings) (hschemas : settings.schemas.Nodup)
    {step : ReadStep} {world after : σ} {due : List ReadStep}
    (h : (step.perform catalog settings).Returns world due after) :
    due.Pairwise ReadStep.Apart ∧ ∀ next ∈ due, ∀ query, next.Covers query →
      step.Covers query ∧ step.query? ≠ some query := by
  cases step with
  | schemaList =>
    obtain ⟨_, rfl, _⟩ := returns_check_iff.mp h
    exact ⟨ReadStep.apart_schemaNames hschemas, fun _ _ _ _ => ⟨trivial, nofun⟩⟩
  | schemaName schema =>
    obtain ⟨_, rfl, _⟩ := returns_check_iff.mp h
    simp [ReadStep.Covers, ReadStep.query?]
  | tables schema =>
    obtain ⟨names, _, hnames, hdue⟩ := returns_bind_iff.mp h
    obtain ⟨rfl, _⟩ := returns_pure_iff.mp hdue
    constructor
    · exact ReadStep.apart_tableNames schema ((hlists schema _ _ _ hnames).filter _)
    · rw [List.forall_mem_map]
      rintro name _ query (rfl | rfl | rfl) <;>
        simp [ReadStep.Covers, ReadStep.query?, CatalogQuery.schema]
  | tableName schema table =>
    obtain ⟨_, rfl, _⟩ := returns_check_iff.mp h
    simp [ReadStep.Covers, ReadStep.query?]
  | columns schema table | indexRows schema table | indexes schema table rows
  | foreignKeyRows schema table =>
    obtain ⟨_, _, _, hdue⟩ := returns_bind_iff.mp h
    obtain ⟨rfl, _⟩ := returns_pure_iff.mp hdue
    simp +contextual [ReadStep.Covers, ReadStep.query?, eq_comm]
  | relations schema table rows =>
    obtain ⟨_, _, _, hdue⟩ := returns_bind_iff.mp h
    obtain ⟨rfl, _⟩ := returns_pure_iff.mp hdue
    simp

/-- A step lists a schema, or hands the listing on to the steps that become due. -/
theorem listings_of_perform {step : ReadStep} {world after : σ} {due : List ReadStep}
    (h : (step.perform catalog settings).Returns world due after) :
    (step.query?.bind CatalogQuery.listing?).toList ++ due.flatMap (ReadStep.listings settings) =
      step.listings settings := by
  cases step with
  | schemaList | schemaName schema | tableName schema table =>
    obtain ⟨_, rfl, _⟩ := returns_check_iff.mp h
    simp [ReadStep.listings, ReadStep.query?, List.flatMap_map]
  | tables schema | columns schema table | indexRows schema table | indexes schema table rows
  | foreignKeyRows schema table | relations schema table rows =>
    obtain ⟨_, _, _, hdue⟩ := returns_bind_iff.mp h
    obtain ⟨rfl, _⟩ := returns_pure_iff.mp hdue
    simp [ReadStep.listings, ReadStep.query?, CatalogQuery.listing?, List.flatMap_map]

namespace Walk

variable {steps performed : List ReadStep} {failure? : Option (ReadStep × Fault)} {world after : σ}

/-- Steps that have nothing in common lead to no query twice. -/
theorem nodup_queries (hlists : catalog.ListsOnce settings) (hschemas : settings.schemas.Nodup)
    (h : catalog.Walk settings steps world performed failure? after)
    (hsteps : steps.Pairwise ReadStep.Apart) :
    (performed.filterMap ReadStep.query?).Nodup ∧
      ∀ query ∈ performed.filterMap ReadStep.query?, ∃ step ∈ steps, step.Covers query := by
  induction h with
  | done => simp
  | @next step due later _ _ performed _ _ hstep _ ih =>
    obtain ⟨hfirst, hlater⟩ := List.pairwise_cons.mp hsteps
    obtain ⟨hdue, hcovered⟩ := apart_of_perform hlists hschemas hstep
    have hcross : ∀ next ∈ due, ∀ other ∈ later, ReadStep.Apart next other := by
      intro next hnext other hother query hquery
      exact hfirst other hother query (hcovered next hnext query hquery).1
    obtain ⟨hnodup, hfrom⟩ := ih (List.pairwise_append.mpr ⟨hdue, hlater, hcross⟩)
    have hrest : ∀ query ∈ performed.filterMap ReadStep.query?,
        ∃ other ∈ step :: later, other.Covers query := by
      intro query hquery
      obtain ⟨other, hother, hcovers⟩ := hfrom query hquery
      obtain hother | hother := List.mem_append.mp hother
      · exact ⟨step, List.mem_cons_self, (hcovered other hother query hcovers).1⟩
      · exact ⟨other, List.mem_cons_of_mem _ hother, hcovers⟩
    rcases hown : step.query? with _ | own
    · rw [List.filterMap_cons_none hown]
      exact ⟨hnodup, hrest⟩
    · rw [List.filterMap_cons_some hown, List.nodup_cons, List.forall_mem_cons]
      have hcovers := ReadStep.covers_of_query? hown
      refine ⟨⟨?_, hnodup⟩, ⟨step, List.mem_cons_self, hcovers⟩, hrest⟩
      intro hagain
      obtain ⟨other, hother, hother'⟩ := hfrom own hagain
      obtain hother | hother := List.mem_append.mp hother
      · exact (hcovered other hother own hother').2 hown
      · exact hfirst other hother own hcovers hother'
  | @fails step _ _ _ _ _ =>
    rcases hown : step.query? with _ | own
    · simp [hown]
    · have hcovers := ReadStep.covers_of_query? hown
      simpa [hown] using .inl hcovers

/-- A walk that is done has listed what its steps list, in their order. -/
theorem listings (h : catalog.Walk settings steps world performed none after) :
    (performed.filterMap ReadStep.query?).filterMap CatalogQuery.listing? =
      steps.flatMap (ReadStep.listings settings) := by
  generalize hend : (none : Option (ReadStep × Fault)) = failure? at h
  induction h with
  | done => rfl
  | @next step due later _ _ performed _ _ hstep _ ih =>
    rw [List.flatMap_cons, ← listings_of_perform hstep, List.append_assoc, ← List.flatMap_append,
      ← ih hend, List.filterMap_cons]
    rcases step.query? with _ | query
    · rfl
    · rw [List.filterMap_cons, Option.bind_some]
      rcases query.listing? with _ | schema <;> rfl
  | fails _ => contradiction

end Walk

section Read

variable {world after : σ} {database : Database}
  (hread : (catalog.readDatabase settings).Returns world database after)
include hread

/-- Reading asks nothing twice exactly if no schema is configured twice. -/
theorem nodup_queries_iff (hlists : catalog.ListsOnce settings) :
    ((catalog.recorded.readDatabase settings).outcome ([], world)).2.1.Nodup ↔
      settings.schemas.Nodup := by
  obtain ⟨performed, failure?, after', hwalk, hqueries⟩ := catalog.exists_queries settings world
  rw [hqueries]
  constructor
  · intro hnodup
    rcases failure? with _ | ⟨step, cause⟩
    · have hlisted := hwalk.listings
      rw [List.flatMap_singleton, ReadStep.listings] at hlisted
      rw [← hlisted]
      refine hnodup.filterMap ?_
      intro query other schema hquery hother
      rw [Option.mem_def, CatalogQuery.listing?_eq_some_iff] at hquery hother
      rw [hquery, hother]
    · rw [Returns, outcome_of_walk hwalk] at hread
      cases hread
  · intro hschemas
    exact (hwalk.nodup_queries hlists hschemas (List.pairwise_singleton _ _)).1

/-- The tables of a schema have names of their own. -/
lemma nodup_tables (hlists : catalog.ListsOnce settings) {schema : Schema}
    (hschema : schema ∈ database.schemas) : (schema.tables.map (·.name)).Nodup := by
  obtain ⟨before, names, between, hnames, htables⟩ := exists_map_name_tables hread hschema
  rw [htables]
  exact (hlists schema.name before names between hnames).filter _

end Read

end Catalog

/-- A catalog of tables that can be told apart lists none twice. -/
lemma CatalogScript.listsOnce_ofTables {tables : List Table}
    (h : (tables.map fun table => (table.schema, table.name)).Nodup)
    (settings : GeneratorSettings) : (ofTables tables).catalog.ListsOnce settings := by
  intro schema _ names _ hnames
  obtain ⟨_, rfl⟩ := returns_answer_iff.mp hnames
  have hkeys : ((tables.filter (·.schema = schema)).map (·.name)).map (Prod.mk schema) =
      (tables.filter (·.schema = schema)).map fun table => (table.schema, table.name) := by
    rw [List.map_map]
    refine List.map_congr_left ?_
    intro table htable
    have hschema : table.schema = schema := by simpa using (List.mem_filter.mp htable).2
    rw [Function.comp_apply, hschema]
  refine List.Nodup.of_map (Prod.mk schema) ?_
  refine hkeys ▸ ?_
  exact h.sublist (List.filter_sublist.map _)

namespace Database

/-- The schemas of one name have no table in common. -/
def Apart (database : Database) : Prop :=
  database.schemas.Pairwise fun schema other => schema.name = other.name →
    (schema.tables.map (·.name)).Disjoint (other.tables.map (·.name))

lemma apart_of_nodup {database : Database} (h : (database.schemas.map (·.name)).Nodup) :
    database.Apart := by
  rw [List.Nodup, List.pairwise_map] at h
  exact h.imp fun hne hsame => absurd hsame hne

variable {database : Database}

/-- A table is listed once under its names. -/
lemma nodup_names_iff_apart
    (htables : ∀ schema ∈ database.schemas, (schema.tables.map (·.name)).Nodup) :
    (database.listed.map fun entry => (entry.1.name, entry.2.name)).Nodup ↔ database.Apart := by
  have hkeys : (database.listed.map fun entry => (entry.1.name, entry.2.name)) =
      database.schemas.flatMap fun schema =>
        (schema.tables.map (·.name)).map (Prod.mk schema.name) := by
    rw [listed, List.map_flatMap]
    congr 1
    funext schema
    rw [List.map_map, List.map_map]
    rfl
  have hdisjoint : ∀ schema other : Schema,
      ((schema.tables.map (·.name)).map (Prod.mk schema.name)).Disjoint
        ((other.tables.map (·.name)).map (Prod.mk other.name)) ↔
      (schema.name = other.name →
        (schema.tables.map (·.name)).Disjoint (other.tables.map (·.name))) := by
    intro schema other
    constructor
    · intro h hsame name hname hname'
      refine h (List.mem_map.mpr ⟨name, hname, rfl⟩) ?_
      rw [hsame]
      exact List.mem_map.mpr ⟨name, hname', rfl⟩
    · intro h key hkey hkey'
      obtain ⟨name, hname, rfl⟩ := List.mem_map.mp hkey
      obtain ⟨name', hname', hpair⟩ := List.mem_map.mp hkey'
      obtain ⟨hschema, rfl⟩ := Prod.mk.inj hpair
      exact h hschema.symm hname hname'
  rw [hkeys, List.nodup_flatMap, Apart]
  constructor
  · rintro ⟨_, hpairs⟩
    exact hpairs.imp fun h => (hdisjoint _ _).mp h
  · intro hpairs
    refine ⟨fun schema hschema => ?_, hpairs.imp fun h => (hdisjoint _ _).mpr h⟩
    exact (htables schema hschema).map (Prod.mk_right_injective schema.name)

/-- A run that succeeds writes to no path twice exactly if the schemas of one name have no table in
common, provided that no name has a slash. -/
theorem nodup_written_iff
    (htables : ∀ schema ∈ database.schemas, (schema.tables.map (·.name)).Nodup)
    (hslashless : database.Slashless) {proto : ProtoSettings} {embed : Bool} {root : String}
    {tree after : FileTree} {paths : List String}
    (h : (database.generate proto embed root).Returns tree paths after) :
    paths.Nodup ↔ database.Apart := by
  obtain ⟨_, rfl⟩ := OutputStep.performAll_returns_iff.mp h
  rw [OutputStep.filterMap_path?_ofDatabase, ← nodup_names_iff_apart htables]
  constructor
  · intro hpaths
    refine List.Nodup.of_map
      (fun key => Path.ofTable (Path.join root proto.path) key.1 key.2) ?_
    rw [List.map_map]
    exact hpaths
  · intro hnames
    exact nodup_paths hslashless hnames _

end Database

namespace Catalog

variable {σ : Type} {catalog : Catalog σ} {settings : GeneratorSettings}

/-- The schemas of a database can be told apart, nothing is asked twice and no file is written twice
exactly if each schema is configured once; for the files it is enough that the schemas of one name
have no table in common. -/
theorem reads_once_iff {world after : σ} {database : Database}
    (hread : (catalog.readDatabase settings).Returns world database after) :
    ((database.schemas.map (·.name)).Nodup ↔ settings.schemas.Nodup) ∧
    (settings.schemas.Nodup → database.Apart) ∧
    (catalog.ListsOnce settings →
      (((catalog.recorded.readDatabase settings).outcome ([], world)).2.1.Nodup ↔
        settings.schemas.Nodup) ∧
      (database.Slashless → ∀ proto embed root tree paths after,
        (database.generate proto embed root).Returns tree paths after →
        (paths.Nodup ↔ database.Apart))) := by
  have hnames := map_name_schemas hread
  refine ⟨by rw [hnames], ?_, ?_⟩
  · intro hnodup
    rw [← hnames] at hnodup
    exact Database.apart_of_nodup hnodup
  · intro hlists
    refine ⟨nodup_queries_iff hread hlists, ?_⟩
    intro hslashless proto embed root tree paths after hgenerate
    have htables : ∀ schema ∈ database.schemas, (schema.tables.map (·.name)).Nodup :=
      fun _ hschema => nodup_tables hread hlists hschema
    exact Database.nodup_written_iff htables hslashless hgenerate

end Catalog

namespace Database

/-- With two schemas, each configured once, everything is read and written once. -/
theorem reads_once_customers :
    ((customers "address").schemas.map (·.name)).Nodup ∧
    (((customersCatalog "address").recorded.readDatabase crmAndShop).outcome ([], ())).2.1.Nodup ∧
    ∀ proto embed root tree paths after,
      ((customers "address").generate proto embed root).Returns tree paths after → paths.Nodup := by
  have hread : ((customersCatalog "address").readDatabase crmAndShop).Returns ()
      (customers "address") () := rfl
  have hconfigured : crmAndShop.schemas.Nodup := by decide
  obtain ⟨hschemas, hapart, honce⟩ := Catalog.reads_once_iff hread
  have hlists : (customersCatalog "address").ListsOnce crmAndShop :=
    CatalogScript.listsOnce_ofTables (by decide) crmAndShop
  obtain ⟨hqueries, hpaths⟩ := honce hlists
  refine ⟨hschemas.mpr hconfigured, hqueries.mpr hconfigured, ?_⟩
  intro proto embed root tree paths after hgenerate
  exact (hpaths (by decide) proto embed root tree paths after hgenerate).mpr (hapart hconfigured)

/-- A configuration that names one schema twice. -/
def shopTwice : Config where
  database := { provider := some .sqlite, database := "app.db" }
  output := { path := "out" }
  generator := { schemas := ["shop", "shop"] }

def shopCatalog : Catalog Unit :=
  (CatalogScript.ofTables [addressTable "address"]).catalog

/-- The same schema twice. -/
def shops : Database :=
  ⟨"sqlite", [⟨"shop", [addressTable "address"]⟩, ⟨"shop", [addressTable "address"]⟩]⟩

theorem not_reads_once_shopTwice :
    shopTwice.validate = .ok () ∧ shopCatalog.ListsOnce shopTwice.generator ∧
    (shopCatalog.readDatabase shopTwice.generator).Returns () shops () ∧
    ¬ (shops.schemas.map (·.name)).Nodup ∧
    ¬ ((shopCatalog.recorded.readDatabase shopTwice.generator).outcome ([], ())).2.1.Nodup ∧
    ∃ paths after, (shops.generate shopTwice.proto shopTwice.generator.embedRelationships
      shopTwice.output.path).Returns .empty paths after ∧ ¬ paths.Nodup := by
  have hread : (shopCatalog.readDatabase shopTwice.generator).Returns () shops () := rfl
  have hlists : shopCatalog.ListsOnce shopTwice.generator :=
    CatalogScript.listsOnce_ofTables (by decide) shopTwice.generator
  have hgenerate : (shops.generate shopTwice.proto false "out").Returns .empty
      ["out/proto/shop/address.proto", "out/proto/shop/address.proto"]
      (shops.generate shopTwice.proto false "out" .empty).2 := by
    apply returns_of_result_eq
    decide +kernel
  refine ⟨rfl, hlists, hread, by decide, ?_, _, _, hgenerate, by decide⟩
  rw [Catalog.nodup_queries_iff hread hlists]
  decide

end Database

end RelProto
