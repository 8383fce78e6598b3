import RelProto.Proofs.Reading.FirstFailure

/-! What reading a database can fail with. If everything that is configured or listed has a name, it
fails only where the catalog does, or where its rows cannot be grouped. -/
namespace RelProto

open RelProto.Action

variable {σ : Type} {P : Fault → Prop}

namespace Catalog

/-- All failures of the catalog's own are of this kind. -/
structure FailsOnly (P : Fault → Prop) (catalog : Catalog σ) : Prop where
  tables : ∀ schema excluded, Action.FailsOnly P (catalog.tables schema excluded)
  columns : ∀ schema table, Action.FailsOnly P (catalog.columns schema table)
  indexRows : ∀ schema table, Action.FailsOnly P (catalog.indexRows schema table)
  foreignKeyRows : ∀ schema table, Action.FailsOnly P (catalog.foreignKeyRows schema table)

/-- No table without a name is listed. -/
def ListsNamed (catalog : Catalog σ) (settings : GeneratorSettings) : Prop :=
  ∀ schema world names after,
    (catalog.tables schema settings.excludedTables).Returns world names after →
    ∀ name ∈ names, name ≠ ""

end Catalog

lemma CatalogScript.failsOnly {script : CatalogScript}
    (h : ∀ query fault, script.failure? query = some fault → P fault) :
    script.catalog.FailsOnly P := by
  have hanswer : ∀ {α : Type} (query : CatalogQuery) (rows : List α),
      Action.FailsOnly P (script.answer query rows) := by
    intro α query rows
    rw [answer]
    rcases hfailure : script.failure? query with _ | fault
    · exact .pure rows
    · exact .throw (h query fault hfailure)
  exact ⟨fun _ _ => hanswer _ _, fun _ _ => hanswer _ _, fun _ _ => hanswer _ _,
    fun _ _ => hanswer _ _⟩

lemma CatalogScript.listsNamed {script : CatalogScript} {settings : GeneratorSettings}
    (h : ∀ schema, ∀ name ∈ script.tables schema, name ≠ "") :
    script.catalog.ListsNamed settings := by
  intro schema _ names _ hnames name hname
  obtain ⟨_, rfl⟩ := returns_answer_iff.mp hnames
  split at hname
  · exact h schema name (List.mem_of_mem_filter hname)
  · exact h schema name hname

/-- Rows that cannot be grouped are reported as such. -/
lemma failsOnly_of_grouping {κ α : Type} [Text.Literal κ] {x : Except (Reopened κ) α}
    (h : ∀ key, P (.of (.invalidCatalogOrder key))) :
    FailsOnly P (Action.ofExcept (x.mapError Reopened.fault) : Action σ α) := by
  refine .ofExcept ?_
  rcases x with reopened | a
  · rintro _ ⟨⟩
    exact h _
  · nofun

namespace ReadStep

variable {catalog : Catalog σ} {settings : GeneratorSettings} {step : ReadStep}

/-- Neither the schema nor the table of the step is without a name. -/
structure Named (step : ReadStep) : Prop where
  schema : ∀ schema, step.schema? = some schema → schema ≠ ""
  table : ∀ table, step.table? = some table → table ≠ ""

lemma Named.of_tableless (h : ∀ schema, step.schema? = some schema → schema ≠ "")
    (htable : step.table? = none) : step.Named where
  schema := h
  table := by simp [htable]

lemma named_schemaList : schemaList.Named := .of_tableless nofun rfl

/-- Named schemas and tables are all that comes up if no other ones are configured or listed. -/
theorem named_of_perform (hschemas : ∀ name ∈ settings.schemas, name ≠ "")
    (hlists : catalog.ListsNamed settings) (hstep : step.Named) {world after : σ}
    {due : List ReadStep} (h : (step.perform catalog settings).Returns world due after) :
    ∀ next ∈ due, next.Named := by
  cases step with
  | schemaList =>
    obtain ⟨_, rfl, _⟩ := returns_check_iff.mp h
    rw [List.forall_mem_map]
    intro name hname
    exact .of_tableless (by simpa [schema?] using hschemas name hname) rfl
  | schemaName schema =>
    obtain ⟨_, rfl, _⟩ := returns_check_iff.mp h
    exact List.forall_mem_singleton.mpr (.of_tableless hstep.schema rfl)
  | tables schema =>
    obtain ⟨names, _, hnames, hdue⟩ := returns_bind_iff.mp h
    obtain ⟨rfl, _⟩ := returns_pure_iff.mp hdue
    rw [List.forall_mem_map]
    intro name hname
    have hlisted := (GeneratorSettings.mem_keptTables.mp hname).1
    exact ⟨hstep.schema, by simpa [table?] using hlists _ _ _ _ hnames name hlisted⟩
  | tableName schema table =>
    obtain ⟨_, rfl, _⟩ := returns_check_iff.mp h
    exact List.forall_mem_singleton.mpr ⟨hstep.schema, hstep.table⟩
  | columns schema table | indexRows schema table | indexes schema table rows
  | foreignKeyRows schema table =>
    obtain ⟨_, _, _, hdue⟩ := returns_bind_iff.mp h
    obtain ⟨rfl, _⟩ := returns_pure_iff.mp hdue
    exact List.forall_mem_singleton.mpr ⟨hstep.schema, hstep.table⟩
  | relations schema table rows =>
    obtain ⟨_, _, _, hdue⟩ := returns_bind_iff.mp h
    obtain ⟨rfl, _⟩ := returns_pure_iff.mp hdue
    exact List.forall_mem_nil _

/-- A step about what has a name fails only where the catalog does, or the grouping of its rows. -/
theorem failsOnly_perform (hcatalog : catalog.FailsOnly P)
    (hgrouping : ∀ key, P (.of (.invalidCatalogOrder key))) (hlisted : settings.schemas ≠ [])
    (hstep : step.Named) : FailsOnly P (step.perform catalog settings) := by
  cases step with
  | schemaList =>
    rw [perform, if_neg (by simpa using hlisted)]
    exact .pure _
  | schemaName schema =>
    rw [perform, if_neg (by simpa using hstep.schema schema rfl)]
    exact .pure _
  | tables schema => exact (hcatalog.tables schema _).bind_pure _
  | tableName schema table =>
    have hschema := hstep.schema schema rfl
    have htable := hstep.table table rfl
    rw [perform, if_neg (by simp [hschema, htable])]
    exact .pure _
  | columns schema table => exact (hcatalog.columns schema table).bind_pure _
  | indexRows schema table => exact (hcatalog.indexRows schema table).bind_pure _
  | indexes schema table rows => exact (failsOnly_of_grouping hgrouping).bind_pure _
  | foreignKeyRows schema table => exact (hcatalog.foreignKeyRows schema table).bind_pure _
  | relations schema table rows => exact (failsOnly_of_grouping hgrouping).bind_pure _

end ReadStep

/-- Reading what is configured with names fails only where the catalog does, or the grouping of its
rows, apart from contexts. -/
theorem Catalog.failsOnly_readDatabase {catalog : Catalog σ} {settings : GeneratorSettings}
    (hlisted : settings.schemas ≠ []) (hschemas : ∀ name ∈ settings.schemas, name ≠ "")
    (hlists : catalog.ListsNamed settings) (hcatalog : catalog.FailsOnly P)
    (hgrouping : ∀ key, P (.of (.invalidCatalogOrder key)))
    (hcontext : ∀ (step : ReadStep) cause, P cause → P (step.report catalog.name cause)) :
    Action.FailsOnly P (catalog.readDatabase settings) := by
  intro world fault after hfails
  obtain ⟨performed, step, cause, hwalk, rfl⟩ := outcome_readDatabase_eq_error_iff.mp hfails
  have hnamed : step.Named := by
    refine hwalk.forall_performed ?_ (List.forall_mem_singleton.mpr ReadStep.named_schemaList) step
      (by simp)
    intro _ _ _ _ hstep
    exact ReadStep.named_of_perform hschemas hlists hstep
  obtain ⟨before, hcause⟩ := hwalk.exists_outcome
  exact hcontext step cause
    (ReadStep.failsOnly_perform hcatalog hgrouping hlisted hnamed before cause after hcause)

end RelProto
