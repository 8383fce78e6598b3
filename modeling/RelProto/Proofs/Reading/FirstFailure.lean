import RelProto.Proofs.Fault
import RelProto.Proofs.Reading.Exclusion
import RelProto.Proofs.Reading.Walk

/-! Reading a database ends with the first step that fails: nothing is asked afterwards, and the
reported fault is that step's failure, in the same categories, with a text that says where it
happened. Excluded tables are never asked about. -/
namespace RelProto

open RelProto.Action

/-- The table, without its schema, that the query is about. -/
def CatalogQuery.table? : CatalogQuery → Option String
  | tables _ => none
  | columns _ table | indexRows _ table | foreignKeyRows _ table => some table

namespace Catalog.recorded

variable {σ α β : Type}

/-- Taking notes changes no answer. -/
lemma outcome_noting (query : CatalogQuery) (action : Action σ α)
    (queries : List CatalogQuery) (world : σ) :
    (noting query action).outcome (queries, world) =
      ((action.outcome world).1, queries ++ [query], (action.outcome world).2) := rfl

lemma outcome_noting_bind_pure (query : CatalogQuery) (action : Action σ α) (g : α → β)
    (queries : List CatalogQuery) (world : σ) :
    (noting query action >>= fun a => pure (g a)).outcome (queries, world) =
      (((action >>= fun a => pure (g a)).outcome world).1, queries ++ [query],
        ((action >>= fun a => pure (g a)).outcome world).2) := by
  rw [outcome_bind, outcome_bind, outcome_noting]
  rcases action.outcome world with ⟨fault | a, after⟩ <;> rfl

end Catalog.recorded

namespace ReadStep

/-- What a report says before the text of the failure itself. -/
def preamble (provider : String) (step : ReadStep) : String :=
  (step.schemaContext? provider).elim "" (· ++ ": ") ++ step.activity?.elim "" (· ++ ": ")

theorem message_report (provider : String) (step : ReadStep) (cause : Fault) :
    (step.report provider cause).message = step.preamble provider ++ cause.message := by
  rw [report, contexts, preamble]
  cases step.schemaContext? provider <;> cases step.activity? <;>
    simp [Fault.message_context, String.append_assoc]

theorem isA_report (provider : String) (step : ReadStep) (cause : Fault)
    (category : Fault.Category) :
    (step.report provider cause).isA category = cause.isA category :=
  Fault.isA_foldl_context (step.contexts provider) cause category

/-- The step is not about an excluded table. -/
def Kept (settings : GeneratorSettings) (step : ReadStep) : Prop :=
  ∀ table, step.table? = some table → settings.excludesTable table = false

lemma table?_of_query? {step : ReadStep} {query : CatalogQuery} (h : step.query? = some query) :
    query.table? = step.table? := by
  cases step <;> cases h <;> rfl

variable {σ : Type} {catalog : Catalog σ} {settings : GeneratorSettings} {step : ReadStep}

/-- Only a listing makes the first step of a table due, and it leaves out excluded ones; the further
steps are about the same table. -/
theorem kept_of_perform (hstep : step.Kept settings) {world after : σ} {due : List ReadStep}
    (h : (step.perform catalog settings).Returns world due after) :
    ∀ next ∈ due, next.Kept settings := by
  cases step with
  | schemaList =>
    obtain ⟨_, rfl, _⟩ := returns_check_iff.mp h
    simp [Kept, table?]
  | schemaName schema =>
    obtain ⟨_, rfl, _⟩ := returns_check_iff.mp h
    simp [Kept, table?]
  | tables schema =>
    obtain ⟨names, _, _, hdue⟩ := returns_bind_iff.mp h
    obtain ⟨rfl, _⟩ := returns_pure_iff.mp hdue
    rw [List.forall_mem_map]
    intro name hname
    simpa [Kept, table?] using (GeneratorSettings.mem_keptTables.mp hname).2
  | tableName schema table =>
    obtain ⟨_, rfl, _⟩ := returns_check_iff.mp h
    simpa [Kept, table?] using hstep
  | columns schema table | indexRows schema table | indexes schema table rows
  | foreignKeyRows schema table =>
    obtain ⟨_, _, _, hdue⟩ := returns_bind_iff.mp h
    obtain ⟨rfl, _⟩ := returns_pure_iff.mp hdue
    simpa [Kept, table?] using hstep
  | relations schema table rows =>
    obtain ⟨_, _, _, hdue⟩ := returns_bind_iff.mp h
    obtain ⟨rfl, _⟩ := returns_pure_iff.mp hdue
    simp

/-- A step notes the query that it makes, and comes to the same as without the notes. -/
theorem outcome_perform_recorded (catalog : Catalog σ) (settings : GeneratorSettings)
    (step : ReadStep) (queries : List CatalogQuery) (world : σ) :
    (step.perform catalog.recorded settings).outcome (queries, world) =
      (((step.perform catalog settings).outcome world).1, queries ++ step.query?.toList,
        ((step.perform catalog settings).outcome world).2) := by
  cases step with
  | tables schema | columns schema table | indexRows schema table | foreignKeyRows schema table =>
    exact Catalog.recorded.outcome_noting_bind_pure _ _ _ queries world
  | schemaList | schemaName schema | tableName schema table =>
    rw [perform, perform]
    split_ifs <;> simp [query?]
  | indexes schema table rows =>
    simp only [perform, outcome_bind, outcome_ofExcept]
    cases indexesOf schema table rows <;> simp [query?]
  | relations schema table rows =>
    simp only [perform, outcome_bind, outcome_ofExcept]
    cases relationsOf rows <;> simp [query?]

end ReadStep

namespace Catalog

variable {σ : Type} {catalog : Catalog σ} {settings : GeneratorSettings}

namespace Walk

variable {steps performed : List ReadStep} {failure? : Option (ReadStep × Fault)} {world after : σ}

/-- What holds of the due steps, and of all that become due because of such a step, holds of all
that are performed. -/
theorem forall_performed {P : ReadStep → Prop}
    (hperform : ∀ step world due after, P step →
      (step.perform catalog settings).Returns world due after → ∀ next ∈ due, P next)
    (h : catalog.Walk settings steps world performed failure? after) (hsteps : ∀ step ∈ steps, P step) :
    ∀ step ∈ performed, P step := by
  induction h with
  | done => exact hsteps
  | next hstep _ ih =>
    obtain ⟨hfirst, hlater⟩ := List.forall_mem_cons.mp hsteps
    have hdue := hperform _ _ _ _ hfirst hstep
    exact List.forall_mem_cons.mpr ⟨hfirst, ih (List.forall_mem_append.mpr ⟨hdue, hlater⟩)⟩
  | fails _ => exact List.forall_mem_singleton.mpr (hsteps _ List.mem_cons_self)

/-- A walk without steps about excluded tables performs none. -/
theorem kept (h : catalog.Walk settings steps world performed failure? after)
    (hsteps : ∀ step ∈ steps, step.Kept settings) : ∀ step ∈ performed, step.Kept settings :=
  forall_performed (fun _ _ _ _ hstep => ReadStep.kept_of_perform hstep) h hsteps

/-- The same walk with notes, which list the queries of its steps. -/
theorem recorded (h : catalog.Walk settings steps world performed failure? after)
    (queries : List CatalogQuery) :
    catalog.recorded.Walk settings steps (queries, world) performed failure?
      (queries ++ performed.filterMap ReadStep.query?, after) := by
  have hnoted : ∀ (step : ReadStep) (performed : List ReadStep) (queries : List CatalogQuery),
      queries ++ (step :: performed).filterMap ReadStep.query? =
        (queries ++ step.query?.toList) ++ performed.filterMap ReadStep.query? := by
    intro step performed queries
    rw [List.append_assoc, List.filterMap_cons]
    cases step.query? <;> rfl
  induction h generalizing queries with
  | done =>
    rw [List.filterMap_nil, List.append_nil]
    exact done
  | next hstep _ ih =>
    rw [hnoted]
    refine next ?_ (ih _)
    rw [Returns, ReadStep.outcome_perform_recorded, hstep]
  | fails hstep =>
    rw [hnoted, List.filterMap_nil, List.append_nil]
    apply fails
    rw [ReadStep.outcome_perform_recorded, hstep]

end Walk

/-- Reading ends where the walk from the list of schemas does. -/
theorem outcome_of_walk {world after : σ} {performed : List ReadStep}
    {failure? : Option (ReadStep × Fault)}
    (h : catalog.Walk settings [.schemaList] world performed failure? after) :
    match failure? with
    | none => ∃ database, (catalog.readDatabase settings).Returns world database after
    | some (step, cause) => (catalog.readDatabase settings).outcome world =
        (.error (step.report catalog.name cause), after) := by
  obtain ⟨performed', failure?', after', hwalk, hend⟩ := catalog.follows_readDatabase settings world
  obtain ⟨rfl, rfl, rfl⟩ := h.unique hwalk
  rcases failure? with _ | ⟨step, cause⟩
  · exact hend
  · obtain ⟨_, rfl, hfails⟩ := hend
    exact hfails

lemma world_of_walk {world after : σ} {performed : List ReadStep}
    {failure? : Option (ReadStep × Fault)}
    (h : catalog.Walk settings [.schemaList] world performed failure? after) :
    ((catalog.readDatabase settings).outcome world).2 = after := by
  have hend := outcome_of_walk h
  rcases failure? with _ | ⟨step, cause⟩
  · obtain ⟨database, hread⟩ := hend
    rw [hread]
  · rw [hend]

theorem outcome_readDatabase_eq_error_iff {world after : σ} {fault : Fault} :
    (catalog.readDatabase settings).outcome world = (.error fault, after) ↔
      ∃ performed step cause,
        catalog.Walk settings [.schemaList] world (performed ++ [step]) (some (step, cause)) after ∧
        fault = step.report catalog.name cause := by
  constructor
  · intro h
    obtain ⟨performed, _ | ⟨step, cause⟩, after', hwalk, hend⟩ :=
      catalog.follows_readDatabase settings world
    · obtain ⟨database, hread⟩ := hend
      rw [Returns, h] at hread
      cases hread
    · obtain ⟨fault', hfault, hfails⟩ := hend
      rw [h] at hfails
      cases hfails
      obtain ⟨before, rfl⟩ := hwalk.exists_performed
      exact ⟨before, step, cause, hwalk, hfault⟩
  · rintro ⟨performed, step, cause, hwalk, rfl⟩
    exact outcome_of_walk hwalk

/-- All queries of a reading belong to steps of its walk. -/
theorem exists_queries (catalog : Catalog σ) (settings : GeneratorSettings) (world : σ) :
    ∃ performed failure? after,
      catalog.Walk settings [.schemaList] world performed failure? after ∧
      ((catalog.recorded.readDatabase settings).outcome ([], world)).2 =
        (performed.filterMap ReadStep.query?, after) := by
  obtain ⟨performed, failure?, after, hwalk, _⟩ := catalog.follows_readDatabase settings world
  exact ⟨performed, failure?, after, hwalk, world_of_walk (hwalk.recorded [])⟩

theorem not_excluded_of_query {world : σ} {query : CatalogQuery} {table : String}
    (h : query ∈ ((catalog.recorded.readDatabase settings).outcome ([], world)).2.1)
    (htable : query.table? = some table) : settings.excludesTable table = false := by
  obtain ⟨performed, _, after, hwalk, hqueries⟩ := catalog.exists_queries settings world
  rw [hqueries] at h
  obtain ⟨step, hstep, hquery⟩ := List.mem_filterMap.mp h
  have hkept : step.Kept settings := by
    apply hwalk.kept _ step hstep
    simp [ReadStep.Kept, ReadStep.table?]
  apply hkept
  rw [← ReadStep.table?_of_query? hquery, htable]

/-- Reading fails exactly if a step of the walk does, and then it stops there: the queries that were
made are those of the steps up to this one, and none of them is about an excluded table. The fault
is in the categories of the step's failure, and its text is the text of this failure after the
schema, the activity and the table. No context is refused, however the failure is shared. -/
theorem readDatabase_reports_first_failure (catalog : Catalog σ) (settings : GeneratorSettings) :
    (∀ world fault after, (catalog.readDatabase settings).outcome world = (.error fault, after) ↔
      ∃ performed step cause,
        catalog.Walk settings [.schemaList] world (performed ++ [step]) (some (step, cause)) after ∧
        fault = step.report catalog.name cause) ∧
    (∀ world performed step cause after,
      catalog.Walk settings [.schemaList] world (performed ++ [step]) (some (step, cause)) after →
      (catalog.recorded.readDatabase settings).outcome ([], world) =
        (.error (step.report catalog.name cause),
          (performed ++ [step]).filterMap ReadStep.query?, after)) ∧
    (∀ world, ∀ query ∈ ((catalog.recorded.readDatabase settings).outcome ([], world)).2.1,
      ∀ table, query.table? = some table → settings.excludesTable table = false) ∧
    ∀ (step : ReadStep) (cause : Fault),
      (∀ category, (step.report catalog.name cause).isA category = cause.isA category) ∧
      (step.report catalog.name cause).message = step.preamble catalog.name ++ cause.message ∧
      ∀ (shelf : Fault.Shelf) (slot : String) (handle : Fault.Handle),
        shelf.get? slot = some handle → handle.fault = cause →
        ∃ reported shelf', shelf.addContexts slot (step.contexts catalog.name) = .ok shelf' ∧
          reported.fault = step.report catalog.name cause ∧ shelf'.get? slot = some reported ∧
          ∀ other, other ≠ slot → shelf'.get? other = shelf.get? other := by
  refine ⟨fun _ _ _ => outcome_readDatabase_eq_error_iff, ?_, ?_, ?_⟩
  · intro world performed step cause after hwalk
    exact outcome_of_walk (hwalk.recorded [])
  · intro world query hquery table
    exact not_excluded_of_query hquery
  · intro step cause
    refine ⟨step.isA_report catalog.name cause, step.message_report catalog.name cause, ?_⟩
    rintro shelf slot handle hslot rfl
    exact Fault.Shelf.exists_addContexts _ hslot

/-- A failure that already has a context. -/
def lostConnection : Fault := (Fault.queryFailure "socket closed").context "second attempt"

/-- Parts whose foreign keys cannot be read. -/
def partsWithoutKeys : CatalogScript where
  __ := parts
  failure? query := if query = .foreignKeyRows "shop" "part" then some lostConnection else none

/-- The steps that come before the foreign keys. -/
def stepsToKeys : List ReadStep := [
  .schemaList, .schemaName "shop", .tables "shop", .tableName "shop" "part", .columns "shop" "part",
  .indexRows "shop" "part", .indexes "shop" "part" []]

/-- The failure in a slot, and a clone of it in another one. -/
def lostTwice : Fault.Shelf :=
  let (handle, shelf) := Fault.Shelf.empty.allocate lostConnection
  (shelf.put "error" handle).put "clone" handle

lemma walk_partsWithoutKeys : partsWithoutKeys.catalog.Walk noNotes [.schemaList] ()
    (stepsToKeys ++ [.foreignKeyRows "shop" "part"])
    (some (.foreignKeyRows "shop" "part", lostConnection)) () :=
  .next rfl (.next rfl (.next rfl (.next rfl (.next rfl (.next rfl (.next rfl (.fails rfl)))))))

theorem readDatabase_reports_first_failure_parts :
    (∃ fault, (partsWithoutKeys.catalog.readDatabase noNotes).outcome () = (.error fault, ())) ∧
    ((partsWithoutKeys.catalog.recorded.readDatabase noNotes).outcome ([], ())).2.1 =
      [.tables "shop", .columns "shop" "part", .indexRows "shop" "part",
        .foreignKeyRows "shop" "part"] ∧
    noNotes.excludesTable "part" = false ∧
    (ReadStep.report "sqlite" (.foreignKeyRows "shop" "part") lostConnection).message =
      "[sqlite] failed reading schema shop: reading foreign relationships for table shop.part: " ++
        lostConnection.message ∧
    ∃ reported shelf', lostTwice.addContexts "error"
        ((ReadStep.foreignKeyRows "shop" "part").contexts "sqlite") = .ok shelf' ∧
      reported.fault = (ReadStep.foreignKeyRows "shop" "part").report "sqlite" lostConnection ∧
      shelf'.get? "error" = some reported := by
  obtain ⟨herror, hrecorded, hkept, hreport⟩ :=
    readDatabase_reports_first_failure partsWithoutKeys.catalog noNotes
  have hwalk := walk_partsWithoutKeys
  have hqueries := hrecorded _ _ _ _ _ hwalk
  obtain ⟨_, hmessage, hshelf⟩ := hreport (.foreignKeyRows "shop" "part") lostConnection
  refine ⟨⟨_, (herror _ _ _).mpr ⟨_, _, _, hwalk, rfl⟩⟩, ?_, ?_, hmessage, ?_⟩
  · rw [hqueries]
    rfl
  · apply hkept () (.columns "shop" "part")
    · rw [hqueries]
      decide
    · rfl
  · obtain ⟨reported, shelf', hadd, hfault, hslot, _⟩ := hshelf lostTwice "error" _ rfl rfl
    exact ⟨reported, shelf', hadd, hfault, hslot⟩

end Catalog

end RelProto
