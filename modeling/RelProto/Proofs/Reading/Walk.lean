import RelProto.Proofs.Reading

/-! Reading a database one step at a time. A step checks a name, asks the catalog or groups rows,
and says which steps are due next; the first one that fails ends the walk. Reading fails exactly
where the walk does, with the failure of that step under the contexts it gets on the way out. -/
namespace RelProto

open RelProto.Action

inductive ReadStep where
  | schemaList
  | schemaName (schema : String)
  | tables (schema : String)
  | tableName (schema table : String)
  | columns (schema table : String)
  | indexRows (schema table : String)
  | indexes (schema table : String) (rows : List IndexRow)
  | foreignKeyRows (schema table : String)
  | relations (schema table : String) (rows : List ForeignKeyRow)

namespace ReadStep

/-- Performs the step, and returns the steps that are due next. -/
def perform {σ : Type} (catalog : Catalog σ) (settings : GeneratorSettings) :
    ReadStep → Action σ (List ReadStep)
  | schemaList =>
    if settings.schemas.isEmpty then throw (.invalidArguments "no schema names configured")
    else pure (settings.schemas.map schemaName)
  | schemaName schema =>
    if schema.isEmpty then throw (.invalidArguments "schema name is empty")
    else pure [tables schema]
  | tables schema => do
    let names ← catalog.tables schema settings.excludedTables
    return (settings.keptTables names).map (tableName schema)
  | tableName schema table =>
    if schema.isEmpty || table.isEmpty then
      throw (.invalidArguments ("table reference `" ++ schema ++ "." ++ table ++ "` is incomplete"))
    else pure [columns schema table]
  | columns schema table => do
    let _ ← catalog.columns schema table
    return [indexRows schema table]
  | indexRows schema table => do
    let rows ← catalog.indexRows schema table
    return [indexes schema table rows]
  | indexes schema table rows => do
    let _ ← Action.ofExcept (indexesOf schema table rows)
    return [foreignKeyRows schema table]
  | foreignKeyRows schema table => do
    let rows ← catalog.foreignKeyRows schema table
    return [relations schema table rows]
  | relations _ _ rows => do
    let _ ← Action.ofExcept (relationsOf rows)
    return []

/-- What the step asks of the catalog. -/
def query? : ReadStep → Option CatalogQuery
  | tables schema => some (.tables schema)
  | columns schema table => some (.columns schema table)
  | indexRows schema table => some (.indexRows schema table)
  | foreignKeyRows schema table => some (.foreignKeyRows schema table)
  | schemaList | schemaName _ | tableName _ _ | indexes _ _ _ | relations _ _ _ => none

/-- The schema that is being read. -/
def schema? : ReadStep → Option String
  | schemaList => none
  | schemaName schema | tables schema => some schema
  | tableName schema _ | columns schema _ | indexRows schema _ | indexes schema _ _
  | foreignKeyRows schema _ | relations schema _ _ => some schema

/-- The table that is being read, without its schema. -/
def table? : ReadStep → Option String
  | schemaList | schemaName _ | tables _ => none
  | tableName _ table | columns _ table | indexRows _ table | indexes _ table _
  | foreignKeyRows _ table | relations _ table _ => some table

/-- What is being read or grouped, and for which table. -/
def activity? : ReadStep → Option String
  | columns schema table => some ("reading columns for table " ++ schema ++ "." ++ table)
  | indexRows schema table => some ("reading indexes for table " ++ schema ++ "." ++ table)
  | indexes schema table _ => some ("grouping indexes for table " ++ schema ++ "." ++ table)
  | foreignKeyRows schema table =>
    some ("reading foreign relationships for table " ++ schema ++ "." ++ table)
  | relations schema table _ =>
    some ("grouping foreign relationships for table " ++ schema ++ "." ++ table)
  | schemaList | schemaName _ | tables _ | tableName _ _ => none

/-- What is put in front of a failure while a schema is read. -/
def schemaContext? (provider : String) (step : ReadStep) : Option String :=
  step.schema?.map fun schema => "[" ++ provider ++ "] failed reading schema " ++ schema

/-- The texts that are put in front of a failure of the step, one after another. -/
def contexts (provider : String) (step : ReadStep) : List String :=
  step.activity?.toList ++ (step.schemaContext? provider).toList

/-- How a failure of the step is reported. -/
def report (provider : String) (step : ReadStep) (cause : Fault) : Fault :=
  (step.contexts provider).foldl Fault.context cause

end ReadStep

namespace Catalog

variable {σ : Type}

/-- From a world, the due steps are performed one after another, the steps that come next because of
one of them before the others; a step that fails is the last. -/
inductive Walk (catalog : Catalog σ) (settings : GeneratorSettings) :
    List ReadStep → σ → List ReadStep → Option (ReadStep × Fault) → σ → Prop
  | done {world} : Walk catalog settings [] world [] none world
  | next {step due later world between performed failure? after} :
    (step.perform catalog settings).Returns world due between →
    Walk catalog settings (due ++ later) between performed failure? after →
    Walk catalog settings (step :: later) world (step :: performed) failure? after
  | fails {step later world cause after} :
    (step.perform catalog settings).outcome world = (.error cause, after) →
    Walk catalog settings (step :: later) world [step] (some (step, cause)) after

namespace Walk

variable {catalog : Catalog σ} {settings : GeneratorSettings}
  {steps later performed : List ReadStep} {failure? : Option (ReadStep × Fault)} {world after : σ}

/-- A walk that is done goes on with the steps that are due later. -/
theorem append {between : σ} {performed' : List ReadStep}
    {failure?' : Option (ReadStep × Fault)}
    (h : catalog.Walk settings steps world performed none between)
    (h' : catalog.Walk settings later between performed' failure?' after) :
    catalog.Walk settings (steps ++ later) world (performed ++ performed') failure?' after := by
  generalize hend : (none : Option (ReadStep × Fault)) = failure? at h
  induction h with
  | done => exact h'
  | next hstep _ ih =>
    have htail := ih h' hend
    rw [List.append_assoc] at htail
    exact next hstep htail
  | fails _ => contradiction

/-- A walk that fails does not reach the steps that are due later. -/
theorem append_later {failure : ReadStep × Fault}
    (h : catalog.Walk settings steps world performed (some failure) after)
    (later : List ReadStep) :
    catalog.Walk settings (steps ++ later) world performed (some failure) after := by
  generalize hend : some failure = failure? at h
  induction h with
  | done => contradiction
  | next hstep _ ih =>
    have htail := ih hend
    rw [List.append_assoc] at htail
    exact next hstep htail
  | fails hstep => exact fails hstep

/-- The answers of the catalog decide where the walk ends. -/
theorem unique {performed' : List ReadStep} {failure?' : Option (ReadStep × Fault)} {after' : σ}
    (h : catalog.Walk settings steps world performed failure? after)
    (h' : catalog.Walk settings steps world performed' failure?' after') :
    performed = performed' ∧ failure? = failure?' ∧ after = after' := by
  induction h generalizing performed' with
  | done =>
    cases h'
    exact ⟨rfl, rfl, rfl⟩
  | next hstep _ ih =>
    cases h' with
    | next hstep' hwalk' =>
      obtain ⟨rfl, rfl⟩ := returns_unique hstep hstep'
      obtain ⟨rfl, rfl, rfl⟩ := ih hwalk'
      exact ⟨rfl, rfl, rfl⟩
    | fails hstep' =>
      rw [hstep] at hstep'
      cases hstep'
  | fails hstep =>
    cases h' with
    | next hstep' _ =>
      rw [Returns, hstep] at hstep'
      cases hstep'
    | fails hstep' =>
      rw [hstep] at hstep'
      cases hstep'
      exact ⟨rfl, rfl, rfl⟩

/-- The step that fails is the last one that is performed. -/
theorem exists_performed {step : ReadStep} {cause : Fault}
    (h : catalog.Walk settings steps world performed (some (step, cause)) after) :
    ∃ before, performed = before ++ [step] := by
  generalize hend : some (step, cause) = failure? at h
  induction h with
  | done => contradiction
  | next hstep _ ih =>
    obtain ⟨before, rfl⟩ := ih hend
    exact ⟨_ :: before, rfl⟩
  | fails _ =>
    cases hend
    exact ⟨[], rfl⟩

/-- The reason of the failure is what the step failed with. -/
theorem exists_outcome {step : ReadStep} {cause : Fault}
    (h : catalog.Walk settings steps world performed (some (step, cause)) after) :
    ∃ before, (step.perform catalog settings).outcome before = (.error cause, after) := by
  generalize hend : some (step, cause) = failure? at h
  induction h with
  | done => contradiction
  | next _ _ ih => exact ih hend
  | fails hstep =>
    cases hend
    exact ⟨_, hstep⟩

end Walk

/-- The action goes through the steps: it returns where their walk is done, and fails where the walk
does, with a fault that reports the failed step. -/
def Follows (catalog : Catalog σ) (settings : GeneratorSettings)
    (reports : ReadStep → Fault → Fault → Prop) {α : Type} (action : Action σ α)
    (steps : List ReadStep) : Prop :=
  ∀ world, ∃ performed failure? after, catalog.Walk settings steps world performed failure? after ∧
    match failure? with
    | none => ∃ a, action.Returns world a after
    | some (step, cause) => ∃ fault, reports step cause fault ∧
      action.outcome world = (.error fault, after)

namespace Follows

variable {catalog : Catalog σ} {settings : GeneratorSettings}
  {reports : ReadStep → Fault → Fault → Prop} {α β : Type} {steps later : List ReadStep}
  {action : Action σ α}

lemma of_outcome {action' : Action σ α} (h : catalog.Follows settings reports action' steps)
    (heq : action.outcome = action'.outcome) : catalog.Follows settings reports action steps := by
  simpa only [Follows, Returns, heq] using h

lemma pure (a : α) : catalog.Follows settings reports (Pure.pure a : Action σ α) [] :=
  fun world => ⟨[], none, world, .done, a, rfl⟩

lemma bind (h : catalog.Follows settings reports action steps) {next : α → Action σ β}
    (hnext : ∀ a, catalog.Follows settings reports (next a) later) :
    catalog.Follows settings reports (action >>= next) (steps ++ later) := by
  intro world
  obtain ⟨performed, _ | ⟨step, cause⟩, between, hwalk, hend⟩ := h world
  · obtain ⟨a, ha⟩ := hend
    obtain ⟨performed', failure?, after, hwalk', hend'⟩ := hnext a between
    refine ⟨performed ++ performed', failure?, after, hwalk.append hwalk', ?_⟩
    have hbind : (action >>= next).outcome world = (next a).outcome between := by
      rw [outcome_bind, ha]
    simpa only [Returns, hbind] using hend'
  · obtain ⟨fault, hfault, hfails⟩ := hend
    refine ⟨performed, some (step, cause), between, hwalk.append_later later, fault, hfault, ?_⟩
    rw [outcome_bind, hfails]

lemma bind_pure (h : catalog.Follows settings reports action steps) (g : α → β) :
    catalog.Follows settings reports (action >>= fun a => Pure.pure (g a)) steps := by
  have hbind := h.bind fun a => pure (g a)
  rwa [List.append_nil] at hbind

lemma mapM {ι : Type} {f : ι → Action σ β} {step : ι → ReadStep}
    (h : ∀ i, catalog.Follows settings reports (f i) [step i]) (is : List ι) :
    catalog.Follows settings reports (is.mapM f) (is.map step) := by
  induction is with
  | nil => exact pure []
  | cons i is ih =>
    rw [List.mapM_cons]
    exact (h i).bind fun b => ih.bind_pure (b :: ·)

lemma inContext {reports' : ReadStep → Fault → Fault → Prop}
    (h : catalog.Follows settings reports action steps) {message : String}
    (hreports : ∀ step cause fault, reports step cause fault →
      reports' step cause (fault.context message)) :
    catalog.Follows settings reports' (action.inContext message) steps := by
  intro world
  obtain ⟨performed, _ | ⟨step, cause⟩, after, hwalk, hend⟩ := h world
  · obtain ⟨a, ha⟩ := hend
    exact ⟨performed, none, after, hwalk, a, returns_inContext_iff.mpr ha⟩
  · obtain ⟨fault, hfault, hfails⟩ := hend
    refine ⟨performed, _, after, hwalk, fault.context message, hreports step cause fault hfault, ?_⟩
    rw [outcome_inContext, hfails]
    rfl

/-- A check that is a step of its own. -/
lemma check {step : ReadStep} {condition : Prop} [Decidable condition] {fault : Fault}
    {due : List ReadStep} {next : Unit → Action σ α}
    (hperform : step.perform catalog settings =
      if condition then throw fault else Pure.pure due)
    (hreports : reports step fault fault)
    (hdue : catalog.Follows settings reports action due) :
    catalog.Follows settings reports (if condition then throw fault >>= next else action)
      [step] := by
  intro world
  by_cases h : condition
  · rw [if_pos h] at hperform ⊢
    refine ⟨[step], some (step, fault), world, .fails ?_, fault, hreports, rfl⟩
    rw [hperform, outcome_throw]
  · rw [if_neg h] at hperform ⊢
    have hstep : (step.perform catalog settings).Returns world due world := by
      rw [hperform, returns_pure_iff]
      exact ⟨rfl, rfl⟩
    obtain ⟨performed, failure?, after, hwalk, hend⟩ := hdue world
    rw [← List.append_nil due] at hwalk
    exact ⟨step :: performed, failure?, after, .next hstep hwalk, hend⟩

/-- A question or a grouping that is a step of its own. What comes next is due because of it. -/
lemma query {step : ReadStep} {query : Action σ α} {due : α → List ReadStep} {f : Fault → Fault}
    {next : α → Action σ β}
    (hperform : step.perform catalog settings = query >>= fun a => Pure.pure (due a))
    (hreports : ∀ cause, reports step cause (f cause))
    (hnext : ∀ a, catalog.Follows settings reports (next a) (due a)) :
    catalog.Follows settings reports (query.mapError f >>= next) [step] := by
  intro world
  rcases hquery : query.outcome world with ⟨cause | a, between⟩
  · have hfails : (query.mapError f >>= next).outcome world = (.error (f cause), between) := by
      rw [outcome_bind, outcome_mapError, hquery]
      rfl
    refine ⟨[step], some (step, cause), between, .fails ?_, f cause, hreports cause, hfails⟩
    rw [hperform, outcome_bind, hquery]
  · have hstep : (step.perform catalog settings).Returns world (due a) between := by
      rw [hperform, returns_bind_iff]
      exact ⟨a, between, hquery, rfl⟩
    have hgoes : (query.mapError f >>= next).outcome world = (next a).outcome between := by
      rw [outcome_bind, outcome_mapError, hquery]
      rfl
    obtain ⟨performed, failure?, after, hwalk, hend⟩ := hnext a between
    rw [← List.append_nil (due a)] at hwalk
    refine ⟨step :: performed, failure?, after, .next hstep hwalk, ?_⟩
    simpa only [Returns, hgoes] using hend

end Follows

variable (catalog : Catalog σ) (settings : GeneratorSettings)

/-- While a table of this schema is read, a failure only tells what was being done. -/
def ReportsIn (schema : String) (step : ReadStep) (cause fault : Fault) : Prop :=
  step.schema? = some schema ∧ fault = step.activity?.toList.foldl Fault.context cause

lemma follows_readTable (schema name : String) :
    catalog.Follows settings (ReportsIn schema) (catalog.readTable settings schema name)
      [.tableName schema name] := by
  rw [readTable]
  refine Follows.check rfl ⟨rfl, rfl⟩ ?_
  refine Follows.query rfl (fun _ => ⟨rfl, rfl⟩) fun columns => ?_
  -- Leaving out columns is no step: it neither asks nor fails.
  refine Follows.of_outcome ?_ (outcome_bind_congr (outcome_keepColumns ..) fun _ => rfl)
  rw [pure_bind]
  refine Follows.query rfl (fun _ => ⟨rfl, rfl⟩) fun indexRows => ?_
  refine Follows.query rfl (fun _ => ⟨rfl, rfl⟩) fun indexes => ?_
  refine Follows.query rfl (fun _ => ⟨rfl, rfl⟩) fun keyRows => ?_
  refine Follows.query rfl (fun _ => ⟨rfl, rfl⟩) fun relations => ?_
  exact Follows.pure _

lemma follows_readSchema (name : String) :
    catalog.Follows settings (ReportsIn name) (catalog.readSchema settings name)
      [.schemaName name] := by
  rw [readSchema]
  refine Follows.check rfl ⟨rfl, rfl⟩ ?_
  refine Follows.of_outcome ?_ (funext fun world => outcome_info_bind world _ _)
  rw [← mapError_id (catalog.tables name settings.excludedTables)]
  refine Follows.query rfl (fun _ => ⟨rfl, rfl⟩) fun names => ?_
  apply Follows.bind_pure
  apply Follows.of_outcome _ (outcome_readTables catalog settings name names)
  exact Follows.mapM (catalog.follows_readTable settings name) _

/-- Reading a database is the walk that starts with the list of schemas. -/
theorem follows_readDatabase :
    catalog.Follows settings (fun step cause fault => fault = step.report catalog.name cause)
      (catalog.readDatabase settings) [.schemaList] := by
  rw [readDatabase, readSchemas_eq_mapM]
  refine Follows.check rfl rfl (Follows.bind_pure (Follows.mapM ?_ _) _)
  intro name
  apply (catalog.follows_readSchema settings name).inContext
  rintro step cause fault ⟨hschema, rfl⟩
  simp [ReadStep.report, ReadStep.contexts, ReadStep.schemaContext?, hschema]

end Catalog

end RelProto
