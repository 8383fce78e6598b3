import RelProto.Proofs.Config
import RelProto.Proofs.Output.Generation
import RelProto.Proofs.Servers
import RelProto.Run

/-! A run has two phases. Until the whole database has been read it writes nothing of its own; only
then are files generated, and nothing but that decides whether it succeeds. -/
namespace RelProto

open RelProto.Action

lemma Config.targetDirectory_eq (config : Config) (outputDirectory : Option String) :
    config.targetDirectory outputDirectory =
      outputDirectory.getD (if config.output.path = "" then "." else config.output.path) := by
  cases outputDirectory with
  | none => simp [targetDirectory]
  | some path => rfl

/-- The files of the database are written below `root`, as configured. -/
abbrev Config.Writes (config : Config) (root : String) (database : Database) :
    FileTree → FileTree → Prop :=
  SchemasWritten config.proto config.generator.embedRelationships
    (Path.join root config.proto.path) database.schemas

namespace Run

variable {σ : Type}

/-- What the program can do with a database: connect to it, and ask its catalog. -/
abbrev Provider (σ : Type) : Type :=
  DatabaseSettings → Action (FileTree × σ) (Catalog (FileTree × σ))

/-- Neither connecting nor asking what has been connected to changes whether the property holds. -/
structure Provider.Maintains (connect : Provider σ) (P : FileTree × σ → Prop) : Prop where
  connects : ∀ settings, Action.Maintains P (connect settings)
  asks : ∀ settings world catalog between, (connect settings).Returns world catalog between →
    catalog.Maintains P

/-- The first phase fails: with this fault, after this text has been printed, and the world is left
as it is then. -/
inductive Stops (connect : Provider σ) (path : String) (world : FileTree × σ) :
    String → Fault → FileTree × σ → Prop
  | loading {fault} (hload : Config.load world.1 path = .error fault) :
    Stops connect path world "" fault world
  | connecting {config fault after} (hload : Config.load world.1 path = .ok config)
    (hconnect : (connect config.database).outcome world = (.error fault, after)) :
    Stops connect path world config.readingText fault after
  | reading {config catalog between fault after} (hload : Config.load world.1 path = .ok config)
    (hconnect : (connect config.database).Returns world catalog between)
    (hread : (catalog.readDatabase config.generator).outcome between = (.error fault, after)) :
    Stops connect path world config.readingText fault after

/-- The first phase succeeds: the whole database has been read with this configuration. -/
inductive Reads (connect : Provider σ) (path : String) (world : FileTree × σ) :
    Config → Database → FileTree × σ → Prop
  | intro {config catalog between database ready} (hload : Config.load world.1 path = .ok config)
    (hconnect : (connect config.database).Returns world catalog between)
    (hread : (catalog.readDatabase config.generator).Returns between database ready) :
    Reads connect path world config database ready

variable {connect : Provider σ} {path printed : String} {world ready after : FileTree × σ}
  {config : Config} {database : Database} {fault : Fault}

lemma stops_or_reads (connect : Provider σ) (path : String) (world : FileTree × σ) :
    (∃ printed fault after, Stops connect path world printed fault after) ∨
      ∃ config database ready, Reads connect path world config database ready := by
  rcases hload : Config.load world.1 path with fault | config
  · exact .inl ⟨_, fault, _, .loading hload⟩
  · rcases hconnect : (connect config.database).outcome world with ⟨fault | catalog, between⟩
    · exact .inl ⟨_, fault, between, .connecting hload hconnect⟩
    · rcases hread : (catalog.readDatabase config.generator).outcome between with
        ⟨fault | database, ready⟩
      · exact .inl ⟨_, fault, ready, .reading hload hconnect hread⟩
      · exact .inr ⟨config, database, ready, .intro hload hconnect hread⟩

/-- What is read, and with which configuration, is decided before it is read. -/
lemma Reads.unique {config' : Config} {database' : Database} {ready' : FileTree × σ}
    (h : Reads connect path world config database ready)
    (h' : Reads connect path world config' database' ready') :
    config = config' ∧ database = database' ∧ ready = ready' := by
  obtain ⟨hload, hconnect, hread⟩ := h
  obtain ⟨hload', hconnect', hread'⟩ := h'
  cases hload.symm.trans hload'
  obtain ⟨rfl, rfl⟩ := returns_unique hconnect hconnect'
  obtain ⟨rfl, rfl⟩ := returns_unique hread hread'
  exact ⟨rfl, rfl, rfl⟩

/-- It does not do both. -/
lemma not_stops_of_reads (hreads : Reads connect path world config database ready) :
    ¬ Stops connect path world printed fault after := by
  obtain ⟨hload, hconnect, hread⟩ := hreads
  intro hstops
  cases hstops with
  | loading hload' =>
    rw [hload] at hload'
    cases hload'
  | connecting hload' hconnect' =>
    cases hload.symm.trans hload'
    cases hconnect.symm.trans hconnect'
  | reading hload' hconnect' hread' =>
    cases hload.symm.trans hload'
    obtain ⟨rfl, rfl⟩ := returns_unique hconnect hconnect'
    cases hread.symm.trans hread'

section OnFiles

variable {α β : Type}

lemma onFiles_bind (action : Action FileTree α) (next : α → Action FileTree β) :
    (onFiles (action >>= next) : Action (Printing (FileTree × σ)) β) =
      onFiles action >>= fun a => onFiles (next a) := by
  funext ⟨printed, tree, other⟩
  change (onFiles (action.andThen next)) (printed, tree, other) =
    (onFiles action).andThen (fun a => onFiles (next a)) (printed, tree, other)
  simp only [onFiles, onFirst, onSecond, andThen]
  rcases action tree with ⟨⟨fault | a, log⟩, between⟩ <;> rfl

lemma onFiles_perform (settings : ProtoSettings) (embed : Bool) (step : OutputStep) :
    (step.perform settings embed : Action (Printing (FileTree × σ)) _) =
      onFiles (step.perform settings embed) := by
  cases step with
  | directory path =>
    simp only [OutputStep.perform, onFiles_bind]
    rfl
  | file path table =>
    simp only [OutputStep.perform, onFiles_bind]
    rfl

/-- Steps do the same to the files of a world as to a tree by itself. -/
theorem onFiles_performAll (settings : ProtoSettings) (embed : Bool) (steps : List OutputStep) :
    (OutputStep.performAll settings embed steps : Action (Printing (FileTree × σ)) _) =
      onFiles (OutputStep.performAll settings embed steps) := by
  induction steps with
  | nil => rfl
  | cons step steps ih =>
    simp only [OutputStep.performAll, onFiles_bind, onFiles_perform, ih]
    rfl

end OnFiles

section Outcome

variable {α : Type}

lemma outcome_onFiles_bind {β : Type} (action : Action FileTree β) (printed : String)
    (world : FileTree × σ) (next : β → Action (Printing (FileTree × σ)) α) :
    (onFiles action >>= next).outcome (printed, world) =
      match action.outcome world.1 with
      | (.ok b, tree) => (next b).outcome (printed, tree, world.2)
      | (.error fault, tree) => (.error fault, printed, tree, world.2) := by
  rw [outcome_bind, onFiles, outcome_onSecond, outcome_onFirst]
  rcases action.outcome world.1 with ⟨fault | b, tree⟩ <;> rfl

lemma outcome_print_bind (text printed : String) (world : FileTree × σ)
    (next : Unit → Action (Printing (FileTree × σ)) α) :
    (Host.print text >>= next).outcome (printed, world) =
      (next ()).outcome (printed ++ text, world) := by
  rw [outcome_bind]
  rfl

lemma outcome_load (path printed : String) (world : FileTree × σ) :
    (load path : Action (Printing (FileTree × σ)) Config).outcome (printed, world) =
      (Config.load world.1 path, printed, world) := rfl

lemma outcome_readDatabase (connect : Provider σ) (config : Config) (world : FileTree × σ) :
    (readDatabase connect config).outcome world =
      match (connect config.database).outcome world with
      | (.ok catalog, between) => (catalog.readDatabase config.generator).outcome between
      | (.error fault, between) => (.error fault, between) := by
  rw [readDatabase, outcome_bind]
  rcases (connect config.database).outcome world with ⟨fault | catalog, between⟩ <;> rfl

lemma perform_generate (connect : Provider σ) (path : String) (outputDirectory : Option String)
    (world : FileTree × σ) : perform connect (.generate path outputDirectory) world =
      match (phases connect path outputDirectory).outcome ("", world) with
      | (result, output, after) => (.ofResult output result, after) := rfl

end Outcome

/-- A run whose first phase fails reports this failure, and is over. -/
theorem perform_of_stops (h : Stops connect path world printed fault after)
    (outputDirectory : Option String) :
    perform connect (.generate path outputDirectory) world = (.ofFault printed fault, after) := by
  rw [perform_generate, phases, generate, outcome_bind, outcome_load]
  cases h with
  | loading hload => simp only [hload, Report.ofResult]
  | connecting hload hconnect =>
    simp only [hload, outcome_print_bind, outcome_onSecond_bind, outcome_readDatabase, hconnect,
      String.empty_append, Report.ofResult]
  | reading hload hconnect hread =>
    rw [Returns] at hconnect
    simp only [hload, outcome_print_bind, outcome_onSecond_bind, outcome_readDatabase, hconnect,
      hread, String.empty_append, Report.ofResult]

/-- A run that has read the database generates its files, and reports how that ends. -/
theorem perform_of_reads (h : Reads connect path world config database ready)
    (outputDirectory : Option String) :
    let root := config.targetDirectory outputDirectory
    let generation := database.generate config.proto config.generator.embedRelationships root ready.1
    let printed := config.readingText ++ config.generatingText
    perform connect (.generate path outputDirectory) world =
      (match generation.1.result with
        | .ok paths => ⟨printed ++ config.writtenText root paths.length, "", 0⟩
        | .error fault => .ofFault printed fault, generation.2, ready.2) := by
  intro root generation printed
  obtain ⟨hload, hconnect, hread⟩ := h
  rw [Returns] at hconnect hread
  rw [perform_generate, phases, generate, outcome_bind, outcome_load]
  simp only [hload, outcome_print_bind, outcome_onSecond_bind, outcome_readDatabase, hconnect, hread,
    String.empty_append, onFiles_performAll, outcome_onFiles_bind]
  have hgeneration : (database.generate config.proto config.generator.embedRelationships
      (config.targetDirectory outputDirectory)).outcome ready.1 =
        (generation.1.result, generation.2) := rfl
  rw [Database.generate] at hgeneration
  rw [hgeneration]
  rcases generation.1.result with fault | paths <;> rfl

/-- The first phase does to the world what the provider does, and nothing else. -/
lemma maintained_of_stops (h : Stops connect path world printed fault after)
    {P : FileTree × σ → Prop} (hprovider : Provider.Maintains connect P) (hworld : P world) :
    P after := by
  cases h with
  | loading _ => exact hworld
  | @connecting config _ _ _ hconnect =>
    have hafter := hprovider.connects config.database world hworld
    rwa [hconnect] at hafter
  | @reading config catalog between _ _ _ hconnect hread =>
    have hbetween := hprovider.connects config.database world hworld
    rw [hconnect] at hbetween
    have hcatalog := hprovider.asks _ _ _ _ hconnect
    have hafter := hcatalog.readDatabase config.generator between hbetween
    rwa [hread] at hafter

/-- Whatever the servers do, a run that has not read the database has not touched a file. -/
theorem unchanged_of_stops {servers : Servers σ} (hsqlite : servers.sqlite.MakesOnlyEmpty)
    {start after : Outside σ}
    (h : Stops servers.connect path start printed fault after) : after.1 = start.1 := by
  cases h with
  | loading _ => rfl
  | @connecting config _ _ _ hconnect =>
    have hcases := Servers.connect_cases hsqlite config.database start
    rw [hconnect] at hcases
    obtain ⟨htree, _⟩ | ⟨_, _, hfails⟩ := hcases
    · exact htree
    · cases hfails
  | @reading config catalog between _ _ hload hconnect hread =>
    have hcases := Servers.connect_cases hsqlite config.database start
    rw [hconnect] at hcases
    obtain ⟨htree, hmaintains⟩ | ⟨_, hempty, hsame⟩ := hcases
    · have hafter := (hmaintains catalog rfl (· = start.1)).readDatabase config.generator between htree
      rwa [hread] at hafter
    · -- Reading from a file that has just been made does not fail.
      cases hsame
      obtain ⟨hschemas, hnames⟩ := Config.schemas_of_validate (Config.validate_of_load hload)
      cases hread.symm.trans (Sqlite.readDatabase_empty hempty hschemas hnames between)

/-- A run that has read the database succeeds if all files can be written. -/
theorem perform_of_writes (h : Reads connect path world config database ready)
    (outputDirectory : Option String) {tree : FileTree}
    (hwrites : config.Writes (config.targetDirectory outputDirectory) database ready.1 tree) :
    perform connect (.generate path outputDirectory) world =
      (⟨config.readingText ++ config.generatingText ++
        config.writtenText (config.targetDirectory outputDirectory) database.tables.length, "", 0⟩,
        tree, ready.2) := by
  have hdone := OutputStep.performed_ofDatabase_iff.mpr hwrites
  have hcount : (database.listed.map (Database.pathOf
      (Path.join (config.targetDirectory outputDirectory) config.proto.path))).length =
      database.tables.length := by
    rw [← database.map_snd_listed, List.length_map, List.length_map]
  rw [perform_of_reads h, Database.generate, OutputStep.performAll_of_performed hdone,
    OutputStep.filterMap_path?_ofDatabase]
  simp only [hcount]

/-- Otherwise it ends with the fault of the first step that fails. -/
theorem perform_of_not_writes (h : Reads connect path world config database ready)
    (outputDirectory : Option String) (hfails : ¬ ∃ tree, config.Writes
      (config.targetDirectory outputDirectory) database ready.1 tree) :
    ∃ fault tree, (database.generate config.proto config.generator.embedRelationships
        (config.targetDirectory outputDirectory)).outcome ready.1 = (.error fault, tree) ∧
      perform connect (.generate path outputDirectory) world =
        (.ofFault (config.readingText ++ config.generatingText) fault, tree, ready.2) := by
  obtain ⟨tree, hdone⟩ | ⟨done, step, rest, between, fault, tree, hsteps, hdone, hstep⟩ :=
    OutputStep.performed_or_fails config.proto config.generator.embedRelationships
      (OutputStep.ofDatabase config.proto (config.targetDirectory outputDirectory) database) ready.1
  · exact absurd ⟨tree, OutputStep.performed_ofDatabase_iff.mp hdone⟩ hfails
  · have hlast := OutputStep.performAll_of_fails hdone hstep rest
    rw [← hsteps] at hlast
    refine ⟨fault, tree, ?_, ?_⟩
    · rw [outcome, Database.generate, hlast]
    · rw [perform_of_reads h, Database.generate, hlast]

/-- Once the database has been read, the status tells whether all files can be written. -/
lemma status_of_reads (h : Reads connect path world config database ready)
    (outputDirectory : Option String) :
    let status := (perform connect (.generate path outputDirectory) world).1.status
    (status = 0 ∨ status = 1) ∧ (status = 0 ↔ ∃ tree, config.Writes
      (config.targetDirectory outputDirectory) database ready.1 tree) := by
  intro status
  by_cases hwrites : ∃ tree, config.Writes
      (config.targetDirectory outputDirectory) database ready.1 tree
  · obtain ⟨tree, htree⟩ := hwrites
    have hstatus : status = 0 := congrArg (·.1.status) (perform_of_writes h outputDirectory htree)
    exact ⟨.inl hstatus, iff_of_true hstatus ⟨tree, htree⟩⟩
  · obtain ⟨fault, tree, _, hrun⟩ := perform_of_not_writes h outputDirectory hwrites
    have hstatus : status = 1 := congrArg (·.1.status) hrun
    exact ⟨.inr hstatus, iff_of_false (by rw [hstatus]; exact Nat.one_ne_zero) hwrites⟩

/-- Either the first phase fails, or the whole database is read. If it fails, its fault is reported
with all its contexts and the status 1, and the world is what loading, connecting and reading have
made of it; with servers, and with a SQLite that makes only empty databases, no file has changed.
Otherwise the files are generated below the directory that was given, or else the configured one, or
else the current one: for each schema its directory, and in it for each table a file with the text
that the table is rendered to. The status is 0 exactly if the database has been read and all of this
succeeds; then the directories are there, and the files, with their own texts if no two of them lead
to one place. -/
theorem perform_two_phases (connect : Provider σ) (path : String)
    (outputDirectory : Option String) (world : FileTree × σ) :
    let run := perform connect (.generate path outputDirectory) world
    let root (config : Config) :=
      outputDirectory.getD (if config.output.path = "" then "." else config.output.path)
    let errors (fault : Fault) :=
      "error: " ++ ": ".intercalate (fault.chain.map Fault.Kind.message) ++ "\n"
    ((∃ printed fault after, Stops connect path world printed fault after) ↔
      ¬ ∃ config database ready, Reads connect path world config database ready) ∧
    (∀ printed fault after, Stops connect path world printed fault after →
      run = (⟨printed, errors fault, 1⟩, after) ∧
      ∀ P : FileTree × σ → Prop, Provider.Maintains connect P → P world → P after) ∧
    (∀ config database ready, Reads connect path world config database ready →
      let printed := config.readingText ++ config.generatingText
      (∀ tree, config.Writes (root config) database ready.1 tree →
        run = (⟨printed ++ config.writtenText (root config) database.tables.length, "", 0⟩,
          tree, ready.2) ∧
        database.PresentIn config.proto config.generator.embedRelationships
          (Path.join (root config) config.proto.path) ready.1.workingDirectory tree) ∧
      ((¬ ∃ tree, config.Writes (root config) database ready.1 tree) → ∃ fault tree,
        (database.generate config.proto config.generator.embedRelationships
          (root config)).outcome ready.1 = (.error fault, tree) ∧
        run = (⟨printed, errors fault, 1⟩, tree, ready.2))) ∧
    (run.1.status = 0 ∨ run.1.status = 1) ∧
    (run.1.status = 0 ↔ ∃ config database ready tree,
      Reads connect path world config database ready ∧
      config.Writes (root config) database ready.1 tree) ∧
    ∀ (τ : Type) (servers : Servers τ) (start : Outside τ) (printed : String) (fault : Fault)
      (after : Outside τ), servers.sqlite.MakesOnlyEmpty →
      Stops servers.connect path start printed fault after → after.1 = start.1 := by
  intro run root errors
  have hroot : ∀ config : Config, root config = config.targetDirectory outputDirectory :=
    fun config => (config.targetDirectory_eq outputDirectory).symm
  have hstops : ∀ printed fault after, Stops connect path world printed fault after →
      run = (⟨printed, errors fault, 1⟩, after) := fun _ _ _ h => perform_of_stops h outputDirectory
  have hstatus : (run.1.status = 0 ∨ run.1.status = 1) ∧
      (run.1.status = 0 ↔ ∃ config database ready tree,
        Reads connect path world config database ready ∧
        config.Writes (root config) database ready.1 tree) := by
    simp only [hroot]
    obtain ⟨printed, fault, after, h⟩ | ⟨config, database, ready, h⟩ :=
      stops_or_reads connect path world
    · rw [hstops printed fault after h]
      refine ⟨.inr rfl, iff_of_false Nat.one_ne_zero ?_⟩
      rintro ⟨_, _, _, _, hreads, _⟩
      exact not_stops_of_reads hreads h
    · obtain ⟨hexit, hsuccess⟩ := status_of_reads h outputDirectory
      refine ⟨hexit, hsuccess.trans ⟨?_, ?_⟩⟩
      · rintro ⟨tree, hwrites⟩
        exact ⟨config, database, ready, tree, h, hwrites⟩
      · rintro ⟨config', database', ready', tree, h', hwrites⟩
        obtain ⟨rfl, rfl, rfl⟩ := h.unique h'
        exact ⟨tree, hwrites⟩
  refine ⟨⟨?_, ?_⟩, ?_, ?_, hstatus.1, hstatus.2,
    fun τ servers start printed fault after hsqlite => unchanged_of_stops hsqlite⟩
  · rintro ⟨printed, fault, after, h⟩ ⟨config, database, ready, hreads⟩
    exact not_stops_of_reads hreads h
  · exact (stops_or_reads connect path world).resolve_right
  · intro printed fault after h
    exact ⟨hstops printed fault after h, fun P hprovider => maintained_of_stops h hprovider⟩
  · intro config database ready h
    rw [hroot]
    refine ⟨fun tree hwrites => ?_, perform_of_not_writes h outputDirectory⟩
    exact ⟨perform_of_writes h outputDirectory hwrites,
      Database.presentIn_of_schemasWritten hwrites⟩

def shopText : String :=
  "database:\n  provider: sqlite\n  database: app.db\noutput:\n  path: out\n" ++
    "generator:\n  schemas: [crm, shop]\n  embed_relationships: true\n"

def shopConfig : Config where
  database := { provider := some .sqlite, database := "app.db" }
  output := { path := "out" }
  generator := Database.crmAndShop

/-- A configuration, and a file of the name that it gives, which is no database. -/
def shopTree : FileTree where
  entries := [(["home", "dbmap.yaml"], .file shopText.toUTF8),
    (["home", "app.db"], .file "garbage".toUTF8)]
  workingDirectory := ["home"]

/-- Connecting always gives the catalog of the script. -/
def scripted (script : CatalogScript) : Provider Unit := fun _ => pure script.catalog.onSecond

def customersScript : CatalogScript := .ofTables (Database.customers "address").tables

/-- The last table cannot be read. -/
def brokenScript : CatalogScript where
  __ := customersScript
  failure? query := if query = .columns "shop" "address" then some Catalog.lostConnection else none

/-- Files of databases that are empty, or else broken. -/
def emptyOrBroken : Sqlite.Format := fun bytes =>
  if bytes.isEmpty then Sqlite.Pragmas.empty.connection
  else ⟨fun
    | .one => .ok [[.integer 1]]
    | _ => .error (.chain "file is not a database" [])⟩

def away : Servers Unit := .unreachable (.ofFormat emptyOrBroken) ""

lemma load_shopTree : Config.load shopTree "dbmap.yaml" = .ok shopConfig := by
  have hread : shopTree.readFile "dbmap.yaml" = .ok shopText := by decide +kernel
  have hyaml : Config.ofYaml shopText = .ok shopConfig := by decide +kernel
  rw [Config.load, hread, Config.ofFile, hyaml]
  rfl

lemma reads_customers : Reads (scripted customersScript) "dbmap.yaml" (shopTree, ()) shopConfig
    (Database.customers "address") (shopTree, ()) :=
  .intro load_shopTree rfl rfl

lemma stops_broken : Stops (scripted brokenScript) "dbmap.yaml" (shopTree, ())
    shopConfig.readingText ((ReadStep.columns "shop" "address").report "sqlite" Catalog.lostConnection)
    (shopTree, ()) :=
  .reading load_shopTree rfl rfl

lemma openNamed_garbage (format : Sqlite.Format) :
    format.openNamed "app.db" shopTree = (.ok (format "garbage".toUTF8), shopTree) := by
  have hlocation : Sqlite.Location.ofName "app.db" = .ok (.file "app.db" .create) := by
    decide +kernel
  have hplace : Sqlite.resolve? shopTree (shopTree.startOf "app.db") (Path.names "app.db") =
      some ["home", "app.db"] := rfl
  have hopen : Sqlite.openAt shopTree .create "app.db" ["home", "app.db"] =
      .ok ("garbage".toUTF8, shopTree) := rfl
  rw [Sqlite.Format.openNamed, hlocation]
  simp only [hplace, hopen]

/-- A file that is no database can be opened, but not read. -/
lemma stops_away : ∃ fault, Stops away.connect "dbmap.yaml" (shopTree, .start ())
    shopConfig.readingText fault (shopTree, .start ()) := by
  let connection := emptyOrBroken "garbage".toUTF8
  have hopen : ((Sqlite.Engine.ofFormat emptyOrBroken).openDatabase "app.db").outcome shopTree =
      (.ok connection, shopTree) := by
    have hnamed := openNamed_garbage emptyOrBroken
    rw [Sqlite.outcome_openDatabase _ (by decide)]
    simp only [Sqlite.Engine.ofFormat, hnamed]
    rfl
  have hsqlite : (Sqlite.connect away.sqlite shopConfig.database).outcome shopTree =
      (.ok connection, shopTree) := by
    have hasked : connection.ping = .ok 1 := rfl
    rw [Sqlite.outcome_connect, shopConfig]
    simp only [away, Servers.unreachable, hopen, hasked]
    rfl
  have hconnect : (away.connect shopConfig.database).Returns (shopTree, .start ())
      connection.catalog (shopTree, .start ()) := by
    rw [Returns, Servers.outcome_connect_sqlite away rfl]
    simp only [hsqlite]
  exact ⟨_, .reading load_shopTree hconnect rfl⟩

/-- The customers and their addresses are written once both have been read. -/
theorem perform_two_phases_customers :
    (∃ tree text, perform (scripted customersScript) (.generate "dbmap.yaml" none) (shopTree, ()) =
        (⟨"dbmap 0.1.0\n\nReading app.db\nGenerating proto3 schema files\n" ++
          "Wrote 2 files under out/proto\n", "", 0⟩, tree, ()) ∧
      ((Database.addressTable "address").render {} true).result = .ok text ∧
      tree.entry? ["home", "out", "proto", "shop", "address.proto"] = some (.file text.toUTF8)) ∧
    perform (scripted brokenScript) (.generate "dbmap.yaml" none) (shopTree, ()) =
      (⟨"dbmap 0.1.0\n\nReading app.db\n", "error: [sqlite] failed reading schema shop: " ++
        "reading columns for table shop.address: second attempt: query failed: socket closed\n", 1⟩,
        shopTree, ()) ∧
    perform (scripted customersScript) (.generate "missing.yaml" none) (shopTree, ()) =
      (⟨"", "error: reading configuration missing.yaml: invalid configuration: " ++
        "No such file or directory (os error 2)\n", 1⟩, shopTree, ()) ∧
    ∃ printed fault after, Stops away.connect "dbmap.yaml" (shopTree, .start ()) printed fault after ∧
      after.1 = shopTree := by
  obtain ⟨_, _, hsucceeds, _, _, hservers⟩ :=
    perform_two_phases (scripted customersScript) "dbmap.yaml" none (shopTree, ())
  refine ⟨?_, ?_, ?_, ?_⟩
  · have hreturns : ((Database.customers "address").generate {} true "out").Returns shopTree
        ["out/proto/crm/customer.proto", "out/proto/shop/address.proto"]
        ((Database.customers "address").generate {} true "out" shopTree).2 := by
      apply Action.returns_of_result_eq
      decide +kernel
    have hwrites := OutputStep.performed_ofDatabase_iff.mp
      (OutputStep.performAll_returns_iff.mp hreturns).1
    obtain ⟨hrun, hpresent⟩ := (hsucceeds _ _ _ reads_customers).1 _ hwrites
    have hentry : (⟨"shop", [Database.addressTable "address"]⟩, Database.addressTable "address") ∈
        (Database.customers "address").listed := by decide
    obtain ⟨text, hrender, _⟩ := hpresent.files _ hentry
    exact ⟨_, text, hrun, hrender, hpresent.texts (by decide +kernel) _ hentry text hrender⟩
  · obtain ⟨_, hfails, _⟩ :=
      perform_two_phases (scripted brokenScript) "dbmap.yaml" none (shopTree, ())
    refine (hfails _ _ _ stops_broken).1.trans (Prod.ext ?_ rfl)
    decide +kernel
  · obtain ⟨_, hfails, _⟩ :=
      perform_two_phases (scripted customersScript) "missing.yaml" none (shopTree, ())
    have hread : shopTree.readFile "missing.yaml" = .error .notFound := by decide +kernel
    have hload : Config.load shopTree "missing.yaml" = .error ((Fault.invalidConfig
        "No such file or directory (os error 2)").context "reading configuration missing.yaml") := by
      rw [Config.load, hread]
      decide +kernel
    refine (hfails _ _ _ (.loading hload)).1.trans (Prod.ext ?_ rfl)
    decide +kernel
  · obtain ⟨fault, hstops⟩ := stops_away
    exact ⟨_, fault, _, hstops, hservers Unit away _ _ _ _
      (Sqlite.makesOnlyEmpty_ofFormat Sqlite.isEmpty_empty) hstops⟩

end Run

end RelProto
