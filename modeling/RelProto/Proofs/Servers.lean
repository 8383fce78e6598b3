import RelProto.Proofs.Reading.Invariance
import RelProto.Proofs.Reading.Steady
import RelProto.Servers
import RelProto.Sqlite.Files

/-! What connecting to a database and reading it does to the file tree. Sessions with servers leave
it alone. SQLite may make the file of a missing database, which is empty then, so that reading it does
not fail. -/
namespace RelProto

open RelProto.Action

variable {σ τ α : Type}

namespace Action

@[simp] theorem outcome_onSecond (action : Action σ α) (world : τ × σ) :
    action.onSecond.outcome world =
      ((action.outcome world.2).1, world.1, (action.outcome world.2).2) := rfl

@[simp] theorem outcome_onFirst (action : Action τ α) (world : τ × σ) :
    action.onFirst.outcome world =
      ((action.outcome world.1).1, (action.outcome world.1).2, world.2) := rfl

lemma outcome_onSecond_bind {β : Type} (action : Action σ α) (outer : τ) (world : σ)
    (next : α → Action (τ × σ) β) :
    (action.onSecond >>= next).outcome (outer, world) =
      match action.outcome world with
      | (.ok a, between) => (next a).outcome (outer, between)
      | (.error fault, between) => (.error fault, outer, between) := by
  rw [outcome_bind, outcome_onSecond]
  rcases action.outcome world with ⟨fault | a, between⟩ <;> rfl

/-- An action of the second part of a world leaves the first one alone. -/
lemma maintains_onSecond (P : τ → Prop) (action : Action σ α) :
    Maintains (fun world => P world.1) (action.onSecond (τ := τ)) := fun _ h => h

end Action

lemma Catalog.maintains_onSecond (P : τ → Prop) (catalog : Catalog σ) :
    (catalog.onSecond (τ := τ)).Maintains fun world => P world.1 where
  tables schema excluded := Action.maintains_onSecond P (catalog.tables schema excluded)
  columns schema table := Action.maintains_onSecond P (catalog.columns schema table)
  indexRows schema table := Action.maintains_onSecond P (catalog.indexRows schema table)
  foreignKeyRows schema table := Action.maintains_onSecond P (catalog.foreignKeyRows schema table)

namespace Sqlite

/-- What an opened database is asked changes nothing. -/
lemma Connection.maintains_catalog (connection : Connection) (P : σ → Prop) :
    connection.catalog.Maintains P where
  tables _ _ _ h := h
  columns _ _ _ h := h
  indexRows _ _ _ h := h
  foreignKeyRows _ _ _ h := h

/-- A database without tables, which can be asked for them. -/
structure Connection.IsEmpty (connection : Connection) : Prop where
  one : connection.answer .one = .ok [[.integer 1]]
  tables : ∀ schema, connection.answer (.tables schema) = .ok []

/-- Opening a database touches no file, unless it is the one of a new database, which is empty. -/
def Engine.MakesOnlyEmpty (engine : Engine) : Prop :=
  ∀ name tree, (engine.openNamed name tree).2 = tree ∨
    ∃ connection, (engine.openNamed name tree).1 = .ok connection ∧ connection.IsEmpty

lemma isEmpty_empty : Pragmas.empty.connection.IsEmpty where
  one := rfl
  tables schema := by simp [Pragmas.connection, Pragmas.rows, Pragmas.tableRows, Pragmas.empty, sortedOn]

/-- A file that is opened is there already, or is made and is empty. -/
lemma openAt_cases {tree after : FileTree} {access : Access} {name : String} {place : Place}
    {content : ByteArray} (h : openAt tree access name place = .ok (content, after)) :
    after = tree ∨ content = .empty := by
  rw [openAt] at h
  by_cases hlong : longestPath < pathLength place
  · rw [if_pos hlong] at h
    cases h
  · rw [if_neg hlong] at h
    rcases hentry : tree.entry? place with _ | _ | _ | _
    · simp only [hentry] at h
      split_ifs at h
      cases h
      exact .inr rfl
    · simp only [hentry] at h
      cases h
    · simp only [hentry] at h
      cases h
      exact .inl rfl
    · simp only [hentry] at h
      cases h

/-- A SQLite of files makes only empty databases if it takes an empty file for one. -/
theorem makesOnlyEmpty_ofFormat {format : Format} (h : (format .empty).IsEmpty) :
    (Engine.ofFormat format).MakesOnlyEmpty := by
  intro name tree
  change (format.openNamed name tree).2 = tree ∨
    ∃ connection, (format.openNamed name tree).1 = .ok connection ∧ connection.IsEmpty
  rw [Format.openNamed]
  rcases Location.ofName name with refusal | _ | ⟨path, access⟩
  · exact .inl rfl
  · exact .inl rfl
  · rcases hplace : resolve? tree (tree.startOf path) (Path.names path) with _ | place
    · left
      simp only [hplace]
    · rcases hopen : openAt tree access name place with foreign | ⟨content, after⟩
      · left
        simp only [hplace, hopen]
      · simp only [hplace, hopen]
        obtain rfl | rfl := openAt_cases hopen
        · exact .inl rfl
        · exact .inr ⟨_, rfl, h⟩

lemma ping_of_isEmpty {connection : Connection} (h : connection.IsEmpty) :
    connection.ping = .ok 1 := by
  rw [Connection.ping, Connection.selectFirst, h.one]
  rfl

/-- Connecting is opening, and asking what has been opened for a one. -/
lemma outcome_connect (engine : Engine) (settings : DatabaseSettings) (tree : FileTree) :
    (connect engine settings).outcome tree =
      match (engine.openDatabase settings.database).outcome tree with
      | (.ok connection, after) => (connection.ping.map fun _ => connection, after)
      | (.error fault, after) => (.error fault, after) := by
  rw [connect, outcome_info_bind, outcome_bind]
  rcases (engine.openDatabase settings.database).outcome tree with ⟨fault | connection, after⟩
  · rfl
  · simp only [outcome_bind, outcome_ofExcept]
    rcases connection.ping with fault | n <;> rfl

lemma outcome_openDatabase (engine : Engine) {name : String} (hname : name ≠ ":memory:")
    (tree : FileTree) : (engine.openDatabase name).outcome tree =
      ((engine.openNamed name tree).1.mapError fun foreign => .of (.connectionFailure foreign),
        (engine.openNamed name tree).2) := by
  rw [outcome, Engine.openDatabase, if_neg hname]
  rfl

lemma outcome_openDatabase_cases {engine : Engine} (hengine : engine.MakesOnlyEmpty) (name : String)
    (tree : FileTree) :
    ((engine.openDatabase name).outcome tree).2 = tree ∨
      ∃ connection, ((engine.openDatabase name).outcome tree).1 = .ok connection ∧
        connection.IsEmpty := by
  by_cases hname : name = ":memory:"
  · rw [outcome, Engine.openDatabase, if_pos hname]
    exact .inl rfl
  · rw [outcome_openDatabase engine hname]
    obtain htree | ⟨connection, hopen, hempty⟩ := hengine name tree
    · exact .inl htree
    · refine .inr ⟨connection, ?_, hempty⟩
      rw [hopen]
      rfl

/-- Only opening a database that is empty then changes the tree. -/
theorem outcome_connect_cases {engine : Engine} (hengine : engine.MakesOnlyEmpty)
    (settings : DatabaseSettings) (tree : FileTree) :
    ((connect engine settings).outcome tree).2 = tree ∨
      ∃ connection, ((connect engine settings).outcome tree).1 = .ok connection ∧
        connection.IsEmpty := by
  have hcases := outcome_openDatabase_cases hengine settings.database tree
  rw [outcome_connect]
  rcases hopen : (engine.openDatabase settings.database).outcome tree with
    ⟨fault | connection, after⟩ <;> rw [hopen] at hcases
  · obtain htree | ⟨_, hfails, _⟩ := hcases
    · exact .inl htree
    · cases hfails
  · obtain htree | ⟨_, hsame, hempty⟩ := hcases
    · exact .inl htree
    · cases hsame
      refine .inr ⟨connection, ?_, hempty⟩
      simp only [ping_of_isEmpty hempty]
      rfl

/-- An empty database can be read whatever its schemas are called. -/
theorem readDatabase_empty {connection : Connection} (hempty : connection.IsEmpty)
    {settings : GeneratorSettings} (hschemas : settings.schemas ≠ [])
    (hnames : ∀ name ∈ settings.schemas, name ≠ "") (world : σ) :
    (connection.catalog.readDatabase settings).Returns world
      ⟨catalogName, settings.schemas.map (⟨·, []⟩)⟩ world := by
  have hschema : ∀ name ∈ settings.schemas, Gives (· = world)
      ((connection.catalog.readSchema settings name).inContext
        ("[" ++ catalogName ++ "] failed reading schema " ++ name)) ⟨name, []⟩ := by
    rintro name hname _ rfl
    have htables : connection.tables name settings.excludedTables = .ok [] := by
      rw [Connection.tables, Connection.select, hempty.tables]
      rfl
    refine ⟨_, rfl, returns_inContext_iff.mpr (Catalog.readSchema_returns_iff.mpr ?_)⟩
    exact ⟨hnames name hname, rfl, [], _, returns_ofExcept_iff.mpr ⟨htables, rfl⟩, rfl⟩
  have hall : Gives (· = world) (settings.schemas.mapM fun name =>
      (connection.catalog.readSchema settings name).inContext
        ("[" ++ catalogName ++ "] failed reading schema " ++ name))
      (settings.schemas.map (⟨·, []⟩)) := by
    apply Gives.mapM
    rw [List.forall₂_map_right_iff, List.forall₂_same]
    exact hschema
  obtain ⟨_, rfl, hread⟩ := hall world rfl
  exact Catalog.readDatabase_returns_iff.mpr ⟨hschemas, rfl, hread⟩

end Sqlite

namespace Servers

variable {servers : Servers σ} {settings : DatabaseSettings} {world between after : Outside σ}

lemma outcome_connect_sqlite (servers : Servers σ) (hprovider : settings.provider = some .sqlite)
    (world : Outside σ) : (servers.connect settings).outcome world =
      match (Sqlite.connect servers.sqlite settings).outcome world.1 with
      | (.ok connection, tree) => (.ok connection.catalog, tree, world.2)
      | (.error fault, tree) => (.error fault, tree, world.2) := by
  simp only [connect, hprovider, outcome_bind, outcome_onFirst]
  rcases (Sqlite.connect servers.sqlite settings).outcome world.1 with ⟨fault | connection, tree⟩ <;>
    rfl

/-- Connecting leaves the files alone, and so does whatever is asked then, unless the database is one
that SQLite has just made. -/
theorem connect_cases (hsqlite : servers.sqlite.MakesOnlyEmpty) (settings : DatabaseSettings)
    (world : Outside σ) :
    (((servers.connect settings).outcome world).2.1 = world.1 ∧
      ∀ catalog, ((servers.connect settings).outcome world).1 = .ok catalog →
        ∀ P : FileTree → Prop, catalog.Maintains fun world => P world.1) ∨
      ∃ connection : Sqlite.Connection, connection.IsEmpty ∧
        ((servers.connect settings).outcome world).1 = .ok connection.catalog := by
  have hsession : ∀ start : Action (Session σ) (Catalog (Session σ)),
      let connect : Action (Outside σ) (Catalog (Outside σ)) := do
        let catalog ← start.onSecond
        return catalog.onSecond
      (connect.outcome world).2.1 = world.1 ∧ ∀ catalog, (connect.outcome world).1 = .ok catalog →
        ∀ P : FileTree → Prop, catalog.Maintains fun world => P world.1 := by
    intro start connect
    simp only [connect, outcome_bind, outcome_onSecond]
    rcases (start.outcome world.2).1 with fault | catalog
    · exact ⟨rfl, fun catalog h => by cases h⟩
    · refine ⟨rfl, fun other h => ?_⟩
      cases h
      exact fun P => Catalog.maintains_onSecond P catalog
  rcases hprovider : settings.provider with _ | _ | _ | _
  · left
    simp only [connect, hprovider]
    exact ⟨rfl, fun catalog h => by cases h⟩
  · left
    simp only [connect, hprovider]
    exact hsession _
  · left
    simp only [connect, hprovider]
    exact hsession _
  · have hcases := Sqlite.outcome_connect_cases hsqlite settings world.1
    rw [servers.outcome_connect_sqlite hprovider]
    rcases houtcome : (Sqlite.connect servers.sqlite settings).outcome world.1 with
      ⟨fault | connection, tree⟩
    · rw [houtcome] at hcases
      obtain rfl | ⟨_, hfails, _⟩ := hcases
      · exact .inl ⟨rfl, fun catalog h => by cases h⟩
      · cases hfails
    · rw [houtcome] at hcases
      obtain rfl | ⟨_, hsame, hempty⟩ := hcases
      · refine .inl ⟨rfl, fun catalog h => ?_⟩
        cases h
        exact fun P => Sqlite.Connection.maintains_catalog connection _
      · cases hsame
        exact .inr ⟨connection, hempty, rfl⟩

end Servers

end RelProto
