import RelProto.Mysql.Connect
import RelProto.Postgresql.Connect
import RelProto.Proofs.Action
import RelProto.Server.Script
import RelProto.Sqlite.Catalog

/-! What catalogs fail with once there is a connection: a query fails, or one of its rows cannot be
decoded. All of this is a query failure, except that a row from MySQL may lack a column. -/
namespace RelProto

open RelProto.Action

variable {σ α β ε ε' : Type} {Q : ε → Prop}

/-- The error that a computation ends with. -/
def error? : Except ε α → Option ε
  | .error e => some e
  | .ok _ => none

lemma error?_mapError (f : ε → ε') (x : Except ε α) : error? (x.mapError f) = (error? x).map f := by
  rcases x with _ | _ <;> rfl

/-- A loop ends with the error of the first element that causes one. -/
theorem error?_mapM (f : α → Except ε β) (as : List α) :
    error? (as.mapM f) = as.findSome? fun a => error? (f a) := by
  induction as with
  | nil => rfl
  | cons a as ih =>
    rw [List.mapM_cons, List.findSome?_cons, ← ih]
    rcases f a with e | b
    · rfl
    · rcases as.mapM f with e | bs <;> rfl

lemma Logged.result_mapM_eq (f : α → Logged ε β) (as : List α) :
    (as.mapM f).result = as.mapM fun a => (f a).result := by
  induction as with
  | nil => rfl
  | cons a as ih =>
    rw [List.mapM_cons, List.mapM_cons, ← ih]
    rcases f a with ⟨e | b, log⟩
    · rfl
    · rcases as.mapM f with ⟨e | bs, log'⟩ <;> rfl

/-- All errors of the computation are of this kind. -/
def ErrsOnly (Q : ε → Prop) (x : Except ε α) : Prop := ∀ e, error? x = some e → Q e

namespace ErrsOnly

lemma pure (a : α) : ErrsOnly Q (Pure.pure a : Except ε α) := nofun

lemma bind {x : Except ε α} (h : ErrsOnly Q x) {next : α → Except ε β}
    (hnext : ∀ a, ErrsOnly Q (next a)) : ErrsOnly Q (x >>= next) := by
  rcases x with e | a
  · exact h
  · exact hnext a

lemma mapError {R : ε' → Prop} {f : ε → ε'} {x : Except ε α} (h : ErrsOnly (fun e => R (f e)) x) :
    ErrsOnly R (x.mapError f) := by
  intro e he
  rw [error?_mapError, Option.map_eq_some_iff] at he
  obtain ⟨cause, hcause, rfl⟩ := he
  exact h cause hcause

lemma result_bind {x : Logged ε α} (h : ErrsOnly Q x.result) {next : α → Logged ε β}
    (hnext : ∀ a, ErrsOnly Q (next a).result) : ErrsOnly Q (x >>= next).result := by
  rcases x with ⟨e | a, log⟩
  · exact h
  · exact hnext a

end ErrsOnly

namespace Action

/-- The fault that the action ends with. -/
def fault? (action : Action σ α) (world : σ) : Option Fault := error? (action.outcome world).1

lemma fault?_bind_of_returns {action : Action σ α} {world between : σ} {a : α}
    (h : action.Returns world a between) (next : α → Action σ β) :
    (action >>= next).fault? world = (next a).fault? between := by
  rw [fault?, outcome_bind, h]
  rfl

lemma fault?_bind_pure (action : Action σ α) (g : α → β) (world : σ) :
    (action >>= fun a => pure (g a)).fault? world = action.fault? world := by
  rw [fault?, fault?, outcome_bind]
  rcases action.outcome world with ⟨fault | a, between⟩ <;> rfl

end Action

/-- The fault that the catalog's answer to the query ends with. -/
def Catalog.fault? (catalog : Catalog σ) (excluded : List String) (world : σ) :
    CatalogQuery → Option Fault
  | .tables schema => (catalog.tables schema excluded).fault? world
  | .columns schema table => (catalog.columns schema table).fault? world
  | .indexRows schema table => (catalog.indexRows schema table).fault? world
  | .foreignKeyRows schema table => (catalog.foreignKeyRows schema table).fault? world

/-- A query fails, or one of its rows cannot be decoded. -/
def Fault.IsQueryFailure (fault : Fault) : Prop := ∃ error, fault = .of (.queryFailure error)

lemma Fault.IsQueryFailure.categories_eq {fault : Fault} (h : fault.IsQueryFailure) :
    fault.categories = [.queryFailure] := by
  obtain ⟨error, rfl⟩ := h
  rfl

namespace Client

variable {Failure Answer : Type} {client : Client Failure Answer σ} {session between : Session σ}

/-- What the server answers in a session that is connected. -/
def reply (client : Client Failure Answer σ) (statement : Statement) (session : Session σ) :
    Except Failure Answer := (client.server.answer statement session.world).1

/-- Once there is a connection, only the answer to the statement counts. -/
theorem fault?_answer_bind (h : client.ready.Returns session () between)
    (statement : Statement) (next : Answer → Action (Session σ) α) :
    (client.answer statement >>= next).fault? session =
      match client.reply statement between with
      | .ok answer => (next answer).fault?
          ⟨between.connected, (client.server.answer statement between.world).2⟩
      | .error failure => some (.of (.queryFailure (client.report failure))) := by
  rw [answer, bind_assoc, fault?_bind_of_returns h, fault?, outcome_bind, outcome, exchange, reply]
  rcases client.server.answer statement between.world with ⟨failure | answer, world⟩
  · -- Giving up the connection does not change the fault.
    by_cases hloses : client.loses failure
    · simp only [hloses]
      rfl
    · simp only [hloses]
      rfl
  · rfl

end Client

namespace Postgresql

lemma Rows.errsOnly_decode (rows : Rows) (decode : Cells → Except DecodeFault α) :
    ErrsOnly Fault.IsQueryFailure (rows.decode decode) := by
  rw [Rows.decode]
  split_ifs
  · exact .mapError fun cause _ => ⟨_, rfl⟩
  · rintro _ ⟨⟩
    exact ⟨_, rfl⟩

lemma isQueryFailure_of_select {client : Client Failure Rows σ} {session between : Session σ}
    (h : client.ready.Returns session () between) {query : CatalogQuery} {excluded : List String}
    {decode : Cells → Except DecodeFault α} {fault : Fault}
    (hfault : (select client query excluded decode).fault? session = some fault) :
    fault.IsQueryFailure := by
  rw [select, Client.fault?_answer_bind h] at hfault
  split at hfault
  · exact Rows.errsOnly_decode _ decode fault hfault
  · obtain rfl := Option.some.inj hfault
    exact ⟨_, rfl⟩

theorem isQueryFailure_of_fault? {client : Client Failure Rows σ} {session between : Session σ}
    (h : client.ready.Returns session () between) {excluded : List String} {query : CatalogQuery}
    {fault : Fault} (hfault : (catalog client).fault? excluded session query = some fault) :
    fault.IsQueryFailure := by
  cases query with
  | tables schema => exact isQueryFailure_of_select h hfault
  | columns schema table => exact isQueryFailure_of_select h hfault
  | indexRows schema table => exact isQueryFailure_of_select h hfault
  | foreignKeyRows schema table => exact isQueryFailure_of_select h hfault

end Postgresql

namespace Sqlite

lemma DecodeFault.isQueryFailure (cause : DecodeFault) : cause.fault.IsQueryFailure := ⟨_, rfl⟩

namespace Connection

variable (connection : Connection)

lemma errsOnly_select (query : Query) (decode : Cells → Except DecodeFault α) :
    ErrsOnly Fault.IsQueryFailure (connection.select query decode) := by
  rw [select]
  split
  · rintro _ ⟨⟩
    exact ⟨_, rfl⟩
  · exact .mapError fun cause _ => cause.isQueryFailure

lemma errsOnly_isWithoutRowid (schema table : String) :
    ErrsOnly Fault.IsQueryFailure (connection.isWithoutRowid schema table) := by
  rw [isWithoutRowid]
  exact .mapError fun foreign _ => ⟨foreign, rfl⟩

lemma errsOnly_columns (schema table : String) :
    ErrsOnly Fault.IsQueryFailure (connection.columns schema table) := by
  refine (connection.errsOnly_select _ _).bind fun columns => ?_
  split_ifs
  · exact (connection.errsOnly_isWithoutRowid _ _).bind fun _ => .pure _
  · exact .pure _

lemma errsOnly_indexRows (schema table : String) :
    ErrsOnly Fault.IsQueryFailure (connection.indexRows schema table).result := by
  refine .result_bind (connection.errsOnly_select _ _) fun parts => .result_bind ?_ fun rows => ?_
  · -- An expression is skipped, not refused.
    have hrow : ∀ part : IndexPart, part.row.result =
        .ok (part.column.map (⟨part.index, ·, part.unique, part.primary⟩)) := by
      rintro ⟨index, _ | column, unique, primary⟩ <;> rfl
    rw [Logged.result_mapM hrow]
    exact .pure _
  · dsimp only
    split_ifs
    · exact .pure _
    · exact .result_bind (connection.errsOnly_columns _ _) fun _ => .pure _

theorem isQueryFailure_of_fault? {world : σ} {excluded : List String} {query : CatalogQuery}
    {fault : Fault} (hfault : connection.catalog.fault? excluded world query = some fault) :
    fault.IsQueryFailure := by
  cases query with
  | tables schema =>
    exact (connection.errsOnly_select _ _).bind (fun _ => .pure _) fault hfault
  | columns schema table => exact connection.errsOnly_columns schema table fault hfault
  | indexRows schema table => exact connection.errsOnly_indexRows schema table fault hfault
  | foreignKeyRows schema table => exact connection.errsOnly_select _ _ fault hfault

end Connection

end Sqlite

namespace Mysql

variable {client : Client Failure (List Row) σ} {session between : Session σ}

/-- The part of an index without the log line that it may cause. -/
def indexEntryOf (row : Row) : Except DecodeFault (Option IndexRow) := do
  let index ← row.text 0
  match ← row.optionalText 1 with
  | none => return none
  | some column => return some ⟨index, column, ← row.flag 2, ← row.flag 3⟩

lemma result_indexRowOf (row : Row) :
    (indexRowOf row).result = (indexEntryOf row).mapError DecodeFault.fault := by
  rw [indexRowOf, indexEntryOf]
  rcases row.text 0 with cause | index
  · rfl
  · rcases row.optionalText 1 with cause | _ | column
    · rfl
    · rfl
    · rcases row.flag 2 with cause | unique
      · rfl
      · rcases row.flag 3 with cause | primary <;> rfl

/-- Why the row cannot be decoded as a part of the answer to the query. -/
def rowFault? (query : CatalogQuery) (row : Row) : Option DecodeFault :=
  match query with
  | .tables _ => error? (row.text 0)
  | .columns schema table => error? (columnOf schema table row)
  | .indexRows _ _ => error? (indexEntryOf row)
  | .foreignKeyRows _ _ => error? (foreignKeyRowOf row)

/-- The number of columns that the query asks for. -/
def width : CatalogQuery → ℕ
  | .tables _ => 1
  | .columns _ _ => 7
  | .indexRows _ _ => 4
  | .foreignKeyRows _ _ => 6

/-- If a column is missing, it is one of those asked for and lies beyond the end of the row. -/
def DecodeFault.Fits (row : Row) (width : ℕ) (cause : DecodeFault) : Prop :=
  ∀ index, cause = .noColumn index → row.length ≤ index ∧ index < width

lemma errsOnly_cell {row : Row} {width index : ℕ} {read? : Value → Option α}
    (h : index < width) : ErrsOnly (DecodeFault.Fits row width) (row.cell index read?) := by
  rw [Row.cell]
  split
  · rename_i hmissing
    rintro _ ⟨⟩ _ ⟨⟩
    exact ⟨List.getElem?_eq_none_iff.mp hmissing, h⟩
  · split
    · nofun
    · rintro _ ⟨⟩ _ ⟨⟩

lemma errsOnly_columnOf (schema table : String) (row : Row) :
    ErrsOnly (DecodeFault.Fits row 7) (columnOf schema table row) := by
  rw [columnOf]
  -- One step for each cell, in whatever order they are read.
  iterate 7 refine .bind (errsOnly_cell (by decide)) fun _ => ?_
  exact .pure _

lemma errsOnly_indexEntryOf (row : Row) : ErrsOnly (DecodeFault.Fits row 4) (indexEntryOf row) := by
  rw [indexEntryOf]
  refine .bind (errsOnly_cell (by decide)) fun index => ?_
  refine .bind (errsOnly_cell (by decide)) fun column => ?_
  rcases column with _ | column
  · exact .pure _
  · iterate 2 refine .bind (errsOnly_cell (by decide)) fun _ => ?_
    exact .pure _

lemma errsOnly_foreignKeyRowOf (row : Row) :
    ErrsOnly (DecodeFault.Fits row 6) (foreignKeyRowOf row) := by
  rw [foreignKeyRowOf]
  iterate 6 refine .bind (errsOnly_cell (by decide)) fun _ => ?_
  exact .pure _

theorem fits_of_rowFault? {query : CatalogQuery} {row : Row} {cause : DecodeFault}
    (h : rowFault? query row = some cause) : cause.Fits row (width query) := by
  cases query with
  | tables schema => exact errsOnly_cell Nat.zero_lt_one cause h
  | columns schema table => exact errsOnly_columnOf schema table row cause h
  | indexRows schema table => exact errsOnly_indexEntryOf row cause h
  | foreignKeyRows schema table => exact errsOnly_foreignKeyRowOf row cause h

/-- What the server answers to the query in a session that is connected. -/
def reply (client : Client Failure (List Row) σ) (query : CatalogQuery) (session : Session σ) :
    Except Failure (List Row) := client.reply ⟨statementText query, query, []⟩ session

/-- The failure of the query, or else what is wrong with the first row that cannot be decoded. -/
def replyFault? (client : Client Failure (List Row) σ) (query : CatalogQuery)
    (session : Session σ) : Option Fault :=
  match reply client query session with
  | .ok rows => (rows.findSome? (rowFault? query)).map DecodeFault.fault
  | .error failure => some (.of (.queryFailure (client.report failure)))

lemma fault?_answer_bind (h : client.ready.Returns session () between) {query : CatalogQuery}
    {next : List Row → Action (Session σ) α}
    (hnext : ∀ rows world,
      (next rows).fault? world = (rows.findSome? (rowFault? query)).map DecodeFault.fault) :
    (answer client query >>= next).fault? session = replyFault? client query between := by
  rw [answer, Client.fault?_answer_bind h, replyFault?, reply]
  rcases client.reply ⟨statementText query, query, []⟩ between with failure | rows
  · rfl
  · exact hnext _ _

lemma fault?_ofExcept_mapM (decode : Row → Except DecodeFault α) (rows : List Row)
    (world : Session σ) :
    (Action.ofExcept ((rows.mapM decode).mapError DecodeFault.fault)).fault? world =
      (rows.findSome? fun row => error? (decode row)).map DecodeFault.fault := by
  rw [fault?, outcome_ofExcept, error?_mapError, error?_mapM]

/-- Once there is a connection, only the reply counts for a method of the catalog. -/
theorem fault?_catalog (h : client.ready.Returns session () between) (excluded : List String)
    (query : CatalogQuery) :
    (catalog client).fault? excluded session query = replyFault? client query between := by
  cases query with
  | tables schema =>
    refine (fault?_bind_pure _ _ session).trans ?_
    exact fault?_answer_bind h fun rows world => fault?_ofExcept_mapM _ rows world
  | columns schema table =>
    exact fault?_answer_bind h fun rows world => fault?_ofExcept_mapM _ rows world
  | indexRows schema table =>
    refine fault?_answer_bind h fun rows world => (fault?_bind_pure _ _ world).trans ?_
    have hrow : (fun row => (indexRowOf row).result) =
        fun row => (indexEntryOf row).mapError DecodeFault.fault := funext result_indexRowOf
    rw [fault?, outcome_monadLift, Logged.result_mapM_eq, hrow, error?_mapM, List.map_findSome?]
    congr 1
    exact funext fun row => error?_mapError _ _
  | foreignKeyRows schema table =>
    exact fault?_answer_bind h fun rows world => fault?_ofExcept_mapM _ rows world

/-- The query is answered by rows, and the first of them that cannot be decoded lacks a column. -/
def AnswersShort (client : Client Failure (List Row) σ) (query : CatalogQuery)
    (session : Session σ) : Prop :=
  ∃ rows index, reply client query session = .ok rows ∧
    rows.findSome? (rowFault? query) = some (.noColumn index)

/-- Complete rows lack nothing. -/
lemma AnswersShort.exists_length_lt {query : CatalogQuery}
    (h : AnswersShort client query session) :
    ∃ rows, reply client query session = .ok rows ∧
      ∃ row ∈ rows, row.length < width query := by
  obtain ⟨rows, index, hreply, hfirst⟩ := h
  obtain ⟨row, hrow, hfault⟩ := List.exists_of_findSome?_eq_some hfirst
  obtain ⟨hlength, hwidth⟩ := fits_of_rowFault? hfault index rfl
  exact ⟨rows, hreply, row, hrow, Nat.lt_of_le_of_lt hlength hwidth⟩

theorem categories_cases (h : client.ready.Returns session () between)
    {excluded : List String} {query : CatalogQuery} {fault : Fault}
    (hfault : (catalog client).fault? excluded session query = some fault) :
    (fault.categories = [.queryFailure] ∧ ¬ AnswersShort client query between) ∨
      (fault.categories = [] ∧ AnswersShort client query between) := by
  rw [fault?_catalog h, replyFault?] at hfault
  rcases hreply : reply client query between with failure | rows
  · rw [hreply] at hfault
    obtain rfl := Option.some.inj hfault
    refine .inl ⟨rfl, ?_⟩
    rintro ⟨rows, _, hrows, _⟩
    rw [hreply] at hrows
    cases hrows
  · rw [hreply] at hfault
    obtain ⟨cause, hcause, rfl⟩ := Option.map_eq_some_iff.mp hfault
    rcases cause with index | value
    · exact .inr ⟨rfl, rows, index, hreply, hcause⟩
    · refine .inl ⟨rfl, ?_⟩
      rintro ⟨rows', index, hrows, hfirst⟩
      rw [hreply] at hrows
      obtain rfl := Except.ok.inj hrows
      rw [hcause] at hfirst
      cases hfirst

end Mysql

namespace Catalog

/-- With PostgreSQL and SQLite, all that fails once there is a connection is a query failure, and is
nothing else. So it is with MySQL unless the first row that cannot be decoded lacks a column, which
is a failure without a category; rows with all columns that were asked for do not come to that. -/
theorem categories_of_fault? (excluded : List String) (query : CatalogQuery) (fault : Fault) :
    (∀ (client : Client Postgresql.Failure Postgresql.Rows σ) (session between : Session σ),
      client.ready.Returns session () between →
      (Postgresql.catalog client).fault? excluded session query = some fault →
      fault.categories = [.queryFailure]) ∧
    (∀ (connection : Sqlite.Connection) (world : σ),
      connection.catalog.fault? excluded world query = some fault →
      fault.categories = [.queryFailure]) ∧
    ∀ (client : Client Mysql.Failure (List Mysql.Row) σ) (session between : Session σ),
      client.ready.Returns session () between →
      (Mysql.catalog client).fault? excluded session query = some fault →
      (fault.categories = [.queryFailure] ↔ ¬ Mysql.AnswersShort client query between) ∧
      (fault.categories = [] ↔ Mysql.AnswersShort client query between) ∧
      (Mysql.AnswersShort client query between →
        ∃ rows, Mysql.reply client query between = .ok rows ∧
          ∃ row ∈ rows, row.length < Mysql.width query) := by
  refine ⟨?_, ?_, ?_⟩
  · intro client session between h hfault
    exact (Postgresql.isQueryFailure_of_fault? h hfault).categories_eq
  · intro connection world hfault
    exact (connection.isQueryFailure_of_fault? hfault).categories_eq
  · intro client session between h hfault
    obtain ⟨hcategories, hshort⟩ | ⟨hcategories, hshort⟩ := Mysql.categories_cases h hfault
    · have hnot : fault.categories ≠ [] := by simp [hcategories]
      exact ⟨iff_of_true hcategories hshort, iff_of_false hnot hshort,
        Mysql.AnswersShort.exists_length_lt⟩
    · have hnot : fault.categories ≠ [.queryFailure] := by simp [hcategories]
      exact ⟨iff_of_false hnot (not_not.mpr hshort), iff_of_true hcategories hshort,
        Mysql.AnswersShort.exists_length_lt⟩

/-- A server that gives one answer to everything. -/
def repeating {Failure Answer : Type} (answer : Answer) : ServerScript Failure Answer where
  reach _ := .ok ()
  demandsPassword := false
  notesTexts := false
  notesReconnects := false
  reply := "1"
  answer _ := answer
  failure? _ := none

def shop : DatabaseSettings := { host := "localhost", database := "shop", user := "reader" }

/-- A client of a MySQL server whose rows have two cells. -/
def mysqlPairs : Client Mysql.Failure (List Mysql.Row) (List Heard) :=
  Mysql.client (repeating [[.bytes "weight", .integer 1]]).server (.ofDatabase shop)

/-- A client of a PostgreSQL server whose rows have two cells. -/
def postgresqlPairs : Client Postgresql.Failure Postgresql.Rows (List Heard) :=
  Postgresql.client (repeating ⟨["text", "int4"], [[.text "weight", .integer 1]]⟩).server "root"
    (.ofDatabase shop)

/-- A SQLite database whose rows have two cells. -/
def sqlitePairs : Sqlite.Connection := ⟨fun _ => .ok [[.text "weight", .integer 1]]⟩

theorem categories_of_fault?_pairs :
    (∃ fault, (Postgresql.catalog postgresqlPairs).fault? [] ⟨true, []⟩ (.columns "shop" "item") =
        some fault ∧ fault.categories = [.queryFailure]) ∧
    (∃ fault, sqlitePairs.catalog.fault? [] () (.columns "shop" "item") = some fault ∧
        fault.categories = [.queryFailure]) ∧
    (∃ fault, (Mysql.catalog mysqlPairs).fault? [] ⟨true, []⟩ (.columns "shop" "item") =
        some fault ∧ fault.categories = []) ∧
    ∃ fault, (Mysql.catalog mysqlPairs).fault? [] ⟨true, []⟩ (.indexRows "shop" "item") =
        some fault ∧ fault.categories = [.queryFailure] := by
  have hconnected : mysqlPairs.ready.Returns ⟨true, []⟩ () ⟨true, []⟩ := rfl
  let columns : CatalogQuery := .columns "shop" "item"
  let indexRows : CatalogQuery := .indexRows "shop" "item"
  refine ⟨⟨_, rfl, ?_⟩, ⟨_, rfl, ?_⟩, ⟨_, rfl, ?_⟩, ⟨_, rfl, ?_⟩⟩
  · exact (categories_of_fault? [] columns _).1 postgresqlPairs ⟨true, []⟩ ⟨true, []⟩ rfl rfl
  · exact (categories_of_fault? [] columns _).2.1 sqlitePairs () rfl
  · refine ((categories_of_fault? [] columns _).2.2 mysqlPairs _ _ hconnected rfl).2.1.mpr ?_
    exact ⟨_, 2, rfl, rfl⟩
  · refine ((categories_of_fault? [] indexRows _).2.2 mysqlPairs _ _ hconnected rfl).1.mpr ?_
    rintro ⟨_, _, ⟨⟩, ⟨⟩⟩

/-- A row without a third column is no query failure of MySQL. -/
theorem not_categories_of_fault?_pairs :
    mysqlPairs.ready.Returns ⟨true, []⟩ () ⟨true, []⟩ ∧
    (Mysql.catalog mysqlPairs).fault? [] ⟨true, []⟩ (.columns "shop" "item") =
      some (.of (.adhoc "catalog row has no column 2")) ∧
    (Fault.of (.adhoc "catalog row has no column 2")).categories ≠ [.queryFailure] :=
  ⟨rfl, rfl, by decide⟩

end Catalog

end RelProto
