import Mathlib.Data.List.Nodup
import RelProto.Proofs.List
import RelProto.Proofs.Sqlite.Indexes
import RelProto.Proofs.Sqlite.Query
import RelProto.Proofs.Text.Lowercase

/-! The row number of a SQLite table, for which a key of one integer column can stand. Where columns
are read, such a key is told by its declaration, and where indexes are read by its having none. The
two agree but for declarations that only look like those of a row number. -/
namespace RelProto.Sqlite

/-- How a primary key is declared: behind its only column, or as a list of columns, whose directions
do not count. -/
inductive KeyClause where
  | absent
  | behind (column : String) (descending : Bool)
  | listed (first : String) (rest : List String)

namespace KeyClause

def names : KeyClause → List String
  | absent => []
  | behind column _ => [column]
  | listed first rest => first :: rest

/-- SQLite takes the column for the row number, if it is an integer. -/
def Stands (key : KeyClause) (column : String) : Prop :=
  key = behind column false ∨ key = listed column []

/-- The column is the whole key, yet SQLite does not take it for the row number: the key descends, or
lists the column more than once. -/
def Resembles (key : KeyClause) (column : String) : Prop :=
  key = behind column true ∨
    ∃ rest ≠ [], key = listed column rest ∧ ∀ other ∈ rest, other = column

variable {key : KeyClause} {column : String}

lemma sole_iff :
    (∀ other, other ∈ key.names ↔ other = column) ↔ key.Stands column ∨ key.Resembles column := by
  constructor
  · intro h
    cases key with
    | absent => exact absurd ((h column).mpr rfl) List.not_mem_nil
    | behind name descending =>
      obtain rfl : name = column := (h name).mp List.mem_cons_self
      cases descending with
      | false => exact .inl (.inl rfl)
      | true => exact .inr (.inl rfl)
    | listed first rest =>
      obtain rfl : first = column := (h first).mp List.mem_cons_self
      by_cases hrest : rest = []
      · exact .inl (.inr (hrest ▸ rfl))
      · refine .inr (.inr ⟨rest, hrest, rfl, fun other hother => ?_⟩)
        exact (h other).mp (List.mem_cons_of_mem _ hother)
  · rintro ((rfl | rfl) | rfl | ⟨rest, -, rfl, hrest⟩) other
    · exact List.mem_singleton
    · exact List.mem_singleton
    · exact List.mem_singleton
    · rw [names, List.mem_cons, or_iff_left_of_imp (hrest other)]

lemma Stands.not_resembles (h : key.Stands column) {other : String} : ¬ key.Resembles other := by
  rintro (rfl | ⟨rest, hrest, rfl, -⟩)
  · rcases h with h | h <;> cases h
  · rcases h with h | h <;> cases h
    exact hrest rfl

end KeyClause

structure DeclaredColumn where
  name : String
  type : String
  default : Option String
  notNull : Bool

/-- The type is `INTEGER`, in letters of either case. -/
def DeclaredColumn.IsInteger (column : DeclaredColumn) : Prop :=
  column.type.toList.map Char.toLower = "integer".toList

instance (column : DeclaredColumn) : Decidable column.IsInteger :=
  inferInstanceAs (Decidable (_ = _))

/-- A table with the columns that SQLite tells of; there are less than 32768 of them. -/
structure Declaration where
  columns : List DeclaredColumn
  key : KeyClause
  withoutRowid : Bool
  nodup : (columns.map (·.name)).Nodup
  key_subset : key.names ⊆ columns.map (·.name)
  length_lt : columns.length < 32768

namespace Declaration

/-- The column stands for the row number. -/
def IsRowNumber (declaration : Declaration) (column : DeclaredColumn) : Prop :=
  declaration.withoutRowid = false ∧ column.IsInteger ∧ declaration.key.Stands column.name

/-- The column only looks like the row number. -/
def IsLookalike (declaration : Declaration) (column : DeclaredColumn) : Prop :=
  declaration.withoutRowid = false ∧ column.IsInteger ∧ declaration.key.Resembles column.name

end Declaration

/-- The row of a column behind `index` others; `place` is its place in the key, counted from one, if
it has one. -/
def DeclaredColumn.row (column : DeclaredColumn) (index place : Nat) : Row :=
  [.text column.name, .integer (.ofNat (index + 1)), .text column.type,
    column.default.elim .null .text, .ofTruth? (some column.notNull), .integer (.ofNat place)]

def IndexPart.cells (part : IndexPart) : Row :=
  [.text part.index, part.column.elim .null .text, .ofTruth? (some part.unique),
    .ofTruth? (some part.primary)]

/-- The queries are answered as SQLite does for the table. A primary index has no expressions, and
there is one exactly if the primary key is not the row number. -/
structure Describes (connection : Connection) (schema table : String) (declaration : Declaration)
    (parts : List IndexPart) : Prop where
  columns : ∃ place : String → Nat,
    (∀ name, (0 < place name ↔ name ∈ declaration.key.names) ∧ place name < 32768) ∧
    connection.answer (.columns schema table) =
      .ok (declaration.columns.zipIdx.map fun (column, index) => column.row index (place column.name))
  withoutRowid : connection.answer (.withoutRowid schema table) =
    .ok [[.ofTruth? (some declaration.withoutRowid)]]
  indexes : connection.answer (.indexes schema table) = .ok (parts.map IndexPart.cells)
  primary_isSome : ∀ part ∈ parts, part.primary = true → part.column.isSome
  primary_iff : (∃ part ∈ parts, part.primary = true) ↔
    declaration.key.names ≠ [] ∧ ¬ ∃ column ∈ declaration.columns, declaration.IsRowNumber column

variable {connection : Connection} {schema table : String} {declaration : Declaration}
  {parts : List IndexPart}

section Decoding

lemma indexPartOf_cells (names : List String) (part : IndexPart) :
    indexPartOf ⟨names, part.cells⟩ = .ok part := by
  rw [indexPartOf, Cells.text_eq rfl, Cells.optionalText_eq rfl, Cells.flag_truth_eq rfl,
    Cells.flag_truth_eq rfl]
  rfl

/-- What is read of a column; `key` has the names of the columns in the primary key. -/
def DeclaredColumn.decoded (schema table : String) (key : List String) (column : DeclaredColumn)
    (index : Nat) : Column :=
  { schema, table, name := column.name, ordinal := (index + 1).toUInt32,
    dataType := Text.lower column.type, nativeType := Text.lower column.type,
    default := column.default, nullable := !column.notNull, sequence := false,
    primaryKey := decide (column.name ∈ key) }

lemma columnOf_row (names : List String) {column : DeclaredColumn} {index place : Nat}
    {key : List String} (hindex : index < 32768) (hplace : place < 32768)
    (hkey : 0 < place ↔ column.name ∈ key) :
    columnOf schema table ⟨names, column.row index place⟩ =
      .ok (column.decoded schema table key index) := by
  have hsize : UInt32.size = 4294967296 := rfl
  have hprimary : decide (0 < place.toUInt32) = decide (column.name ∈ key) := by
    rw [decide_eq_decide, ← hkey, UInt32.lt_iff_toNat_lt, Nat.toUInt32,
      UInt32.toNat_ofNat_of_lt' (by omega)]
    rfl
  rw [columnOf, Cells.text_eq rfl, Cells.text_eq rfl, Cells.word_ofNat_eq rfl (by omega),
    Cells.optionalText_eq rfl, Cells.flag_truth_eq rfl, Cells.word_ofNat_eq rfl (by omega),
    DeclaredColumn.decoded, ← hprimary]
  rfl

end Decoding

namespace Declaration

/-- The columns that are declared, in their order. Those are flagged that are the row number, and
those that only look like it. -/
structure Shows (declaration : Declaration) (declared : DeclaredColumn) (column : Column) : Prop where
  name_eq : column.name = declared.name
  primaryKey_iff : column.primaryKey = true ↔ declared.name ∈ declaration.key.names
  sequence_iff : column.sequence = true ↔
    declaration.IsRowNumber declared ∨ declaration.IsLookalike declared

/-- What is read of the columns, before any is known to be the row number. -/
def decoded (declaration : Declaration) (schema table : String) : List Column :=
  declaration.columns.zipIdx.map fun (column, index) =>
    column.decoded schema table declaration.key.names index

/-- The columns as they are shown. -/
def shown (declaration : Declaration) (schema table : String) : List Column :=
  let columns := declaration.decoded schema table
  columns.map fun column =>
    { column with
      sequence := !declaration.withoutRowid && isSoleIntegerKey columns column }

/-- Without a column that may be the row number the columns are shown as they were read. -/
lemma shown_eq_decoded (h : ¬ (declaration.decoded schema table).any
    (isSoleIntegerKey (declaration.decoded schema table)) = true) :
    declaration.shown schema table = declaration.decoded schema table := by
  rw [shown]
  conv_rhs => rw [← List.map_id (declaration.decoded schema table)]
  apply List.map_congr_left
  intro column hcolumn
  have hsole : isSoleIntegerKey (declaration.decoded schema table) column = false :=
    Bool.eq_false_iff.mpr fun hsole => h (List.any_eq_true.mpr ⟨column, hcolumn, hsole⟩)
  rw [hsole, Bool.and_false]
  obtain ⟨⟨declared, index⟩, -, rfl⟩ := List.mem_map.mp hcolumn
  rfl

variable (declaration schema table) in
lemma map_name_keys : ((declaration.decoded schema table).filter (·.primaryKey)).map (·.name) =
    (declaration.columns.map (·.name)).filter (· ∈ declaration.key.names) := by
  rw [decoded, List.filter_map, List.map_map]
  conv_rhs => rw [← List.zipIdx_map_fst 0 declaration.columns, List.map_map, List.filter_map]
  rfl

lemma length_keys_eq_one_iff {name : String} :
    name ∈ declaration.key.names ∧
      ((declaration.columns.map (·.name)).filter (· ∈ declaration.key.names)).length = 1 ↔
      ∀ other, other ∈ declaration.key.names ↔ other = name := by
  have hmem : ∀ other, other ∈ (declaration.columns.map (·.name)).filter
      (· ∈ declaration.key.names) ↔ other ∈ declaration.key.names := by
    intro other
    rw [List.mem_filter, decide_eq_true_iff, and_iff_right_of_imp fun h => declaration.key_subset h]
  constructor
  · rintro ⟨hname, hlength⟩ other
    obtain ⟨only, honly⟩ := List.length_eq_one_iff.mp hlength
    simp only [honly, List.mem_singleton] at hmem
    rw [← hmem, (hmem name).mpr hname]
  · intro honly
    refine ⟨(honly name).mpr rfl, List.length_eq_one_iff.mpr ⟨name, List.perm_singleton.mp ?_⟩⟩
    rw [List.perm_ext_iff_of_nodup (declaration.nodup.filter _) (List.nodup_singleton _)]
    intro other
    rw [hmem, honly, List.mem_singleton]

lemma isSoleIntegerKey_iff {declared : DeclaredColumn} {index : Nat} :
    isSoleIntegerKey (declaration.decoded schema table)
        (declared.decoded schema table declaration.key.names index) = true ↔
      declared.IsInteger ∧
        (declaration.key.Stands declared.name ∨ declaration.key.Resembles declared.name) := by
  have hlength : ((declaration.decoded schema table).filter (·.primaryKey)).length =
      ((declaration.columns.map (·.name)).filter (· ∈ declaration.key.names)).length := by
    rw [← map_name_keys schema table, List.length_map]
  have htype : Text.lower declared.type = "integer" ↔ declared.IsInteger :=
    Text.lower_eq_iff (by simp [Text.IsPlainLetter])
  rw [isSoleIntegerKey, Bool.and_eq_true, Bool.and_eq_true, beq_iff_eq, beq_iff_eq, hlength,
    ← KeyClause.sole_iff, ← length_keys_eq_one_iff, and_assoc, and_left_comm]
  exact and_congr htype (and_congr decide_eq_true_iff .rfl)

variable (declaration schema table) in
lemma forall₂_shows :
    List.Forall₂ declaration.Shows declaration.columns (declaration.shown schema table) := by
  suffices h : List.Forall₂ declaration.Shows (declaration.columns.zipIdx.map Prod.fst)
      (declaration.shown schema table) by rwa [List.zipIdx_map_fst] at h
  rw [shown, decoded, List.map_map, List.forall₂_map_left_iff, List.forall₂_map_right_iff,
    List.forall₂_same]
  rintro ⟨declared, index⟩ -
  refine ⟨rfl, decide_eq_true_iff, ?_⟩
  rw [Function.comp_apply, Bool.and_eq_true, ← decoded, isSoleIntegerKey_iff, Bool.not_eq_true',
    and_or_left, and_or_left]
  rfl

lemma exists_declared {column : Column} (h : column ∈ declaration.shown schema table) :
    ∃ declared ∈ declaration.columns, declaration.Shows declared column := by
  have hshows : List.Forall₂ (fun column declared => declaration.Shows declared column)
      (declaration.shown schema table) declaration.columns :=
    (forall₂_shows schema table declaration).flip
  exact exists_mem_of_forall₂ hshows h

lemma exists_sequence_iff :
    (∃ column ∈ declaration.shown schema table, column.sequence = true) ↔
      ∃ declared ∈ declaration.columns,
        declaration.IsRowNumber declared ∨ declaration.IsLookalike declared := by
  constructor
  · rintro ⟨column, hcolumn, hsequence⟩
    obtain ⟨declared, hdeclared, hshows⟩ := exists_declared hcolumn
    exact ⟨declared, hdeclared, hshows.sequence_iff.mp hsequence⟩
  · rintro ⟨declared, hdeclared, hnumber⟩
    obtain ⟨column, hcolumn, hshows⟩ :=
      exists_mem_of_forall₂ (forall₂_shows schema table declaration) hdeclared
    exact ⟨column, hcolumn, hshows.sequence_iff.mpr hnumber⟩

lemma keyRows_ne_nil_iff {index : String} :
    Connection.keyRows index (declaration.shown schema table) ≠ [] ↔ declaration.key.names ≠ [] := by
  have hcolumns : Connection.keyRows index (declaration.shown schema table) ≠ [] ↔
      ∃ column ∈ declaration.shown schema table, column.primaryKey = true := by
    rw [Connection.keyRows, Ne, List.map_eq_nil_iff, List.filter_eq_nil_iff]
    push Not
    rfl
  rw [hcolumns]
  constructor
  · rintro ⟨column, hcolumn, hkey⟩
    obtain ⟨declared, -, hshows⟩ := exists_declared hcolumn
    exact List.ne_nil_of_mem (hshows.primaryKey_iff.mp hkey)
  · intro hkeyed
    obtain ⟨name, hname⟩ := List.exists_mem_of_ne_nil _ hkeyed
    obtain ⟨declared, hdeclared, rfl⟩ := List.mem_map.mp (declaration.key_subset hname)
    obtain ⟨column, hcolumn, hshows⟩ :=
      exists_mem_of_forall₂ (forall₂_shows schema table declaration) hdeclared
    exact ⟨column, hcolumn, hshows.primaryKey_iff.mpr hname⟩

lemma eq_of_sole {declared : DeclaredColumn}
    (h : declaration.IsRowNumber declared ∨ declaration.IsLookalike declared) (other : String) :
    other ∈ declaration.key.names ↔ other = declared.name :=
  KeyClause.sole_iff.mpr (h.imp (·.2.2) (·.2.2)) other

lemma names_ne_nil {declared : DeclaredColumn}
    (h : declaration.IsRowNumber declared ∨ declaration.IsLookalike declared) :
    declaration.key.names ≠ [] :=
  List.ne_nil_of_mem ((eq_of_sole h _).mpr rfl)

lemma IsRowNumber.not_isLookalike {declared other : DeclaredColumn}
    (h : declaration.IsRowNumber declared) : ¬ declaration.IsLookalike other :=
  fun hother => h.2.2.not_resembles hother.2.2

/-- The row number is the only column that is flagged, and the only one in the primary key. -/
lemma IsRowNumber.filter_eq {declared : DeclaredColumn} (hdeclared : declared ∈ declaration.columns)
    (h : declaration.IsRowNumber declared) : ∃ column,
      (declaration.shown schema table).filter (·.sequence) = [column] ∧
      (declaration.shown schema table).filter (·.primaryKey) = [column] := by
  have hsole := eq_of_sole (.inl h)
  have hlength : ((declaration.shown schema table).filter (·.primaryKey)).length = 1 := by
    rw [← (length_keys_eq_one_iff.mpr hsole).2, ← map_name_keys schema table, List.length_map,
      shown, List.filter_map, List.length_map]
    rfl
  obtain ⟨column, hcolumn⟩ := List.length_eq_one_iff.mp hlength
  refine ⟨column, ?_, hcolumn⟩
  rw [← hcolumn]
  apply List.filter_congr
  intro other hother
  obtain ⟨declared', hdeclared', hshows⟩ := exists_declared hother
  rw [Bool.eq_iff_iff, hshows.sequence_iff, hshows.primaryKey_iff]
  constructor
  · intro hnumber
    exact (eq_of_sole hnumber _).mpr rfl
  · intro hname
    obtain rfl : declared' = declared :=
      List.inj_on_of_nodup_map declaration.nodup hdeclared' hdeclared ((hsole _).mp hname)
    exact .inl h

end Declaration

namespace Describes

variable (h : Describes connection schema table declaration parts)
include h

lemma select_parts : connection.select (.indexes schema table) indexPartOf = .ok parts := by
  have hparts := Connection.select_eq_ok h.indexes fun part _ => indexPartOf_cells _ part
  rwa [List.map_id'] at hparts

lemma columns_eq : connection.columns schema table = .ok (declaration.shown schema table) := by
  have hread : connection.select (.columns schema table) (columnOf schema table) =
      .ok (declaration.decoded schema table) := by
    obtain ⟨place, hplace, hanswer⟩ := h.columns
    apply Connection.select_eq_ok hanswer
    rintro ⟨column, index⟩ hmem
    have hindex := (List.mem_zipIdx hmem).2.1
    have hlength := declaration.length_lt
    exact columnOf_row _ (by omega) (hplace column.name).2 (hplace column.name).1
  have hnumbered : connection.isWithoutRowid schema table = .ok declaration.withoutRowid := by
    rw [Connection.isWithoutRowid, Connection.selectFirst, h.withoutRowid]
    have hflag : (Cells.mk (Query.withoutRowid schema table).columnNames
        [.ofTruth? (some declaration.withoutRowid)]).flag 0 = .ok declaration.withoutRowid :=
      Cells.flag_truth_eq rfl
    simp only [hflag]
    rfl
  rw [Connection.columns, hread]
  by_cases hsole : (declaration.decoded schema table).any
      (isSoleIntegerKey (declaration.decoded schema table)) = true
  · simp only [bind, Except.bind, if_pos hsole, hnumbered]
    rfl
  · simp only [bind, Except.bind, if_neg hsole]
    rw [Declaration.shown_eq_decoded hsole]
    rfl

section Primary

variable (hprimary : ∃ part ∈ parts, part.primary = true)
include hprimary

lemma result_indexRows_of_primary :
    (connection.indexRows schema table).result = .ok (parts.filterMap IndexPart.row?) := by
  obtain ⟨part, hpart, hkey⟩ := hprimary
  rw [Connection.result_indexRows h.select_parts,
    if_pos (any_primary_rows.mpr ⟨part, hpart, hkey, h.primary_isSome part hpart hkey⟩)]

lemma exists_sequence_iff_of_primary :
    (∃ column ∈ declaration.shown schema table, column.sequence = true) ↔
      ∃ declared ∈ declaration.columns, declaration.IsLookalike declared := by
  have hnone := (h.primary_iff.mp hprimary).2
  rw [Declaration.exists_sequence_iff]
  constructor
  · rintro ⟨declared, hdeclared, hnumber | hlookalike⟩
    · exact absurd ⟨declared, hdeclared, hnumber⟩ hnone
    · exact ⟨declared, hdeclared, hlookalike⟩
  · rintro ⟨declared, hdeclared, hlookalike⟩
    exact ⟨declared, hdeclared, .inr hlookalike⟩

end Primary

section NotPrimary

variable (hprimary : ¬ ∃ part ∈ parts, part.primary = true)
include hprimary

lemma result_indexRows_of_not_primary : ∃ index, (connection.indexRows schema table).result =
    .ok (parts.filterMap IndexPart.row? ++
      Connection.keyRows index (declaration.shown schema table)) := by
  have hrows : ¬ (parts.filterMap IndexPart.row?).any (·.primary) = true := by
    rw [any_primary_rows]
    rintro ⟨part, hpart, hkey, -⟩
    exact hprimary ⟨part, hpart, hkey⟩
  rw [Connection.result_indexRows h.select_parts, if_neg hrows, h.columns_eq]
  exact ⟨_, rfl⟩

/-- A column is the row number, if there is a primary key. -/
lemma exists_isRowNumber (hkeyed : declaration.key.names ≠ []) :
    ∃ declared ∈ declaration.columns, declaration.IsRowNumber declared := by
  by_contra hnone
  exact hprimary (h.primary_iff.mpr ⟨hkeyed, hnone⟩)

lemma exists_sequence_iff_of_not_primary :
    (∃ column ∈ declaration.shown schema table, column.sequence = true) ↔
      declaration.key.names ≠ [] := by
  rw [Declaration.exists_sequence_iff]
  constructor
  · rintro ⟨declared, -, hsole⟩
    exact Declaration.names_ne_nil hsole
  · intro hkeyed
    obtain ⟨declared, hdeclared, hnumber⟩ := h.exists_isRowNumber hprimary hkeyed
    exact ⟨declared, hdeclared, .inl hnumber⟩

lemma not_exists_isLookalike :
    ¬ ∃ declared ∈ declaration.columns, declaration.IsLookalike declared := by
  rintro ⟨other, -, hlookalike⟩
  obtain ⟨declared, -, hnumber⟩ :=
    h.exists_isRowNumber hprimary (Declaration.names_ne_nil (.inr hlookalike))
  exact hnumber.not_isLookalike hlookalike

end NotPrimary

end Describes

/-- A column is flagged exactly if an index over the primary key is added, and then it is the only
column of that index: unless the table has a column that only looks like the row number. Such a
column is flagged although the primary key has an index in the database, and none is added. -/
theorem Connection.sequence_agrees_iff (connection : Connection) (schema table : String)
    (declaration : Declaration) (parts : List IndexPart)
    (hdescribes : Describes connection schema table declaration parts) :
    ∃ columns added, connection.columns schema table = .ok columns ∧
      List.Forall₂ declaration.Shows declaration.columns columns ∧
      (connection.indexRows schema table).result =
        .ok (parts.filterMap IndexPart.row? ++ added) ∧
      (added ≠ [] ↔ declaration.key.names ≠ [] ∧ ∀ part ∈ parts, part.primary = false) ∧
      (added ≠ [] → ∃ index column, columns.filter (·.sequence) = [column] ∧
        added = [⟨index, column.name, true, true⟩]) ∧
      (((∃ column ∈ columns, column.sequence = true) ↔ added ≠ []) ↔
        ¬ ∃ declared ∈ declaration.columns, declaration.IsLookalike declared) := by
  have hshows := Declaration.forall₂_shows schema table declaration
  by_cases hprimary : ∃ part ∈ parts, part.primary = true
  · have hrows := hdescribes.result_indexRows_of_primary hprimary
    refine ⟨_, [], hdescribes.columns_eq, hshows, hrows.trans ?_, ?_, nofun, ?_⟩
    · rw [List.append_nil]
    · refine iff_of_false (fun hadded => hadded rfl) fun hnone => ?_
      obtain ⟨part, hpart, hkey⟩ := hprimary
      rw [hnone.2 part hpart] at hkey
      cases hkey
    · rw [hdescribes.exists_sequence_iff_of_primary hprimary]
      simp
  · obtain ⟨index, hrows⟩ := hdescribes.result_indexRows_of_not_primary hprimary
    refine ⟨_, _, hdescribes.columns_eq, hshows, hrows, ?_, ?_, ?_⟩
    · rw [Declaration.keyRows_ne_nil_iff, iff_self_and]
      intro _ part hpart
      exact Bool.eq_false_iff.mpr fun hkey => hprimary ⟨part, hpart, hkey⟩
    · intro hadded
      obtain ⟨declared, hdeclared, hnumber⟩ := hdescribes.exists_isRowNumber hprimary
        (Declaration.keyRows_ne_nil_iff.mp hadded)
      obtain ⟨column, hsequence, hkey⟩ := hnumber.filter_eq hdeclared
      exact ⟨index, column, hsequence, by rw [keyRows, hkey]; rfl⟩
    · rw [hdescribes.exists_sequence_iff_of_not_primary hprimary, Declaration.keyRows_ne_nil_iff]
      exact iff_of_true .rfl (hdescribes.not_exists_isLookalike hprimary)

/-- The key is declared behind its column, an integer. -/
def keyedPart (descending : Bool) : Declaration where
  columns := [⟨"id", "INTEGER", none, false⟩, ⟨"name", "TEXT", none, true⟩]
  key := .behind "id" descending
  withoutRowid := false
  nodup := by decide
  key_subset := by simp [KeyClause.names]
  length_lt := by decide

/-- SQLite keeps an index for the key if it descends. -/
def keyParts (descending : Bool) : List IndexPart :=
  if descending then [⟨"sqlite_autoindex_part_1", some "id", true, true⟩] else []

def keyedDatabase (descending : Bool) : Connection :=
  Connection.partDatabase ((keyParts descending).map IndexPart.cells)

lemma describes_keyedPart (descending : Bool) :
    Describes (keyedDatabase descending) "main" "part" (keyedPart descending)
      (keyParts descending) where
  columns := by
    refine ⟨fun name => if name = "id" then 1 else 0, fun name => ?_, rfl⟩
    by_cases hname : name = "id" <;> simp [hname, keyedPart, KeyClause.names]
  withoutRowid := rfl
  indexes := rfl
  primary_isSome := by cases descending <;> decide
  primary_iff := by
    cases descending with
    | false =>
      refine iff_of_false (by decide) fun hnone => hnone.2 ?_
      exact ⟨_, List.mem_cons_self, rfl, by decide, .inl rfl⟩
    | true =>
      refine iff_of_true (by decide) ⟨List.cons_ne_nil _ _, ?_⟩
      rintro ⟨column, -, -, -, hkey⟩
      simp [KeyClause.Stands, keyedPart] at hkey

theorem Connection.sequence_agrees_iff_part :
    Describes (keyedDatabase false) "main" "part" (keyedPart false) (keyParts false) ∧
      ∃ columns added, (keyedDatabase false).columns "main" "part" = .ok columns ∧
        ((keyedDatabase false).indexRows "main" "part").result = .ok added ∧ added ≠ [] ∧
        ∃ index column, columns.filter (·.sequence) = [column] ∧
          added = [⟨index, column.name, true, true⟩] := by
  have hdescribes := describes_keyedPart false
  obtain ⟨columns, added, hcolumns, -, hrows, hadded, hsame, -⟩ :=
    sequence_agrees_iff (keyedDatabase false) "main" "part" (keyedPart false) (keyParts false) hdescribes
  have hpresent : added ≠ [] := hadded.mpr ⟨List.cons_ne_nil _ _, by decide⟩
  exact ⟨hdescribes, columns, added, hcolumns, hrows, hpresent, hsame hpresent⟩

/-- The key descends: it has an index in the database, so that none is added, and yet its column is
flagged. -/
theorem Connection.not_sequence_agrees_descending :
    Describes (keyedDatabase true) "main" "part" (keyedPart true) (keyParts true) ∧
      (keyedDatabase true).columns "main" "part" = .ok partColumns ∧
      (∃ column ∈ partColumns, column.sequence = true) ∧
      (∃ part ∈ keyParts true, part.primary = true) ∧
      ((keyedDatabase true).indexRows "main" "part").result =
        .ok ((keyParts true).filterMap IndexPart.row?) := by
  have hprimary : ∃ part ∈ keyParts true, part.primary = true := by decide
  exact ⟨describes_keyedPart true, rfl, by decide, hprimary,
    (describes_keyedPart true).result_indexRows_of_primary hprimary⟩

end RelProto.Sqlite
