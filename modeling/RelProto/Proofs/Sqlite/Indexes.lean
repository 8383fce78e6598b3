import RelProto.Proofs.CatalogRow
import RelProto.Proofs.Text.FreshName
import RelProto.Sqlite.Catalog

/-! The indexes of a SQLite table. The parts that the query lists always group into those indexes
that have a column; without a primary one the primary key comes last, under a name that they leave
free. -/
namespace RelProto.Sqlite

section Parts

/-- The part as a row; an expression has none. -/
def IndexPart.row? (part : IndexPart) : Option IndexRow :=
  part.column.map fun column => ⟨part.index, column, part.unique, part.primary⟩

lemma IndexPart.result_row (part : IndexPart) : part.row.result = .ok part.row? := by
  rw [row, row?]
  cases part.column with
  | some column => rfl
  | none => rfl

/-- The columns of the index, in their order. -/
def namedColumns (parts : List IndexPart) (name : String) : List String :=
  (parts.filter fun part => part.index = name).filterMap (·.column)

/-- The parts of one index follow each other and agree in what they say of it, and only one index is
the primary one. -/
structure WellListed (parts : List IndexPart) : Prop where
  contiguous : (runKeys IndexPart.index parts).Nodup
  flags_eq : ∀ part ∈ parts, ∀ other ∈ parts, part.index = other.index →
    part.unique = other.unique ∧ part.primary = other.primary
  primary_eq : ∀ part ∈ parts, ∀ other ∈ parts, part.primary = true → other.primary = true →
    part.index = other.index

/-- The indexes are those of the parts that have a column, in the order of the parts. -/
structure ShowsIndexes (schema table : String) (parts : List IndexPart) (indexes : List Index) :
    Prop where
  nodup : (indexes.map (·.name)).Nodup
  names : indexes.map (·.name) =
    (runKeys IndexPart.index parts).filter fun name => namedColumns parts name ≠ []
  shows : ∀ index ∈ indexes, index.schema = schema ∧ index.table = table ∧
    index.columns = namedColumns parts index.name ∧
    ∀ part ∈ parts, part.index = index.name → index.kind = .ofFlags part.primary part.unique

/-- What comes behind the indexes that are shown: one over the primary key, unless there is none. It
has the first name that these leave free. An index that is not shown can have the name too, unless
it is also the first one that all indexes leave free. -/
inductive AddsKey (schema table : String) (parts : List IndexPart) (shown : List Index)
    (columns : List Column) : List Index → Prop
  | absent (unkeyed : ∀ column ∈ columns, column.primaryKey = false) :
      AddsKey schema table parts shown columns []
  | present {name : String} (keyed : ∃ column ∈ columns, column.primaryKey = true)
      (name_eq : name = Text.freshName (table ++ "_pkey") (shown.map (·.name)))
      (fresh : name ∉ shown.map (·.name))
      (unlisted_iff : name ∉ parts.map (·.index) ↔
        name = Text.freshName (table ++ "_pkey") (parts.map (·.index))) :
      AddsKey schema table parts shown columns
        [⟨schema, table, name, .primaryKey, (columns.filter (·.primaryKey)).map (·.name)⟩]

variable {parts : List IndexPart}

lemma map_index_rows (parts : List IndexPart) :
    (parts.filterMap IndexPart.row?).map (·.index) =
      (parts.filter fun part => part.column.isSome).map (·.index) := by
  rw [List.map_filterMap, ← List.filterMap_eq_map, ← List.filterMap_eq_filter,
    List.filterMap_filterMap]
  apply List.filterMap_congr
  rintro ⟨index, _ | column, unique, primary⟩ _ <;> rfl

lemma map_column_rows (parts : List IndexPart) (name : String) :
    ((parts.filterMap IndexPart.row?).filter fun row => row.index = name).map (·.column) =
      namedColumns parts name := by
  rw [List.filter_filterMap, List.map_filterMap, namedColumns, ← List.filterMap_eq_filter,
    List.filterMap_filterMap]
  apply List.filterMap_congr
  rintro ⟨index, _ | column, unique, primary⟩ _
  · by_cases hname : index = name <;> simp [IndexPart.row?, Option.guard, hname]
  · by_cases hname : index = name <;> simp [IndexPart.row?, Option.guard, hname]

lemma namedColumns_ne_nil_iff {name : String} : namedColumns parts name ≠ [] ↔
    ∃ part ∈ parts, part.index = name ∧ part.column.isSome := by
  rw [namedColumns, Ne, List.filterMap_eq_nil_iff]
  push Not
  simp only [List.mem_filter, decide_eq_true_iff, and_assoc, Option.isSome_iff_ne_none]

lemma runKeys_rows (h : (runKeys IndexPart.index parts).Nodup) :
    runKeys IndexRow.index (parts.filterMap IndexPart.row?) =
      (runKeys IndexPart.index parts).filter fun name => namedColumns parts name ≠ [] := by
  have hsome : runKeys IndexRow.index (parts.filterMap IndexPart.row?) =
      runKeys IndexPart.index (parts.filter fun part => part.column.isSome) := by
    rw [runKeys_eq_destutter, runKeys_eq_destutter, ← map_index_rows]
  rw [hsome, runKeys_filter h]
  apply List.filter_congr
  intro name _
  rw [decide_eq_decide, namedColumns_ne_nil_iff, List.mem_map]
  simp only [List.mem_filter]
  constructor
  · rintro ⟨part, ⟨hpart, hcolumn⟩, hname⟩
    exact ⟨part, hpart, hname, hcolumn⟩
  · rintro ⟨part, hpart, hname, hcolumn⟩
    exact ⟨part, ⟨hpart, hcolumn⟩, hname⟩

lemma exists_part_of_mem_rows {row : IndexRow} (h : row ∈ parts.filterMap IndexPart.row?) :
    ∃ part ∈ parts, part.column.isSome ∧ part.index = row.index ∧ part.unique = row.unique ∧
      part.primary = row.primary := by
  obtain ⟨part, hpart, hrow⟩ := List.mem_filterMap.mp h
  obtain ⟨column, hcolumn, rfl⟩ := Option.map_eq_some_iff.mp hrow
  exact ⟨part, hpart, by simp [hcolumn], rfl, rfl, rfl⟩

lemma any_primary_rows : (parts.filterMap IndexPart.row?).any (·.primary) = true ↔
    ∃ part ∈ parts, part.primary = true ∧ part.column.isSome := by
  rw [List.any_eq_true]
  constructor
  · rintro ⟨row, hrow, hprimary⟩
    obtain ⟨part, hpart, hcolumn, -, -, hsame⟩ := exists_part_of_mem_rows hrow
    exact ⟨part, hpart, hsame.trans hprimary, hcolumn⟩
  · rintro ⟨part, hpart, hprimary, hcolumn⟩
    obtain ⟨column, hcolumn⟩ := Option.isSome_iff_exists.mp hcolumn
    refine ⟨⟨part.index, column, part.unique, part.primary⟩, ?_, hprimary⟩
    exact List.mem_filterMap.mpr ⟨part, hpart, by rw [IndexPart.row?, hcolumn]; rfl⟩

/-- Rows of parts that are well listed are always accepted. -/
theorem exists_showsIndexes (schema table : String) (h : WellListed parts) :
    ∃ indexes, indexesOf schema table (parts.filterMap IndexPart.row?) = .ok indexes ∧
      ShowsIndexes schema table parts indexes := by
  have hkeys := runKeys_rows h.contiguous
  have hnodup : (runKeys IndexRow.index (parts.filterMap IndexPart.row?)).Nodup := by
    rw [hkeys]
    exact h.contiguous.filter _
  have hindexes : indexesOf schema table (parts.filterMap IndexPart.row?) = .ok _ :=
    indexesOf_eq_ok_iff.mpr ⟨hnodup, rfl⟩
  have hnames := map_name_of_indexesOf hindexes
  refine ⟨_, hindexes, hnames ▸ hnodup, hnames.trans hkeys, ?_⟩
  intro index hindex
  obtain ⟨hschema, htable, hcolumns, row, hrow, hname, hkind⟩ := of_mem_indexesOf hindexes hindex
  refine ⟨hschema, htable, hcolumns.trans (map_column_rows parts index.name), ?_⟩
  intro part hpart hpartName
  obtain ⟨first, hfirst, -, hindexEq, hunique, hprimary⟩ := exists_part_of_mem_rows hrow
  obtain ⟨hsameUnique, hsamePrimary⟩ :=
    h.flags_eq part hpart first hfirst (hpartName.trans (hname.symm.trans hindexEq.symm))
  rw [hkind, hsameUnique, hsamePrimary, hunique, hprimary]

namespace ShowsIndexes

variable {schema table : String} {indexes : List Index}
  (h : ShowsIndexes schema table parts indexes)
include h

lemma mem_names_iff {name : String} : name ∈ indexes.map (·.name) ↔
    ∃ part ∈ parts, part.index = name ∧ part.column.isSome := by
  rw [h.names, List.mem_filter, decide_eq_true_iff, namedColumns_ne_nil_iff, and_iff_right_iff_imp]
  rintro ⟨part, hpart, rfl, -⟩
  exact mem_runKeys.mpr (List.mem_map_of_mem hpart)

/-- An index that is shown is the primary one exactly if a part with a column says so. -/
lemma isPrimaryKey_iff {index : Index} (hindex : index ∈ indexes) :
    index.isPrimaryKey = true ↔
      ∃ part ∈ parts, part.index = index.name ∧ part.column.isSome ∧ part.primary = true := by
  obtain ⟨-, -, -, hkind⟩ := h.shows index hindex
  have hprimary : ∀ part ∈ parts, part.index = index.name →
      (index.isPrimaryKey = true ↔ part.primary = true) := by
    intro part hpart hname
    rw [Index.isPrimaryKey, hkind part hpart hname]
    cases part.primary <;> cases part.unique <;> decide
  constructor
  · intro hkey
    obtain ⟨part, hpart, hname, hcolumn⟩ := h.mem_names_iff.mp (List.mem_map_of_mem hindex)
    exact ⟨part, hpart, hname, hcolumn, (hprimary part hpart hname).mp hkey⟩
  · rintro ⟨part, hpart, hname, -, hkey⟩
    exact (hprimary part hpart hname).mpr hkey

end ShowsIndexes

end Parts

namespace Connection

variable {connection : Connection} {schema table : String} {parts : List IndexPart}

lemma result_indexRows
    (hparts : connection.select (.indexes schema table) indexPartOf = .ok parts) :
    (connection.indexRows schema table).result =
      if (parts.filterMap IndexPart.row?).any (·.primary) then .ok (parts.filterMap IndexPart.row?)
      else (connection.columns schema table).map fun columns =>
        parts.filterMap IndexPart.row? ++ keyRows (Text.freshName (table ++ "_pkey")
          ((parts.filterMap IndexPart.row?).map (·.index))) columns := by
  have hread : (Logged.ofExcept (connection.select (.indexes schema table) indexPartOf)).result =
      .ok parts := hparts
  have hrows : (parts.mapM IndexPart.row).result = .ok (parts.map IndexPart.row?) :=
    Logged.result_mapM IndexPart.result_row parts
  rw [indexRows, Logged.result_bind_of_ok hread, Logged.result_bind_of_ok hrows,
    List.filterMap_map, Function.id_comp]
  by_cases hany : (parts.filterMap IndexPart.row?).any (·.primary) = true
  · simp only [if_pos hany, Logged.pure_eq]
  · simp only [if_neg hany]
    cases connection.columns schema table <;> rfl

/-- The index over the primary key under the name, if there is a primary key. -/
def keyIndexes (schema table name : String) (columns : List Column) : List Index :=
  let names := (columns.filter (·.primaryKey)).map (·.name)
  if names = [] then [] else [⟨schema, table, name, .primaryKey, names⟩]

lemma indexesOf_keyRows (schema table name : String) (columns : List Column) :
    indexesOf schema table (keyRows name columns) =
      .ok (keyIndexes schema table name columns) := by
  rw [keyRows, keyIndexes]
  cases columns.filter (·.primaryKey) with
  | nil => rfl
  | cons first rest =>
    rw [List.map_cons, indexesOf_cons (by simp)]
    simp [IndexKind.ofFlags, Function.comp_def]

lemma addsKey_keyIndexes {shown : List Index} (hshown : ShowsIndexes schema table parts shown)
    (columns : List Column) : AddsKey schema table parts shown columns
      (keyIndexes schema table (Text.freshName (table ++ "_pkey") (shown.map (·.name)))
        columns) := by
  rw [keyIndexes]
  by_cases hkeys : (columns.filter (·.primaryKey)).map (·.name) = []
  · rw [if_pos hkeys]
    apply AddsKey.absent
    simpa using hkeys
  · rw [if_neg hkeys]
    refine .present ?_ rfl (Text.freshName_notMem _ _) (Text.freshName_notMem_iff ?_)
    · simpa using hkeys
    · intro name hname
      obtain ⟨part, hpart, rfl, -⟩ := hshown.mem_names_iff.mp hname
      exact List.mem_map_of_mem hpart

/-- Rows for the primary key are accepted behind those of the parts, under a name that is free. -/
lemma indexesOf_append_keyRows {shown : List Index}
    (hindexes : indexesOf schema table (parts.filterMap IndexPart.row?) = .ok shown)
    (hshown : ShowsIndexes schema table parts shown) (columns : List Column) :
    ∃ added, AddsKey schema table parts shown columns added ∧
      indexesOf schema table (parts.filterMap IndexPart.row? ++
        keyRows (Text.freshName (table ++ "_pkey")
          ((parts.filterMap IndexPart.row?).map (·.index))) columns) = .ok (shown ++ added) := by
  -- The search sees the names of the rows: those of the indexes, some of them repeated.
  have hmem : ∀ name, name ∈ (parts.filterMap IndexPart.row?).map (·.index) ↔
      name ∈ shown.map (·.name) := by
    intro name
    rw [map_name_of_indexesOf hindexes, mem_runKeys]
  rw [Text.freshName_congr hmem]
  refine ⟨_, addsKey_keyIndexes hshown columns,
    indexesOf_append hindexes (indexesOf_keyRows schema table _ columns) ?_⟩
  intro row hrow other hother hsame
  obtain ⟨column, -, rfl⟩ := List.mem_map.mp hother
  have hname : row.index ∈ shown.map (·.name) := (hmem _).mp (List.mem_map_of_mem hrow)
  rw [hsame] at hname
  exact Text.freshName_notMem _ _ hname

/-- The parts that the query lists for a table group into the indexes with a column. If a part with
a column belongs to the primary index, that is the only primary key; otherwise the primary key of
the table comes behind the others, under a name that none of those shown has. -/
theorem indexRows_group (connection : Connection) (schema table : String) (parts : List IndexPart)
    (hparts : connection.select (.indexes schema table) indexPartOf = .ok parts)
    (hlisted : WellListed parts) :
    (∀ part ∈ parts, part.primary = true → part.column.isSome →
      ∃ rows indexes, (connection.indexRows schema table).result = .ok rows ∧
        indexesOf schema table rows = .ok indexes ∧ ShowsIndexes schema table parts indexes ∧
        part.index ∈ indexes.map (·.name) ∧
        ∀ index ∈ indexes, index.isPrimaryKey = true ↔ index.name = part.index) ∧
    ((¬ ∃ part ∈ parts, part.primary = true ∧ part.column.isSome) →
      ∀ columns, connection.columns schema table = .ok columns →
        ∃ rows shown added, (connection.indexRows schema table).result = .ok rows ∧
          indexesOf schema table rows = .ok (shown ++ added) ∧
          ShowsIndexes schema table parts shown ∧ (∀ index ∈ shown, index.isPrimaryKey = false) ∧
          AddsKey schema table parts shown columns added) := by
  obtain ⟨shown, hindexes, hshown⟩ := exists_showsIndexes schema table hlisted
  have hresult := result_indexRows hparts
  constructor
  · intro part hpart hprimary hcolumn
    rw [if_pos (any_primary_rows.mpr ⟨part, hpart, hprimary, hcolumn⟩)] at hresult
    refine ⟨_, shown, hresult, hindexes, hshown,
      hshown.mem_names_iff.mpr ⟨part, hpart, rfl, hcolumn⟩, ?_⟩
    intro index hindex
    rw [hshown.isPrimaryKey_iff hindex]
    constructor
    · rintro ⟨other, hother, hname, -, hkey⟩
      rw [← hname, hlisted.primary_eq other hother part hpart hkey hprimary]
    · intro hname
      exact ⟨part, hpart, hname.symm, hcolumn, hprimary⟩
  · intro hnone columns hcolumns
    obtain ⟨added, hadds, hall⟩ := indexesOf_append_keyRows hindexes hshown columns
    rw [if_neg (any_primary_rows.not.mpr hnone), hcolumns] at hresult
    refine ⟨_, shown, added, hresult, hall, hshown, ?_, hadds⟩
    intro index hindex
    rw [Bool.eq_false_iff, Ne, hshown.isPrimaryKey_iff hindex]
    rintro ⟨part, hpart, -, hcolumn, hprimary⟩
    exact hnone ⟨part, hpart, hprimary, hcolumn⟩

/-- A table whose primary key is the row number, with these parts of indexes. -/
def partDatabase (parts : List Row) : Connection where
  answer
    | .indexes _ _ => .ok parts
    | .columns _ _ => .ok [
        [.text "id", .integer 1, .text "INTEGER", .null, .integer 0, .integer 1],
        [.text "name", .integer 2, .text "TEXT", .null, .integer 1, .integer 0]]
    | .withoutRowid _ _ => .ok [[.integer 0]]
    | _ => .ok []

def partColumns : List Column := [
  ⟨"main", "part", "id", 1, "integer", "integer", none, true, true, true⟩,
  ⟨"main", "part", "name", 2, "text", "text", none, false, false, false⟩]

lemma columns_partDatabase (parts : List Row) :
    (partDatabase parts).columns "main" "part" = .ok partColumns := rfl

/-- The first index also has an expression, and the second one has the name for the primary key. -/
def userIndexes : Connection := partDatabase [
  [.text "part_name_idx", .null, .integer 1, .integer 0],
  [.text "part_name_idx", .text "name", .integer 1, .integer 0],
  [.text "part_pkey", .text "name", .integer 0, .integer 0]]

def userParts : List IndexPart := [
  ⟨"part_name_idx", none, true, false⟩, ⟨"part_name_idx", some "name", true, false⟩,
  ⟨"part_pkey", some "name", false, false⟩]

/-- Here the primary key has an index in the database. -/
def storedKey : Connection := partDatabase [
  [.text "part_name_idx", .null, .integer 1, .integer 0],
  [.text "sqlite_autoindex_part_1", .text "id", .integer 1, .integer 1]]

def storedParts : List IndexPart := [
  ⟨"part_name_idx", none, true, false⟩, ⟨"sqlite_autoindex_part_1", some "id", true, true⟩]

theorem indexRows_group_part :
    (storedKey.select (.indexes "main" "part") indexPartOf = .ok storedParts ∧
      WellListed storedParts ∧
      ∃ rows indexes, (storedKey.indexRows "main" "part").result = .ok rows ∧
        indexesOf "main" "part" rows = .ok indexes ∧
        ∀ index ∈ indexes, index.isPrimaryKey = true ↔ index.name = "sqlite_autoindex_part_1") ∧
    userIndexes.select (.indexes "main" "part") indexPartOf = .ok userParts ∧
      WellListed userParts ∧ userIndexes.columns "main" "part" = .ok partColumns ∧
      ∃ rows shown added, (userIndexes.indexRows "main" "part").result = .ok rows ∧
        indexesOf "main" "part" rows = .ok (shown ++ added) ∧
        ShowsIndexes "main" "part" userParts shown ∧
        AddsKey "main" "part" userParts shown partColumns added := by
  have hstored : WellListed storedParts := ⟨by decide, by decide, by decide⟩
  have huser : WellListed userParts := ⟨by decide, by decide, by decide⟩
  obtain ⟨rows, indexes, hrows, hindexes, -, -, hkey⟩ :=
    (indexRows_group storedKey "main" "part" storedParts rfl hstored).1
      ⟨"sqlite_autoindex_part_1", some "id", true, true⟩ (by simp [storedParts]) rfl rfl
  obtain ⟨rows', shown, added, hrows', hindexes', hshown, -, hadds⟩ :=
    (indexRows_group userIndexes "main" "part" userParts rfl huser).2 (by decide) partColumns rfl
  exact ⟨⟨rfl, hstored, rows, indexes, hrows, hindexes, hkey⟩,
    rfl, huser, rfl, rows', shown, added, hrows', hindexes', hshown, hadds⟩

/-- An index over an expression has the name for the primary key. -/
def expressionIndex : Connection :=
  partDatabase [[.text "part_pkey", .null, .integer 0, .integer 0]]

/-- The primary key gets the name of another index of the table, whose only part is not shown. -/
theorem not_indexRows_group_expressionIndex :
    ∃ parts columns rows indexes,
      expressionIndex.select (.indexes "main" "part") indexPartOf = .ok parts ∧
      WellListed parts ∧ expressionIndex.columns "main" "part" = .ok columns ∧
      (expressionIndex.indexRows "main" "part").result = .ok rows ∧
      indexesOf "main" "part" rows = .ok indexes ∧
      ∃ index ∈ indexes, index.isPrimaryKey = true ∧
        ∃ part ∈ parts, part.primary = false ∧ part.index = index.name := by
  have hparts : expressionIndex.select (.indexes "main" "part") indexPartOf =
      .ok [⟨"part_pkey", none, false, false⟩] := rfl
  have hrows : (expressionIndex.indexRows "main" "part").result =
      .ok [⟨"part_pkey", "id", true, true⟩] := by
    have hnone : [IndexPart.mk "part_pkey" none false false].filterMap IndexPart.row? = [] := rfl
    rw [result_indexRows hparts, hnone, if_neg (by decide), expressionIndex, columns_partDatabase,
      List.map_nil, Text.freshName_nil]
    rfl
  exact ⟨_, partColumns, _, [⟨"main", "part", "part_pkey", .primaryKey, ["id"]⟩], hparts,
    ⟨by decide, by decide, by decide⟩, rfl, hrows, rfl, _, List.mem_singleton_self _, rfl,
    _, List.mem_singleton_self _, rfl, rfl⟩

end Connection

end RelProto.Sqlite
