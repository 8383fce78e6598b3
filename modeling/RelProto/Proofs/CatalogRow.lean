import RelProto.CatalogRow
import RelProto.Proofs.Grouping.Building

/-! What catalog rows list. Index rows list one index for each run, and foreign key rows one relation
for each foreign key; all rows of it are the columns, or key parts, in their order. -/
namespace RelProto

section Indexes

variable {schema table : String}

lemma foldl_append_indexBuilder (index : Index) (rows : List IndexRow) :
    rows.foldl (fun index row => ((IndexRow.builder schema table).append index row).run) index =
      { index with columns := index.columns ++ rows.map (·.column) } := by
  induction rows generalizing index with
  | nil => simp
  | cons row rows ih =>
    have happend : ((IndexRow.builder schema table).append index row).run =
        { index with columns := index.columns ++ [row.column] } := rfl
    rw [List.foldl_cons, happend, ih]
    simp

lemma groupOf_indexBuilder (run : KeyRun IndexRow) :
    (IndexRow.builder schema table).groupOf run =
      ⟨schema, table, run.first.index, .ofFlags run.first.primary run.first.unique,
        run.rows.map (·.column)⟩ := by
  rw [GroupBuilder.groupOf, foldl_append_indexBuilder]
  rfl

/-- Rows are accepted exactly if no index has two runs of them. -/
theorem indexesOf_eq_ok_iff {rows : List IndexRow} {indexes : List Index} :
    indexesOf schema table rows = .ok indexes ↔
      (runKeys IndexRow.index rows).Nodup ∧ indexes = (keyRuns IndexRow.index rows).map fun run =>
        ⟨schema, table, run.first.index, .ofFlags run.first.primary run.first.unique,
          run.rows.map (·.column)⟩ := by
  have hgroups : indexesOf schema table rows = .ok indexes ↔
      consecutiveGroups (IndexRow.builder schema table) rows = .ok indexes := by
    rw [indexesOf]
    cases consecutiveGroups (IndexRow.builder schema table) rows <;> simp [Except.mapError]
  have hbuild : (IndexRow.builder schema table).groupOf = fun run =>
      ⟨schema, table, run.first.index, .ofFlags run.first.primary run.first.unique,
        run.rows.map (·.column)⟩ := funext groupOf_indexBuilder
  rw [hgroups, consecutiveGroups_eq_ok_iff, hbuild]
  rfl

/-- The indexes have names of their own and at least one column each. -/
theorem names_of_indexesOf {rows : List IndexRow} {indexes : List Index}
    (h : indexesOf schema table rows = .ok indexes) :
    (indexes.map (·.name)).Nodup ∧ ∀ index ∈ indexes,
      index.schema = schema ∧ index.table = table ∧ index.columns ≠ [] := by
  obtain ⟨hnodup, rfl⟩ := indexesOf_eq_ok_iff.mp h
  constructor
  · rw [List.map_map]
    exact hnodup
  · intro index hindex
    obtain ⟨run, _, rfl⟩ := List.mem_map.mp hindex
    exact ⟨rfl, rfl, List.cons_ne_nil _ _⟩

lemma map_name_of_indexesOf {rows : List IndexRow} {indexes : List Index}
    (h : indexesOf schema table rows = .ok indexes) :
    indexes.map (·.name) = runKeys IndexRow.index rows := by
  obtain ⟨-, rfl⟩ := indexesOf_eq_ok_iff.mp h
  rw [List.map_map]
  rfl

/-- An index has the columns of all rows that list it, and the kind that one of them gives. -/
lemma of_mem_indexesOf {rows : List IndexRow} {indexes : List Index}
    (h : indexesOf schema table rows = .ok indexes) {index : Index} (hindex : index ∈ indexes) :
    index.schema = schema ∧ index.table = table ∧
      index.columns = (rows.filter fun row => row.index = index.name).map (·.column) ∧
      ∃ row ∈ rows, row.index = index.name ∧ index.kind = .ofFlags row.primary row.unique := by
  obtain ⟨hnodup, rfl⟩ := indexesOf_eq_ok_iff.mp h
  obtain ⟨run, hrun, rfl⟩ := List.mem_map.mp hindex
  refine ⟨rfl, rfl, congrArg (List.map _) (rows_eq_filter hnodup hrun), run.first, ?_, rfl, rfl⟩
  have hfirst : run.first ∈ run.rows := List.mem_cons_self
  rw [rows_eq_filter hnodup hrun] at hfirst
  exact List.mem_of_mem_filter hfirst

/-- Rows of one index list this index only. -/
lemma indexesOf_cons {row : IndexRow} {rows : List IndexRow}
    (h : ∀ other ∈ rows, other.index = row.index) :
    indexesOf schema table (row :: rows) = .ok [⟨schema, table, row.index,
      .ofFlags row.primary row.unique, (row :: rows).map (·.column)⟩] := by
  have huniform : KeyRun.Uniform IndexRow.index ⟨row, rows⟩ :=
    List.forall_mem_cons.mpr ⟨rfl, h⟩
  have hruns : keyRuns IndexRow.index (row :: rows) = [⟨row, rows⟩] := keyRuns_rows huniform
  rw [indexesOf_eq_ok_iff, runKeys, hruns]
  exact ⟨List.nodup_singleton _, rfl⟩

/-- Rows of other indexes list these behind the first ones. -/
lemma indexesOf_append {rows more : List IndexRow} {indexes added : List Index}
    (h : indexesOf schema table rows = .ok indexes)
    (hmore : indexesOf schema table more = .ok added)
    (hapart : ∀ row ∈ rows, ∀ other ∈ more, row.index ≠ other.index) :
    indexesOf schema table (rows ++ more) = .ok (indexes ++ added) := by
  obtain ⟨hnodup, rfl⟩ := indexesOf_eq_ok_iff.mp h
  obtain ⟨hnodup', rfl⟩ := indexesOf_eq_ok_iff.mp hmore
  have hruns : keyRuns IndexRow.index (rows ++ more) =
      keyRuns IndexRow.index rows ++ keyRuns IndexRow.index more := keyRuns_append hapart
  have hkeys : (runKeys IndexRow.index rows).Disjoint (runKeys IndexRow.index more) := by
    intro key hkey hkey'
    obtain ⟨row, hrow, rfl⟩ := List.mem_map.mp (mem_runKeys.mp hkey)
    obtain ⟨other, hother, hsame⟩ := List.mem_map.mp (mem_runKeys.mp hkey')
    exact hapart row hrow other hother hsame.symm
  rw [indexesOf_eq_ok_iff, runKeys, hruns, List.map_append, List.map_append]
  exact ⟨hnodup.append hnodup' hkeys, rfl⟩

end Indexes

open ForeignKeyRow (key keyPart)

/-- The relation that the rows list under the key. -/
def relationFor (rows : List ForeignKeyRow) (relationKey : RelationKey) : Relation where
  name := relationKey.constraint
  foreignSchema := relationKey.foreignSchema
  foreignTable := relationKey.foreignTable
  multiplicity := .zeroOneOrMore
  keys := (rows.filter fun row => row.key = relationKey).map keyPart

lemma foldl_append_builder (relation : Relation) (rows : List ForeignKeyRow) :
    rows.foldl (fun relation row => (ForeignKeyRow.builder.append relation row).run) relation =
      { relation with keys := relation.keys ++ rows.map keyPart } := by
  induction rows generalizing relation with
  | nil => simp
  | cons row rows ih =>
    have happend : (ForeignKeyRow.builder.append relation row).run =
        { relation with keys := relation.keys ++ [row.keyPart] } := rfl
    rw [List.foldl_cons, happend, ih]
    simp

lemma groupOf_builder (run : KeyRun ForeignKeyRow) :
    ForeignKeyRow.builder.groupOf run =
      ⟨run.first.constraint, run.first.foreignSchema, run.first.foreignTable, .zeroOneOrMore,
        run.rows.map keyPart⟩ := by
  rw [GroupBuilder.groupOf, foldl_append_builder]
  rfl

lemma relationsOf_eq_ok_iff_groupOf {rows : List ForeignKeyRow} {relations : List Relation} :
    relationsOf rows = .ok relations ↔
      (runKeys key rows).Nodup ∧
        relations = (keyRuns key rows).map ForeignKeyRow.builder.groupOf := by
  have hgroups : relationsOf rows = .ok relations ↔
      consecutiveGroups ForeignKeyRow.builder rows = .ok relations := by
    rw [relationsOf]
    cases consecutiveGroups ForeignKeyRow.builder rows <;> simp [Except.mapError]
  rw [hgroups, consecutiveGroups_eq_ok_iff]
  rfl

/-- Rows are accepted exactly if no foreign key has two runs of them. -/
theorem relationsOf_eq_ok_iff {rows : List ForeignKeyRow} {relations : List Relation} :
    relationsOf rows = .ok relations ↔
      (runKeys key rows).Nodup ∧ relations = (runKeys key rows).map (relationFor rows) := by
  rw [relationsOf_eq_ok_iff_groupOf]
  apply and_congr_right
  intro hnodup
  have hmap : (keyRuns key rows).map ForeignKeyRow.builder.groupOf =
      (runKeys key rows).map (relationFor rows) := by
    rw [runKeys, List.map_map]
    apply List.map_congr_left
    intro run hrun
    rw [groupOf_builder, rows_eq_filter hnodup hrun]
    rfl
  rw [hmap]

/-- What tells the relations of one table apart. -/
def Relation.key (relation : Relation) : RelationKey :=
  ⟨relation.foreignSchema, relation.foreignTable, relation.name⟩

/-- The relations have keys of their own and at least one key part each. -/
theorem keys_of_relationsOf {rows : List ForeignKeyRow} {relations : List Relation}
    (h : relationsOf rows = .ok relations) :
    (relations.map Relation.key).Nodup ∧ ∀ relation ∈ relations,
      relation.multiplicity = .zeroOneOrMore ∧ relation.keys ≠ [] := by
  obtain ⟨hnodup, rfl⟩ := relationsOf_eq_ok_iff.mp h
  constructor
  · have hkeys : (runKeys key rows).map (Relation.key ∘ relationFor rows) = runKeys key rows :=
      List.map_id _
    rwa [List.map_map, hkeys]
  · intro relation hrelation
    obtain ⟨relationKey, hkey, rfl⟩ := List.mem_map.mp hrelation
    obtain ⟨row, hrow, rfl⟩ := List.mem_map.mp (mem_runKeys.mp hkey)
    have hmem : row.keyPart ∈ (relationFor rows row.key).keys :=
      List.mem_map_of_mem (List.mem_filter.mpr ⟨hrow, by simp⟩)
    exact ⟨rfl, List.ne_nil_of_mem hmem⟩

end RelProto
