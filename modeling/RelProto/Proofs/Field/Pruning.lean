import RelProto.Proofs.CatalogRow
import RelProto.Proofs.Field.Constraints

/-! Key parts whose columns a table does not have, and relations without any other, have no effect
on its fields: they may as well be dropped from the relations, or from the rows that list them. -/
namespace RelProto

/-- The reference with a relation that has no other key parts. -/
def Reference.pruned (reference : Reference) : Reference where
  relation := { reference.relation with keys := reference.keys }
  keys := reference.keys

@[simp] theorem Reference.keys_pruned (reference : Reference) :
    reference.pruned.keys = reference.keys := rfl

@[simp] theorem Reference.view_pruned (reference : Reference) :
    reference.pruned.view = reference.view := rfl

namespace Table

variable {table : Table} {relation : Relation} {relations : List Relation}

/-- The relation without the key parts whose columns the table does not have. -/
def pruned (table : Table) (relation : Relation) : Relation :=
  { relation with keys := table.presentKeys relation }

/-- Those of the relations that become fields, with the key parts that the table has. -/
def prunedAmong (table : Table) (relations : List Relation) : List Relation :=
  (relations.filter fun relation => table.Embeds relation).map table.pruned

@[simp] theorem presentKeys_pruned :
    table.presentKeys (table.pruned relation) = table.presentKeys relation := by
  simp [presentKeys, pruned]

@[simp] theorem embeds_pruned : table.Embeds (table.pruned relation) ↔ table.Embeds relation := by
  rw [Embeds, Embeds, presentKeys_pruned]
  rfl

@[simp] theorem reference_pruned :
    table.reference (table.pruned relation) = (table.reference relation).pruned := by
  rw [reference, presentKeys_pruned]
  rfl

lemma prunedAmong_cons_of_embeds (h : table.Embeds relation) :
    table.prunedAmong (relation :: relations) =
      table.pruned relation :: table.prunedAmong relations := by
  simp [prunedAmong, h]

lemma prunedAmong_cons_of_not_embeds (h : ¬ table.Embeds relation) :
    table.prunedAmong (relation :: relations) = table.prunedAmong relations := by
  simp [prunedAmong, h]

lemma firstShared_map_pruned (earlier : List Reference) (keys : List KeyPart) :
    firstShared (earlier.map Reference.pruned) keys =
      (firstShared earlier keys).map fun (other, key) => (other.pruned, key) := by
  have hfind : ∀ name : String, (earlier.map Reference.pruned).find? (·.hasLocalColumn name) =
      (earlier.find? (·.hasLocalColumn name)).map Reference.pruned := by
    intro name
    rw [List.find?_map]
    rfl
  induction keys with
  | nil => rfl
  | cons key keys ih =>
    simp only [firstShared, List.findSome?_cons, hfind] at ih ⊢
    cases earlier.find? (·.hasLocalColumn key.localColumn) with
    | none => exact ih
    | some other => rfl

/-- Collecting the references of pruned relations succeeds with pruned references, or fails for the
same reason. -/
theorem collectReferences_prunedAmong (hkeyed : Keyed relations) (earlier : List Reference) :
    (table.collectReferences (earlier.map Reference.pruned) (table.prunedAmong relations)).result =
      (table.collectReferences earlier relations).result.map (List.map Reference.pruned) := by
  induction relations generalizing earlier with
  | nil => rfl
  | cons relation rest ih =>
    rw [keyed_cons] at hkeyed
    by_cases hembeds : table.Embeds relation
    · rw [prunedAmong_cons_of_embeds hembeds, collectReferences_of_embeds (embeds_pruned.mpr hembeds),
        collectReferences_of_embeds hembeds, reference_pruned, Reference.keys_pruned,
        firstShared_map_pruned]
      have hrest := ih hkeyed.2 (earlier ++ [table.reference relation])
      rw [List.map_append, List.map_singleton] at hrest
      cases hshared : firstShared earlier (table.reference relation).keys with
      | none => exact hrest
      | some shared => rfl
    · rw [prunedAmong_cons_of_not_embeds hembeds, collectReferences_of_not_embeds hkeyed.1 hembeds]
      exact ih hkeyed.2 earlier

/-- Collecting looks at no more of a table than its names and its columns. -/
lemma collectReferences_congr {table' : Table} (hname : table.qualifiedName = table'.qualifiedName)
    (hcolumns : table.columns = table'.columns) (earlier : List Reference)
    (relations : List Relation) :
    table.collectReferences earlier relations = table'.collectReferences earlier relations := by
  have hkeys : table.presentKeys = table'.presentKeys := by
    funext relation
    simp only [presentKeys, column?, hcolumns]
  induction relations generalizing earlier with
  | nil => rfl
  | cons relation rest ih => simp only [collectReferences, hname, hkeys, ih]

/-- The indexes of a table are not looked at. -/
lemma resolvedFields_congr {table' : Table} (hname : table.qualifiedName = table'.qualifiedName)
    (hcolumns : table.columns = table'.columns) (hrelations : table.relations = table'.relations) :
    table.resolvedFields = table'.resolvedFields := by
  have hfields : table.fieldsFor = table'.fieldsFor := by
    funext references
    rw [fieldsFor, fieldsFor, hcolumns]
  rw [resolvedFields, resolvedFields, references, references, hrelations,
    collectReferences_congr hname hcolumns, hfields]

/-- Pruned relations give fields that look the same, or fail for the same reason. -/
theorem view_resolvedFields_prunedAmong (table : Table) (hkeyed : Keyed relations) :
    (table.withRelations (table.prunedAmong relations)).resolvedFields.result.map
        (List.map Field.view) =
      (table.withRelations relations).resolvedFields.result.map (List.map Field.view) := by
  have hcollect :
      (table.collectReferences [] (table.prunedAmong relations)).result =
        (table.collectReferences [] relations).result.map (List.map Reference.pruned) :=
    collectReferences_prunedAmong hkeyed []
  have hreferences : ∀ others, (table.withRelations others).references =
      table.collectReferences [] others := by
    intro others
    apply collectReferences_congr
    · rfl
    · rfl
  simp only [result_resolvedFields, hreferences, hcollect]
  cases (table.collectReferences [] relations).result with
  | error cause => rfl
  | ok references =>
    refine congrArg Except.ok (map_view_fieldsFor _ ?_)
    simp

/-- Catalog rows list every relation with its key parts. -/
lemma keyed_of_relationsOf {rows : List ForeignKeyRow} (h : relationsOf rows = .ok relations) :
    Keyed relations := by
  intro relation hrelation _
  exact ((keys_of_relationsOf h).2 relation hrelation).2

/-- Rows whose local column the table does not have list nothing but what pruning drops. -/
theorem relationsOf_filter_present {rows : List ForeignKeyRow}
    (h : relationsOf rows = .ok relations) :
    relationsOf (rows.filter fun row => (table.column? row.localColumn).isSome) =
      .ok (table.prunedAmong relations) := by
  obtain ⟨hnodup, rfl⟩ := relationsOf_eq_ok_iff.mp h
  let present := fun row : ForeignKeyRow => (table.column? row.localColumn).isSome
  have hkeys := runKeys_filter hnodup present
  -- Pruning a relation and dropping its rows come to the same key parts.
  have hpruned : ∀ key, table.pruned (relationFor rows key) = relationFor (rows.filter present) key := by
    intro key
    simp only [pruned, presentKeys, relationFor, List.filter_map, List.filter_filter]
    congr 2
    apply List.filter_congr
    intro row _
    exact Bool.and_comm _ _
  -- A relation becomes a field as long as one of its rows is left.
  have hembeds : ∀ key, table.Embeds (relationFor rows key) ↔
      key ∈ (rows.filter present).map ForeignKeyRow.key := by
    intro key
    have hpresent : table.presentKeys (relationFor rows key) =
        (relationFor (rows.filter present) key).keys := congrArg Relation.keys (hpruned key)
    rw [Embeds, hpresent, and_iff_right (by simp [relationFor])]
    simp only [relationFor, ne_eq, List.map_eq_nil_iff, List.filter_eq_nil_iff, List.mem_map]
    push Not
    simp
  rw [relationsOf_eq_ok_iff]
  constructor
  · rw [hkeys]
    exact hnodup.filter _
  · rw [hkeys, prunedAmong, List.filter_map, List.map_map]
    simp only [Function.comp_def, hembeds, hpruned]
    rfl

end Table

end RelProto
