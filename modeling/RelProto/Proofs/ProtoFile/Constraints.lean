import RelProto.Proofs.CatalogRow
import RelProto.Proofs.Field.Constraints
import RelProto.Proofs.ProtoFile

/-! The file of a table does not depend on how its foreign keys are named or listed: neither the
order nor the names of constraints, nor foreign columns, nor gaps between ordinals show in it. -/
namespace RelProto

/-- The foreign key under a new constraint name. -/
def RelationKey.renamed (rename : RelationKey → String) (key : RelationKey) : RelationKey :=
  { key with constraint := rename key }

/-- The second rows list the foreign keys of the first ones under new names. Whole foreign keys may
come in any order and foreign columns may be any; within a foreign key the rows keep their order and
local columns, and ordinals that differ keep their order. -/
structure Redescribed (rename : RelationKey → String) (renumber : RelationKey → UInt32 → UInt32)
    (rows rows' : List ForeignKeyRow) : Prop where
  injective : ∀ row ∈ rows, ∀ other ∈ rows,
    row.key.renamed rename = other.key.renamed rename → row.key = other.key
  covered : ∀ row' ∈ rows', ∃ row ∈ rows, row'.key = row.key.renamed rename
  increasing : ∀ row ∈ rows, ∀ other ∈ rows, row.key = other.key →
    row.ordinal < other.ordinal → renumber row.key row.ordinal < renumber row.key other.ordinal
  rows_eq : ∀ row ∈ rows,
    (rows'.filter fun row' => row'.key = row.key.renamed rename).map
        (fun row' => (row'.localColumn, row'.ordinal)) =
      (rows.filter fun other => other.key = row.key).map
        fun other => (other.localColumn, renumber row.key other.ordinal)

section Redescribed

variable {rename : RelationKey → String} {renumber : RelationKey → UInt32 → UInt32}
  {rows rows' : List ForeignKeyRow} (h : Redescribed rename renumber rows rows')
include h

/-- The second rows list the renamed foreign keys. -/
lemma runKeys_perm_of_redescribed (hnodup : (runKeys ForeignKeyRow.key rows).Nodup)
    (hnodup' : (runKeys ForeignKeyRow.key rows').Nodup) :
    ((runKeys ForeignKeyRow.key rows).map (·.renamed rename)).Perm
      (runKeys ForeignKeyRow.key rows') := by
  have hrenamed : ((runKeys ForeignKeyRow.key rows).map (·.renamed rename)).Nodup := by
    apply hnodup.map_on
    intro key hkey other hother hsame
    obtain ⟨row, hrow, rfl⟩ := List.mem_map.mp (mem_runKeys.mp hkey)
    obtain ⟨row', hrow', rfl⟩ := List.mem_map.mp (mem_runKeys.mp hother)
    exact h.injective row hrow row' hrow' hsame
  apply (List.perm_ext_iff_of_nodup hrenamed hnodup').mpr
  intro key
  simp only [List.mem_map, mem_runKeys]
  constructor
  · rintro ⟨_, ⟨row, hrow, rfl⟩, rfl⟩
    -- The rows of the foreign key are as many as before, so there is one.
    have hlength := congrArg List.length (h.rows_eq row hrow)
    rw [List.length_map, List.length_map] at hlength
    have hpos : 0 < (rows.filter fun other => other.key = row.key).length :=
      List.length_pos_of_mem (List.mem_filter.mpr ⟨hrow, by simp⟩)
    obtain ⟨row', hrow'⟩ := List.exists_mem_of_length_pos (hlength ▸ hpos)
    obtain ⟨hmem, hkey⟩ := List.mem_filter.mp hrow'
    exact ⟨row', hmem, by simpa using hkey⟩
  · rintro ⟨row', hrow', rfl⟩
    obtain ⟨row, hrow, hkey⟩ := h.covered row' hrow'
    exact ⟨row.key, ⟨row, hrow, rfl⟩, hkey.symm⟩

lemma relabeled_of_redescribed {row : ForeignKeyRow} (hrow : row ∈ rows) :
    (relationFor rows row.key).Relabeled (relationFor rows' (row.key.renamed rename)) where
  foreignSchema_eq := rfl
  foreignTable_eq := rfl
  multiplicity_eq := rfl
  keys := by
    refine ⟨renumber row.key, ?_, ?_⟩
    · intro part hpart other hother hlt
      obtain ⟨first, hfirst, rfl⟩ := List.mem_map.mp hpart
      obtain ⟨second, hsecond, rfl⟩ := List.mem_map.mp hother
      obtain ⟨hfirst, hkey⟩ := List.mem_filter.mp hfirst
      obtain ⟨hsecond, hkey'⟩ := List.mem_filter.mp hsecond
      rw [decide_eq_true_iff] at hkey hkey'
      rw [← hkey]
      exact h.increasing first hfirst second hsecond (hkey.trans hkey'.symm) hlt
    · have hrows := h.rows_eq row hrow
      rw [eq_comm, ← List.forall₂_eq_eq_eq, List.forall₂_map_left_iff,
        List.forall₂_map_right_iff] at hrows
      simp only [relationFor, List.forall₂_map_left_iff, List.forall₂_map_right_iff]
      apply hrows.imp
      intro other row' hsame
      obtain ⟨hcolumn, hordinal⟩ := Prod.mk.inj hsame
      exact ⟨hcolumn.symm, hordinal.symm⟩

/-- The relations of the second rows are those of the first ones with new labels, in some order. -/
lemma exists_relabeled_perm {relations relations' : List Relation}
    (hrelations : relationsOf rows = .ok relations)
    (hrelations' : relationsOf rows' = .ok relations') :
    ∃ between, List.Forall₂ Relation.Relabeled relations between ∧ between.Perm relations' := by
  obtain ⟨hnodup, rfl⟩ := relationsOf_eq_ok_iff.mp hrelations
  obtain ⟨hnodup', rfl⟩ := relationsOf_eq_ok_iff.mp hrelations'
  refine ⟨((runKeys ForeignKeyRow.key rows).map (·.renamed rename)).map (relationFor rows'), ?_,
    (runKeys_perm_of_redescribed h hnodup hnodup').map _⟩
  rw [List.map_map, List.forall₂_map_left_iff, List.forall₂_map_right_iff, List.forall₂_same]
  intro key hkey
  obtain ⟨row, hrow, rfl⟩ := List.mem_map.mp (mem_runKeys.mp hkey)
  exact relabeled_of_redescribed h hrow

end Redescribed

namespace Table

/-- Two descriptions of the same foreign keys give one text, or an invalid relation for both. -/
theorem render_of_redescribed (table : Table) (settings : ProtoSettings) (embed : Bool)
    {rename : RelationKey → String} {renumber : RelationKey → UInt32 → UInt32}
    {rows rows' : List ForeignKeyRow} {relations relations' : List Relation}
    (h : Redescribed rename renumber rows rows') (hrelations : relationsOf rows = .ok relations)
    (hrelations' : relationsOf rows' = .ok relations') :
    (∃ text, ((table.withRelations relations).render settings embed).result = .ok text ∧
      ((table.withRelations relations').render settings embed).result = .ok text) ∨
    ∃ message message',
      ((table.withRelations relations).render settings embed).result =
        .error (.invalidRelation message) ∧
      ((table.withRelations relations').render settings embed).result =
        .error (.invalidRelation message') := by
  obtain ⟨between, hlabels, horder⟩ := exists_relabeled_perm h hrelations hrelations'
  rw [result_render, result_render]
  cases embed with
  | false => exact .inl ⟨_, rfl, rfl⟩
  | true =>
    obtain ⟨fields, fields', hfields, hfields', hview⟩ | ⟨cause, cause', hcause, hcause'⟩ :=
      resolvedFields_of_relabeled hlabels horder table
    · left
      refine ⟨((table.withRelations relations).fileOf settings fields).text, ?_, ?_⟩
      · simp only [Table.fields, if_true, hfields]
        rfl
      · simp only [Table.fields, if_true, hfields', fileOf_eq_of_view _ settings hview]
        rfl
    · right
      refine ⟨cause.message, cause'.message, ?_, ?_⟩
      · simp only [Table.fields, if_true, hcause]
        rfl
      · simp only [Table.fields, if_true, hcause']
        rfl

/-- The foreign keys of an order line: its address, zip before street, and its note. -/
def orderLineKeys : List ForeignKeyRow := [
  ⟨"fk_address", "shop", "address", "zip", "zip", 2⟩,
  ⟨"fk_address", "shop", "address", "street", "street", 1⟩,
  ⟨"fk_note", "shop", "note", "id", "note", 1⟩]

/-- The same foreign keys with the note first, under numbered names. -/
def retoldOrderLineKeys : List ForeignKeyRow := [
  ⟨"fk1", "shop", "note", "code", "note", 10⟩,
  ⟨"fk2", "shop", "address", "postcode", "zip", 20⟩,
  ⟨"fk2", "shop", "address", "road", "street", 10⟩]

theorem redescribed_orderLine : Redescribed
    (fun key => if key.foreignTable = "note" then "fk1" else "fk2") (fun _ ordinal => 10 * ordinal)
    orderLineKeys retoldOrderLineKeys where
  injective := by decide
  covered := by decide
  increasing := by decide
  rows_eq := by decide

theorem render_of_redescribed_orderLine :
    ∃ relations relations', relationsOf orderLineKeys = .ok relations ∧
      relationsOf retoldOrderLineKeys = .ok relations' ∧
      ((∃ text, ((orderLine.withRelations relations).render {} true).result = .ok text ∧
          ((orderLine.withRelations relations').render {} true).result = .ok text) ∨
        ∃ message message',
          ((orderLine.withRelations relations).render {} true).result =
            .error (.invalidRelation message) ∧
          ((orderLine.withRelations relations').render {} true).result =
            .error (.invalidRelation message')) :=
  ⟨(runKeys ForeignKeyRow.key orderLineKeys).map (relationFor orderLineKeys),
    (runKeys ForeignKeyRow.key retoldOrderLineKeys).map (relationFor retoldOrderLineKeys),
    rfl, rfl, render_of_redescribed orderLine {} true redescribed_orderLine rfl rfl⟩

end Table

end RelProto
