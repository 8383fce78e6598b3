import RelProto.Proofs.Field.Names

/-! How the fields of relations are named: those for one foreign table get the first numbered names
that no plain field has, in field order, and few candidates are tried for them. -/
namespace RelProto

open Text (numberedName)

/-- The names of the fields that are columns of their own. -/
def Field.plainNames (fields : List Field) : List String :=
  (fields.filterMap plain?).map (·.name)

namespace Table

/-- How many candidates are tried for the foreign table in all. -/
def triedFor (table : Table) (foreignTable : String) : Nat :=
  tried foreignTable (countsAfter (plainNames table.embeddings table.columns) []
    (table.columns.filterMap (placement table.embeddings)))

/-- The fields for relations to the foreign table, in field order, have the first of its candidates
that are no names of plain fields. Every search for one of them ends. -/
structure IsNaming (table : Table) (fields : List Field) (foreignTable : String) : Prop where
  names_prefix : ∀ n, table.triedFor foreignTable ≤ n →
    Field.namesFor foreignTable fields <+:
      ((List.range n).map (numberedName foreignTable)).filter (· ∉ Field.plainNames fields)
  search_ends : ∀ start, ∃ found,
    Text.Search foreignTable (Field.plainNames fields) start found
  triedFor_le : table.triedFor foreignTable ≤
    (Field.namesFor foreignTable fields).length + (fields.filterMap Field.plain?).length
  nodup_names : (Field.namesFor foreignTable fields).Nodup
  notMem_plainNames : ∀ name ∈ Field.namesFor foreignTable fields, name ∉ Field.plainNames fields
  length_names : (table.columns.map (·.name)).Nodup →
    (Field.namesFor foreignTable fields).length = countFor foreignTable table.embeddings

section Fields

variable {table : Table} {fields : List Field} (h : table.resolvedFields.result = .ok fields)
include h

lemma plainNames_eq : plainNames table.embeddings table.columns = Field.plainNames fields := by
  rw [plainNames_embeddings, Field.plainNames, filterMap_plain?_eq h]

/-- The relation fields for the foreign table have all names that are free among those tried. -/
theorem namesFor_eq_freeAmong (foreignTable : String) :
    Field.namesFor foreignTable fields = Text.freeAmong foreignTable (Field.plainNames fields) 0
      (table.triedFor foreignTable) := by
  have hfields := ((resolvedFields_eq_ok_iff table fields).mp h).2
  obtain ⟨n, htried, hnames⟩ := namesFor_nameFields foreignTable
    (plainNames table.embeddings table.columns) []
    (table.columns.filterMap (placement table.embeddings))
  rw [← fieldsFor, ← hfields, plainNames_eq h, tried_nil] at hnames
  rw [tried_nil, Nat.zero_add] at htried
  rw [triedFor, htried, hnames]

end Fields

theorem isNaming_of_resolvedFields (table : Table) (fields : List Field)
    (h : table.resolvedFields.result = .ok fields) (foreignTable : String) :
    table.IsNaming fields foreignTable where
  names_prefix n hn := by
    obtain ⟨more, rfl⟩ := Nat.exists_eq_add_of_le hn
    have happend := Text.freeAmong_append foreignTable (Field.plainNames fields) 0
      (table.triedFor foreignTable) more
    rw [namesFor_eq_freeAmong h, List.range_eq_range', ← Text.freeAmong, happend]
    exact List.prefix_append _ _
  search_ends start := ⟨_, Text.search_iff.mpr rfl⟩
  triedFor_le := by
    have hlength := Text.le_length_freeAmong foreignTable (Field.plainNames fields) 0
      (table.triedFor foreignTable)
    rwa [← namesFor_eq_freeAmong h, Field.plainNames, List.length_map] at hlength
  nodup_names := by
    rw [namesFor_eq_freeAmong h]
    exact (Text.nodup_candidates _ _ _).filter _
  notMem_plainNames name hname := by
    rw [namesFor_eq_freeAmong h] at hname
    simpa using List.of_mem_filter hname
  length_names hnodup := length_namesFor_eq h hnodup foreignTable

/-- Two of the three addresses are called like the first, and one is in another schema; `address2`
is a column of its own. -/
def invoice : Table :=
  ofNames "shop" "invoice" ["payer", "address2", "receiver", "seller"] [
    ⟨"fk_payer", "shop", "address", .zeroOneOrMore, [⟨1, "payer", "id"⟩]⟩,
    ⟨"fk_receiver", "crm", "address", .zeroOneOrMore, [⟨1, "receiver", "id"⟩]⟩,
    ⟨"fk_seller", "shop", "address", .zeroOneOrMore, [⟨1, "seller", "id"⟩]⟩]

lemma resolvedFields_invoice :
    invoice.resolvedFields.result = .ok (invoice.fieldsFor invoice.embeddings) :=
  resolvedFields_of_resolvable (by decide)

theorem isNaming_invoice :
    invoice.resolvedFields.result = .ok (invoice.fieldsFor invoice.embeddings) ∧
    invoice.IsNaming (invoice.fieldsFor invoice.embeddings) "address" :=
  ⟨resolvedFields_invoice, isNaming_of_resolvedFields invoice _ resolvedFields_invoice "address"⟩

example : Field.namesFor "address" (invoice.fieldsFor invoice.embeddings) =
    ["address", "address3", "address4"] := by decide +kernel

end Table

end RelProto
