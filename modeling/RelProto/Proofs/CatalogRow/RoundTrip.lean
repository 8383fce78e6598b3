import Mathlib.Data.Prod.Lex
import Mathlib.Data.String.Basic
import RelProto.Proofs.CatalogRow
import RelProto.Proofs.Field.Embedding

/-! Relations and the rows that list them determine each other, and rows in the order of the catalog
queries are always accepted. -/
namespace RelProto

open ForeignKeyRow (key keyPart)

variable {rows : List ForeignKeyRow} {relations : List Relation} {relation : Relation}

/-- The group of a run is listed by the rows of the run. -/
lemma rows_groupOf {run : KeyRun ForeignKeyRow} (h : run.Uniform key) :
    (ForeignKeyRow.builder.groupOf run).rows = run.rows := by
  rw [groupOf_builder, Relation.rows, List.map_map]
  refine (List.map_congr_left ?_).trans (List.map_id _)
  intro row hrow
  have hkey := h row hrow
  simp only [key, RelationKey.mk.injEq] at hkey
  obtain ⟨hschema, htable, hconstraint⟩ := hkey
  simp [keyPart, ← hschema, ← htable, ← hconstraint]

/-- The rows that list a relation are a run, and its group is the relation. -/
lemma exists_run_of_keys_ne_nil (hmultiplicity : relation.multiplicity = .zeroOneOrMore)
    (hkeys : relation.keys ≠ []) :
    ∃ run : KeyRun ForeignKeyRow, run.rows = relation.rows ∧ run.Uniform key ∧
      run.first.key = relation.key ∧ ForeignKeyRow.builder.groupOf run = relation := by
  obtain ⟨name, foreignSchema, foreignTable, multiplicity, keys⟩ := relation
  obtain ⟨part, parts, rfl⟩ := List.exists_cons_of_ne_nil hkeys
  subst hmultiplicity
  let row (part : KeyPart) : ForeignKeyRow :=
    ⟨name, foreignSchema, foreignTable, part.foreignColumn, part.localColumn, part.ordinal⟩
  refine ⟨⟨row part, parts.map row⟩, rfl, ?_, rfl, ?_⟩
  · intro other hother
    obtain ⟨_, -, rfl⟩ := List.mem_map.mp (show other ∈ (part :: parts).map row from hother)
    rfl
  · rw [groupOf_builder]
    simp [KeyRun.rows, row, keyPart, Function.comp_def]

lemma exists_runs (h : ∀ relation ∈ relations,
    relation.multiplicity = .zeroOneOrMore ∧ relation.keys ≠ []) :
    ∃ runs : List (KeyRun ForeignKeyRow), (∀ run ∈ runs, run.Uniform key) ∧
      runs.flatMap KeyRun.rows = relations.flatMap Relation.rows ∧
      runs.map (·.first.key) = relations.map Relation.key ∧
      runs.map ForeignKeyRow.builder.groupOf = relations := by
  induction relations with
  | nil => exact ⟨[], by simp⟩
  | cons relation relations ih =>
    rw [List.forall_mem_cons] at h
    obtain ⟨run, hrows, huniform, hkey, hgroup⟩ := exists_run_of_keys_ne_nil h.1.1 h.1.2
    obtain ⟨runs, huniforms, hflat, hkeys, hgroups⟩ := ih h.2
    refine ⟨run :: runs, List.forall_mem_cons.mpr ⟨huniform, huniforms⟩, ?_, ?_, ?_⟩
    · rw [List.flatMap_cons, List.flatMap_cons, hrows, hflat]
    · rw [List.map_cons, List.map_cons, hkey, hkeys]
    · rw [List.map_cons, hgroup, hgroups]

/-- The rows list exactly the relations that they are the rows of: each with a key of its own and at
least one key part. -/
theorem relationsOf_eq_ok_iff_rows : relationsOf rows = .ok relations ↔
    relations.flatMap Relation.rows = rows ∧ (relations.map Relation.key).Nodup ∧
      ∀ relation ∈ relations, relation.multiplicity = .zeroOneOrMore ∧ relation.keys ≠ [] := by
  constructor
  · intro h
    obtain ⟨hnodup, hrelations⟩ := keys_of_relationsOf h
    refine ⟨?_, hnodup, hrelations⟩
    obtain ⟨-, rfl⟩ := relationsOf_eq_ok_iff_groupOf.mp h
    rw [List.flatMap_map]
    conv_rhs => rw [← flatMap_keyRuns key rows]
    apply List.flatMap_congr
    intro run hrun
    exact rows_groupOf (uniform_of_mem_keyRuns key rows run hrun)
  · rintro ⟨rfl, hnodup, hrelations⟩
    obtain ⟨runs, huniform, hrows, hkeys, hgroups⟩ := exists_runs hrelations
    rw [← hkeys] at hnodup
    have hapart : runs.IsChain fun run next => key run.first ≠ key next.first :=
      (List.pairwise_map.mp hnodup).isChain
    have hruns : keyRuns key (relations.flatMap Relation.rows) = runs :=
      hrows ▸ keyRuns_flatMap huniform hapart
    rw [relationsOf_eq_ok_iff_groupOf, runKeys, hruns]
    exact ⟨hnodup, hgroups.symm⟩

section Order

variable {ν : Type} [LinearOrder ν] {collate : String → ν}

/-- Where a foreign key stands: by foreign schema, foreign table and constraint. Names are compared
as `collate` ranks them. -/
def RelationKey.rank (collate : String → ν) (relationKey : RelationKey) : ν ×ₗ ν ×ₗ ν :=
  toLex (collate relationKey.foreignSchema,
    toLex (collate relationKey.foreignTable, collate relationKey.constraint))

/-- The order of the rows of one table: by foreign key, and then by ordinal. -/
def InQueryOrder (collate : String → ν) (rows : List ForeignKeyRow) : Prop :=
  rows.Pairwise fun row next =>
    toLex (row.key.rank collate, row.ordinal.toNat) ≤
      toLex (next.key.rank collate, next.ordinal.toNat)

instance : Decidable (InQueryOrder collate rows) :=
  inferInstanceAs (Decidable (rows.Pairwise _))

omit [LinearOrder ν] in
lemma RelationKey.rank_injective (h : Function.Injective collate) :
    Function.Injective (RelationKey.rank collate) := by
  rintro ⟨schema, table, constraint⟩ ⟨schema', table', constraint'⟩ hsame
  simp only [rank, EmbeddingLike.apply_eq_iff_eq, Prod.mk.injEq, h.eq_iff] at hsame
  simpa using hsame

lemma InQueryOrder.rank_le (h : InQueryOrder collate rows) :
    rows.Pairwise fun row next => row.key.rank collate ≤ next.key.rank collate := by
  apply h.imp
  intro row next hle
  rcases Prod.Lex.toLex_le_toLex.mp hle with hlt | ⟨hsame, -⟩
  · exact hlt.le
  · exact hsame.le

/-- The key parts that the rows list under one key are in the order of their ordinals. -/
lemma InQueryOrder.ordinals (h : InQueryOrder collate rows) (relationKey : RelationKey) :
    ((relationFor rows relationKey).keys.map KeyPart.ordinal).Pairwise (· ≤ ·) := by
  rw [relationFor, List.pairwise_map, List.pairwise_map]
  apply (h.filter _).imp_of_mem
  intro row next hrow hnext hle
  have hkey : row.key = next.key := by
    have hrow := (List.mem_filter.mp hrow).2
    have hnext := (List.mem_filter.mp hnext).2
    simp only [decide_eq_true_eq] at hrow hnext
    rw [hrow, hnext]
  rcases Prod.Lex.toLex_le_toLex.mp hle with hlt | ⟨-, hordinal⟩
  · exact absurd hlt (by simp [hkey])
  · exact UInt32.le_iff_toNat_le.mpr hordinal

lemma representative_eq_head? (h : (relation.keys.map KeyPart.ordinal).Pairwise (· ≤ ·)) :
    relation.representative = relation.keys.head? := by
  rw [Relation.representative]
  cases hkeys : relation.keys with
  | nil => rfl
  | cons part parts =>
    rw [hkeys, List.map_cons, List.pairwise_cons] at h
    apply minOn?_of_leads
    refine ⟨[], parts, rfl, by simp, ?_⟩
    intro other hother
    exact h.1 _ (List.mem_map_of_mem hother)

end Order

/-- Grouping foreign key rows loses nothing and can be undone; rows in the order of the queries, by
whatever order of names tells them apart, give one relation for each foreign key, with its key
parts in order and the first of them as representative. -/
theorem relationsOf_inverse_rows :
    (∀ rows relations, relationsOf rows = .ok relations →
      relations.flatMap Relation.rows = rows) ∧
    (∀ relations : List Relation,
      (∀ relation ∈ relations, relation.multiplicity = .zeroOneOrMore ∧ relation.keys ≠ []) →
      (relations.map Relation.key).Nodup →
      relationsOf (relations.flatMap Relation.rows) = .ok relations) ∧
    ∀ (ν : Type) [LinearOrder ν] (collate : String → ν), Function.Injective collate →
      ∀ rows, InQueryOrder collate rows → ∃ relations, relationsOf rows = .ok relations ∧
        (relations.map Relation.key).Nodup ∧
        (∀ relationKey, relationKey ∈ relations.map Relation.key ↔ relationKey ∈ rows.map key) ∧
        ∀ relation ∈ relations,
          relation.keys = (rows.filter fun row => row.key = relation.key).map keyPart ∧
          (relation.keys.map KeyPart.ordinal).Pairwise (· ≤ ·) ∧
          relation.representative = relation.keys.head? := by
  refine ⟨fun rows relations h => (relationsOf_eq_ok_iff_rows.mp h).1, ?_, ?_⟩
  · intro relations hrelations hkeys
    exact relationsOf_eq_ok_iff_rows.mpr ⟨rfl, hkeys, hrelations⟩
  · intro ν _ collate hcollate rows horder
    have hnodup : (runKeys key rows).Nodup :=
      nodup_runKeys_of_pairwise_le (RelationKey.rank_injective hcollate) horder.rank_le
    have hrelations := relationsOf_eq_ok_iff.mpr ⟨hnodup, rfl⟩
    have hkeys : ((runKeys key rows).map (relationFor rows)).map Relation.key =
        runKeys key rows := by
      rw [List.map_map]
      exact List.map_id _
    refine ⟨_, hrelations, hkeys.symm ▸ hnodup, ?_, ?_⟩
    · intro relationKey
      rw [hkeys, mem_runKeys]
    · intro relation hrelation
      obtain ⟨relationKey, -, rfl⟩ := List.mem_map.mp hrelation
      have hordinals := horder.ordinals relationKey
      exact ⟨rfl, hordinals, representative_eq_head? hordinals⟩

/-- The rows of a table whose foreign keys share a name, or a foreign table. -/
def parcelRows : List ForeignKeyRow := [
  ⟨"fk_parcel", "shop", "address", "street", "to_street", 1⟩,
  ⟨"fk_parcel", "shop", "address", "zip", "to_zip", 2⟩,
  ⟨"fk_return", "shop", "address", "street", "back_street", 1⟩,
  ⟨"fk_parcel", "shop", "customer", "id", "customer_id", 1⟩]

def parcelRelations : List Relation := [
  ⟨"fk_parcel", "shop", "address", .zeroOneOrMore,
    [⟨1, "to_street", "street"⟩, ⟨2, "to_zip", "zip"⟩]⟩,
  ⟨"fk_return", "shop", "address", .zeroOneOrMore, [⟨1, "back_street", "street"⟩]⟩,
  ⟨"fk_parcel", "shop", "customer", .zeroOneOrMore, [⟨1, "customer_id", "id"⟩]⟩]

theorem relationsOf_inverse_rows_parcel :
    relationsOf parcelRows = .ok parcelRelations ∧
      parcelRelations.flatMap Relation.rows = parcelRows ∧
      (parcelRelations.map Relation.key).Nodup ∧
      relationsOf (parcelRelations.flatMap Relation.rows) = .ok parcelRelations ∧
      InQueryOrder (id : String → String) parcelRows ∧
      ∃ relations, relationsOf parcelRows = .ok relations ∧
        ∀ relation ∈ relations, relation.representative = relation.keys.head? := by
  have haccepted : relationsOf parcelRows = .ok parcelRelations := by decide
  have hkeys : (parcelRelations.map Relation.key).Nodup := by decide
  have horder : InQueryOrder (id : String → String) parcelRows := by decide +kernel
  obtain ⟨hlossless, hinverse, hsorted⟩ := relationsOf_inverse_rows
  obtain ⟨relations, hrelations, -, -, hparts⟩ :=
    hsorted String id Function.injective_id parcelRows horder
  exact ⟨haccepted, hlossless _ _ haccepted, hkeys, hinverse parcelRelations (by decide) hkeys,
    horder, relations, hrelations, fun relation hrelation => (hparts relation hrelation).2.2⟩

end RelProto
