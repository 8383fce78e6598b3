import Mathlib.Data.List.Forall2
import RelProto.Proofs.Field.View

/-! How foreign keys may be told without any change to the fields: their names, foreign columns and
ordinals may change as long as the ordinals keep their order, and they may come in any order. -/
namespace RelProto

/-- The second part has the local column of the first one, under a new ordinal. -/
def KeyPart.Renumbered (renumber : UInt32 → UInt32) (part part' : KeyPart) : Prop :=
  part'.localColumn = part.localColumn ∧ part'.ordinal = renumber part.ordinal

/-- Ordinals of these key parts that differ keep their order. -/
def KeepsOrder (renumber : UInt32 → UInt32) (keys : List KeyPart) : Prop :=
  ∀ part ∈ keys, ∀ other ∈ keys,
    part.ordinal < other.ordinal → renumber part.ordinal < renumber other.ordinal

/-- The relations have one foreign table, and the same local columns in the same order. -/
structure Relation.Relabeled (relation relation' : Relation) : Prop where
  foreignSchema_eq : relation'.foreignSchema = relation.foreignSchema
  foreignTable_eq : relation'.foreignTable = relation.foreignTable
  multiplicity_eq : relation'.multiplicity = relation.multiplicity
  keys : ∃ renumber, KeepsOrder renumber relation.keys ∧
    List.Forall₂ (KeyPart.Renumbered renumber) relation.keys relation'.keys

section Keys

variable {renumber : UInt32 → UInt32} {keys keys' : List KeyPart}

lemma KeepsOrder.of_subset (h : KeepsOrder renumber keys) {fewer : List KeyPart}
    (hsubset : fewer ⊆ keys) : KeepsOrder renumber fewer :=
  fun part hpart other hother => h part (hsubset hpart) other (hsubset hother)

lemma KeepsOrder.le_iff (h : KeepsOrder renumber keys) {part other : KeyPart} (hpart : part ∈ keys)
    (hother : other ∈ keys) :
    renumber part.ordinal ≤ renumber other.ordinal ↔ part.ordinal ≤ other.ordinal := by
  constructor
  · intro hle
    by_contra hlt
    exact UInt32.not_lt.mpr hle (h other hother part hpart (UInt32.not_le.mp hlt))
  · intro hle
    by_cases hlt : part.ordinal < other.ordinal
    · exact UInt32.le_of_lt (h part hpart other hother hlt)
    · rw [UInt32.le_antisymm hle (UInt32.not_lt.mp hlt)]
      exact UInt32.le_refl _

lemma map_localColumn_of_renumbered (h : List.Forall₂ (KeyPart.Renumbered renumber) keys keys') :
    keys'.map (·.localColumn) = keys.map (·.localColumn) := by
  induction h with
  | nil => rfl
  | cons hpart _ ih => rw [List.map_cons, List.map_cons, hpart.1, ih]

/-- The key part of lowest ordinal stays in its place. -/
lemma minOn?_of_renumbered (h : List.Forall₂ (KeyPart.Renumbered renumber) keys keys')
    (horder : KeepsOrder renumber keys) : Option.Rel (KeyPart.Renumbered renumber)
      (keys.minOn? (·.ordinal)) (keys'.minOn? (·.ordinal)) := by
  induction h with
  | nil => exact .none
  | @cons part part' rest rest' hpart _ ih =>
    have hrest := ih (horder.of_subset (List.subset_cons_self _ _))
    have hmem : ∀ best, rest.minOn? (·.ordinal) = some best → best ∈ part :: rest :=
      fun best hbest => List.mem_cons_of_mem part (List.minOn?_mem hbest)
    rw [List.minOn?_cons, List.minOn?_cons]
    generalize rest.minOn? (·.ordinal) = best? at hrest hmem ⊢
    generalize rest'.minOn? (·.ordinal) = best?' at hrest ⊢
    cases hrest with
    | none => exact .some hpart
    | @some best best' hbest =>
      have hle := horder.le_iff List.mem_cons_self (hmem best rfl)
      simp only [Option.elim_some, minOn_eq_if, hpart.2, hbest.2, hle]
      by_cases hfirst : part.ordinal ≤ best.ordinal
      · rw [if_pos hfirst, if_pos hfirst]
        exact .some hpart
      · rw [if_neg hfirst, if_neg hfirst]
        exact .some hbest

lemma map_localColumn_of_rel {part? part?' : Option KeyPart}
    (h : Option.Rel (KeyPart.Renumbered renumber) part? part?') :
    part?'.map (·.localColumn) = part?.map (·.localColumn) := by
  cases h with
  | none => rfl
  | some hpart => exact congrArg some hpart.1

end Keys

namespace Table

variable {table : Table}

section Relabeled

variable {relation relation' : Relation} {relations relations' : List Relation}

/-- The same key parts are present. -/
lemma presentKeys_of_renumbered (table : Table) {renumber : UInt32 → UInt32}
    (h : List.Forall₂ (KeyPart.Renumbered renumber) relation.keys relation'.keys) :
    List.Forall₂ (KeyPart.Renumbered renumber) (table.presentKeys relation)
      (table.presentKeys relation') := by
  refine List.rel_filter ?_ h
  intro part part' hpart
  have hname : part'.localColumn = part.localColumn := hpart.1
  simp only [hname]

lemma view_of_relabeled (h : relation.Relabeled relation') :
    (table.reference relation').view = (table.reference relation).view := by
  obtain ⟨renumber, horder, hkeys⟩ := h.keys
  have hpresent := presentKeys_of_renumbered table hkeys
  have hsubset : table.presentKeys relation ⊆ relation.keys := List.filter_subset_self _
  have hleading := map_localColumn_of_rel (minOn?_of_renumbered hpresent (horder.of_subset hsubset))
  have hcolumns := map_localColumn_of_renumbered hpresent
  simp only [Reference.view, Reference.representative, Reference.localColumns, reference,
    h.foreignSchema_eq, h.foreignTable_eq, hleading, hcolumns]

lemma embeds_iff_of_relabeled (h : relation.Relabeled relation') :
    table.Embeds relation' ↔ table.Embeds relation := by
  obtain ⟨renumber, _, hkeys⟩ := h.keys
  have hlength := (presentKeys_of_renumbered table hkeys).length_eq
  rw [Embeds, Embeds, h.multiplicity_eq, ← List.length_pos_iff, ← List.length_pos_iff, hlength]

/-- Relations with new labels become references with the same views. -/
theorem map_view_embeddingsAmong (h : List.Forall₂ Relation.Relabeled relations relations') :
    (table.embeddingsAmong relations').map Reference.view =
      (table.embeddingsAmong relations).map Reference.view := by
  induction h with
  | nil => rfl
  | @cons relation relation' rest rest' hrelation _ ih =>
    by_cases hembeds : table.Embeds relation
    · have hembeds' := (embeds_iff_of_relabeled hrelation).mpr hembeds
      rw [embeddingsAmong_cons_of_embeds hembeds, embeddingsAmong_cons_of_embeds hembeds',
        List.map_cons, List.map_cons, ih, view_of_relabeled hrelation]
    · have hembeds' := mt (embeds_iff_of_relabeled hrelation).mp hembeds
      rw [embeddingsAmong_cons_of_not_embeds hembeds, embeddingsAmong_cons_of_not_embeds hembeds', ih]

lemma keyed_iff_of_relabeled (h : List.Forall₂ Relation.Relabeled relations relations') :
    Keyed relations' ↔ Keyed relations := by
  induction h with
  | nil => exact Iff.rfl
  | cons hrelation _ ih =>
    obtain ⟨renumber, _, hkeys⟩ := hrelation.keys
    rw [keyed_cons, keyed_cons, ih, hrelation.multiplicity_eq, ← List.length_pos_iff,
      ← List.length_pos_iff, hkeys.length_eq]

end Relabeled

section Perm

variable {relations relations' : List Relation} {references references' : List Reference}

lemma embeddingsAmong_perm (h : relations.Perm relations') :
    (table.embeddingsAmong relations).Perm (table.embeddingsAmong relations') :=
  (h.filter _).map _

lemma keyed_iff_of_perm (h : relations.Perm relations') : Keyed relations ↔ Keyed relations' := by
  constructor
  · intro hkeyed relation hrelation
    exact hkeyed relation (h.mem_iff.mpr hrelation)
  · intro hkeyed relation hrelation
    exact hkeyed relation (h.mem_iff.mp hrelation)

/-- References that are apart are found in any order. -/
lemma find?_perm (hapart : references.Pairwise Reference.Apart) (h : references.Perm references')
    (name : String) :
    references.find? (·.hasLocalColumn name) = references'.find? (·.hasLocalColumn name) := by
  cases hfound : references'.find? (·.hasLocalColumn name) with
  | none =>
    rw [List.find?_eq_none] at hfound ⊢
    intro reference hreference
    exact hfound reference (h.mem_iff.mp hreference)
  | some found =>
    have hname : name ∈ found.localColumns := by simpa using List.find?_some hfound
    exact find?_hasLocalColumn hapart (h.mem_iff.mpr (List.mem_of_find?_eq_some hfound)) hname

/-- The order of the references does not show in the fields. -/
theorem fieldsFor_perm (table : Table) (hapart : references.Pairwise Reference.Apart)
    (h : references.Perm references') : table.fieldsFor references = table.fieldsFor references' := by
  have hplaces : placement references = placement references' := by
    ext column
    simp only [placement, find?_perm hapart h]
  have hnames : plainNames references table.columns = plainNames references' table.columns := by
    simp only [plainNames, h.any_eq]
  rw [fieldsFor, fieldsFor, hplaces, hnames]

end Perm

/-- The table with other foreign keys. -/
def withRelations (table : Table) (relations : List Relation) : Table :=
  { table with relations := relations }

section WithRelations

variable {relations between relations' : List Relation}
  (hlabels : List.Forall₂ Relation.Relabeled relations between)
  (horder : between.Perm relations')
include hlabels horder

lemma pairwise_apart_iff_of_relabeled :
    (table.embeddingsAmong relations).Pairwise Reference.Apart ↔
      (table.embeddingsAmong relations').Pairwise Reference.Apart := by
  rw [← (embeddingsAmong_perm horder).pairwise_iff fun h => Std.Symm.symm _ _ h]
  exact pairwise_apart_iff_of_view (map_view_embeddingsAmong hlabels).symm

lemma resolvable_iff_of_relabeled :
    (table.withRelations relations).Resolvable ↔ (table.withRelations relations').Resolvable := by
  have hkeyed : Keyed relations ↔ Keyed relations' :=
    (keyed_iff_of_relabeled hlabels).symm.trans (keyed_iff_of_perm horder)
  exact and_congr hkeyed (pairwise_apart_iff_of_relabeled hlabels horder)

lemma map_view_fieldsFor_embeddings (h : (table.withRelations relations').Resolvable) :
    (table.fieldsFor (table.embeddingsAmong relations)).map Field.view =
      (table.fieldsFor (table.embeddingsAmong relations')).map Field.view := by
  have hapart : (table.embeddingsAmong relations').Pairwise Reference.Apart := h.2
  rw [fieldsFor_perm table hapart (embeddingsAmong_perm horder.symm)]
  exact map_view_fieldsFor table (map_view_embeddingsAmong hlabels).symm

/-- New labels and another order of the foreign keys leave the fields as they look, or there are no
fields for either. -/
theorem resolvedFields_of_relabeled (table : Table) :
    (∃ fields fields', (table.withRelations relations).resolvedFields.result = .ok fields ∧
      (table.withRelations relations').resolvedFields.result = .ok fields' ∧
      fields.map Field.view = fields'.map Field.view) ∨
    ∃ cause cause', (table.withRelations relations).resolvedFields.result = .error cause ∧
      (table.withRelations relations').resolvedFields.result = .error cause' := by
  have hiff : (table.withRelations relations).Resolvable ↔
      (table.withRelations relations').Resolvable := resolvable_iff_of_relabeled hlabels horder
  by_cases h : (table.withRelations relations').Resolvable
  · left
    exact ⟨_, _, resolvedFields_of_resolvable (hiff.mpr h), resolvedFields_of_resolvable h,
      map_view_fieldsFor_embeddings hlabels horder h⟩
  · right
    obtain ⟨cause, hcause⟩ := exists_error_of_not_resolvable (mt hiff.mp h)
    obtain ⟨cause', hcause'⟩ := exists_error_of_not_resolvable h
    exact ⟨cause, cause', hcause, hcause'⟩

end WithRelations

end Table

end RelProto
