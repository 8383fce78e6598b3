import Mathlib.Data.List.Nodup
import Mathlib.Data.List.Pairwise
import RelProto.Proofs.Field.Embedding

/-! Where the fields of a resolved layout stand: the columns outside every embedded foreign key, and
one column for each embedded relation, in column order. -/
namespace RelProto

namespace Field

def reference? : Field → Option Reference
  | plain _ => none
  | reference _ target _ => some target

def plain? : Field → Option Column
  | plain column => some column
  | reference .. => none

/-- What a field is, its name left out. -/
def place (field : Field) : Column × Option Reference := (field.column, field.reference?)

lemma place_eq_plain_iff {field : Field} {column : Column} :
    field.place = (column, none) ↔ field = plain column := by
  cases field <;> simp [place, Field.column, reference?]

lemma place_eq_reference_iff {field : Field} {column : Column} {target : Reference} :
    field.place = (column, some target) ↔ ∃ name, field = reference column target name := by
  cases field <;> simp [place, Field.column, reference?]

lemma length_eq_plain_add_references (fields : List Field) :
    fields.length = (fields.filterMap plain?).length + (fields.filterMap reference?).length := by
  induction fields with
  | nil => rfl
  | cons field rest ih =>
    cases field with
    | plain column => simp only [List.filterMap_cons, plain?, reference?, List.length_cons, ih]; omega
    | reference column target name =>
      simp only [List.filterMap_cons, plain?, reference?, List.length_cons, ih]; omega

end Field

namespace Table

variable {table : Table} {references : List Reference}

/-- Naming keeps the columns and references as they were placed. -/
@[simp] theorem map_place_nameFields (taken : List String) (counts : List (String × Nat))
    (placed : List (Column × Option Reference)) :
    (nameFields taken counts placed).map Field.place = placed := by
  fun_induction nameFields taken counts placed with
  | case1 => rfl
  | case2 counts column rest ih => simp [Field.place, Field.column, Field.reference?, ih]
  | case3 counts column reference rest base n ih =>
    simp [Field.place, Field.column, Field.reference?, ih]

lemma map_place_fieldsFor (references : List Reference) :
    (table.fieldsFor references).map Field.place =
      table.columns.filterMap (placement references) := by
  simp [fieldsFor]

/-- A column is a local column of at most one of the references. -/
lemma find?_hasLocalColumn (hapart : references.Pairwise Reference.Apart) {reference : Reference}
    {name : String} (hreference : reference ∈ references)
    (hname : name ∈ reference.localColumns) :
    references.find? (·.hasLocalColumn name) = some reference := by
  cases hfound : references.find? (·.hasLocalColumn name) with
  | none =>
    have hnone := List.find?_eq_none.mp hfound reference hreference
    simp [hname] at hnone
  | some found =>
    have hmem := List.mem_of_find?_eq_some hfound
    have hhas : name ∈ found.localColumns := by simpa using List.find?_some hfound
    by_contra hne
    have hdisjoint := hapart.forall hmem hreference (by simpa using hne)
    exact hdisjoint hhas hname

lemma placement_column {column other : Column} {target : Option Reference}
    (h : placement references column = some (other, target)) : other = column := by
  unfold placement at h
  split at h
  · cases h
    rfl
  · split at h
    · cases h
    · split at h <;> cases h
      rfl

theorem placement_eq_plain_iff {column other : Column} :
    placement references column = some (other, none) ↔
      other = column ∧ ∀ reference ∈ references, column.name ∉ reference.localColumns := by
  constructor
  · intro h
    unfold placement at h
    split at h
    · next hnone =>
      cases h
      simpa using hnone
    · split at h
      · cases h
      · split at h <;> cases h
  · rintro ⟨rfl, hnone⟩
    have hfound : references.find? (·.hasLocalColumn other.name) = none := by simpa using hnone
    simp [placement, hfound]

/-- The column stands for the reference: it is the local column of the leading key part. -/
def Represents (column : Column) (reference : Reference) : Prop :=
  ∃ key : KeyPart, key.Leads reference.keys ∧ key.localColumn = column.name

lemma Represents.mem_localColumns {column : Column} {reference : Reference}
    (h : Represents column reference) : column.name ∈ reference.localColumns := by
  obtain ⟨key, hkey, hname⟩ := h
  exact hname ▸ List.mem_map_of_mem hkey.mem

lemma Represents.name_eq {column other : Column} {reference : Reference}
    (h : Represents column reference) (hother : Represents other reference) :
    column.name = other.name := by
  obtain ⟨key, hkey, hname⟩ := h
  obtain ⟨key', hkey', hname'⟩ := hother
  have hsame : key = key' := by
    rw [← reference.representative_eq_some_iff] at hkey hkey'
    exact Option.some.inj (hkey.symm.trans hkey')
  rw [← hname, ← hname', hsame]

theorem placement_eq_reference_iff (hapart : references.Pairwise Reference.Apart)
    {column other : Column} {reference : Reference} :
    placement references column = some (other, some reference) ↔
      other = column ∧ reference ∈ references ∧ Represents column reference := by
  constructor
  · intro h
    unfold placement at h
    split at h
    · cases h
    · next found hfound =>
      have hmem := List.mem_of_find?_eq_some hfound
      split at h
      · cases h
      · next key hkey =>
        split at h
        · next hname =>
          cases h
          exact ⟨rfl, hmem, key, (reference.representative_eq_some_iff key).mp hkey, hname⟩
        · cases h
  · rintro ⟨rfl, hmem, hrepresents⟩
    have hfound := find?_hasLocalColumn hapart hmem hrepresents.mem_localColumns
    obtain ⟨key, hkey, hname⟩ := hrepresents
    rw [← reference.representative_eq_some_iff] at hkey
    simp [placement, hfound, hkey, hname]

/-- The column belongs to no foreign key that becomes a field. -/
def Plain (table : Table) (column : Column) : Prop :=
  ∀ relation ∈ table.relations, table.Embeds relation → column.name ∉ relation.localColumns

instance (column : Column) : Decidable (table.Plain column) :=
  inferInstanceAs (Decidable (∀ relation ∈ table.relations, _))

def plainColumns (table : Table) : List Column :=
  table.columns.filter fun column => table.Plain column

@[simp] theorem mem_embeddings {reference : Reference} :
    reference ∈ table.embeddings ↔
      ∃ relation ∈ table.relations, table.Embeds relation ∧ table.reference relation = reference := by
  simp [embeddings, embeddingsAmong, and_assoc]

lemma mem_localColumns_reference (relation : Relation) {column : Column}
    (hcolumn : column ∈ table.columns) :
    column.name ∈ (table.reference relation).localColumns ↔
      column.name ∈ relation.localColumns := by
  simp only [Reference.localColumns, reference, Relation.localColumns, List.mem_map,
    mem_presentKeys]
  constructor
  · rintro ⟨key, ⟨hkey, _⟩, hname⟩
    exact ⟨key, hkey, hname⟩
  · rintro ⟨key, hkey, hname⟩
    exact ⟨key, ⟨hkey, column, hcolumn, hname.symm⟩, hname⟩

lemma plain_iff {column : Column} (hcolumn : column ∈ table.columns) :
    table.Plain column ↔ ∀ reference ∈ table.embeddings, column.name ∉ reference.localColumns := by
  constructor
  · intro h reference hreference
    obtain ⟨relation, hrelation, hembeds, rfl⟩ := mem_embeddings.mp hreference
    rw [mem_localColumns_reference relation hcolumn]
    exact h relation hrelation hembeds
  · intro h relation hrelation hembeds
    rw [← mem_localColumns_reference relation hcolumn]
    exact h _ (mem_embeddings.mpr ⟨relation, hrelation, hembeds, rfl⟩)

/-- Some column of the table stands for each embedded relation. -/
lemma exists_represents {reference : Reference} (h : reference ∈ table.embeddings) :
    ∃ column ∈ table.columns, Represents column reference := by
  obtain ⟨relation, _, hembeds, rfl⟩ := mem_embeddings.mp h
  obtain ⟨key, hkey⟩ := Option.isSome_iff_exists.mp
    (List.isSome_minOn?_iff (f := KeyPart.ordinal) |>.mpr hembeds.2)
  have hleads := leads_of_minOn? hkey
  obtain ⟨column, hcolumn, hname⟩ := List.mem_map.mp (mem_presentKeys.mp hleads.mem).2
  exact ⟨column, hcolumn, key, hleads, hname.symm⟩

lemma nodup_embeddings (h : table.Resolvable) : table.embeddings.Nodup := by
  apply h.2.imp_of_mem
  rintro first second hfirst _ hapart rfl
  obtain ⟨column, _, hrepresents⟩ := exists_represents hfirst
  exact hapart hrepresents.mem_localColumns hrepresents.mem_localColumns

section Fields

variable {fields : List Field} (h : table.resolvedFields.result = .ok fields)
include h

lemma map_place_eq : fields.map Field.place = table.columns.filterMap (placement table.embeddings) := by
  obtain ⟨_, rfl⟩ := (resolvedFields_eq_ok_iff table fields).mp h
  exact map_place_fieldsFor _

lemma mem_places_iff {column : Column} {target : Option Reference} :
    (column, target) ∈ fields.map Field.place ↔
      column ∈ table.columns ∧ placement table.embeddings column = some (column, target) := by
  rw [map_place_eq h, List.mem_filterMap]
  constructor
  · rintro ⟨other, hother, hplacement⟩
    obtain rfl := placement_column hplacement
    exact ⟨hother, hplacement⟩
  · rintro ⟨hcolumn, hplacement⟩
    exact ⟨column, hcolumn, hplacement⟩

theorem plain_mem_iff {column : Column} :
    .plain column ∈ fields ↔ column ∈ table.columns ∧ table.Plain column := by
  have hplace : .plain column ∈ fields ↔ (column, none) ∈ fields.map Field.place := by
    simp [List.mem_map, Field.place_eq_plain_iff]
  rw [hplace, mem_places_iff h, placement_eq_plain_iff]
  constructor
  · rintro ⟨hcolumn, _, hnone⟩
    exact ⟨hcolumn, (plain_iff hcolumn).mpr hnone⟩
  · rintro ⟨hcolumn, hplain⟩
    exact ⟨hcolumn, rfl, (plain_iff hcolumn).mp hplain⟩

theorem reference_mem_iff {column : Column} {reference : Reference} :
    (∃ name, .reference column reference name ∈ fields) ↔
      column ∈ table.columns ∧ reference ∈ table.embeddings ∧ Represents column reference := by
  have hplace : (∃ name, .reference column reference name ∈ fields) ↔
      (column, some reference) ∈ fields.map Field.place := by
    simp only [List.mem_map, Field.place_eq_reference_iff]
    constructor
    · rintro ⟨name, hname⟩
      exact ⟨_, hname, name, rfl⟩
    · rintro ⟨_, hfield, name, rfl⟩
      exact ⟨name, hfield⟩
  have hresolvable := ((resolvedFields_eq_ok_iff table fields).mp h).1
  rw [hplace, mem_places_iff h, placement_eq_reference_iff hresolvable.2, and_iff_right rfl]

/-- What a field stands for is an embedded relation, and the column of the field represents it. -/
lemma mem_embeddings_of_reference? {field : Field} {target : Reference} (hfield : field ∈ fields)
    (htarget : field.reference? = some target) :
    target ∈ table.embeddings ∧ Represents field.column target := by
  cases field with
  | plain column => cases htarget
  | reference column target' name =>
    cases htarget
    exact ((reference_mem_iff h).mp ⟨name, hfield⟩).2

lemma exists_field_of_mem_embeddings {target : Reference} (htarget : target ∈ table.embeddings) :
    ∃ field ∈ fields, field.reference? = some target := by
  obtain ⟨column, hcolumn, hrepresents⟩ := exists_represents htarget
  obtain ⟨name, hfield⟩ := (reference_mem_iff h).mpr ⟨hcolumn, htarget, hrepresents⟩
  exact ⟨_, hfield, rfl⟩

/-- The columns of the fields keep their order. -/
theorem map_column_sublist : (fields.map Field.column).Sublist table.columns := by
  have hcolumns : fields.map Field.column = (fields.map Field.place).map Prod.fst := by
    simp [Field.place]
  rw [hcolumns, map_place_eq h]
  generalize table.columns = columns
  induction columns with
  | nil => exact List.Sublist.refl _
  | cons column rest ih =>
    rw [List.filterMap_cons]
    split
    · exact ih.cons column
    · next placed hplacement =>
      obtain ⟨other, target⟩ := placed
      obtain rfl := placement_column hplacement
      rw [List.map_cons]
      exact ih.cons_cons other

section Distinct

variable (hnames : (table.columns.map (·.name)).Nodup)
include hnames

lemma nodup_column_names : (fields.map fun field => field.column.name).Nodup := by
  have hsublist := (map_column_sublist h).map (·.name)
  rw [List.map_map] at hsublist
  exact hnames.sublist hsublist

/-- One column stands for a reference, so it has one field. -/
lemma eq_of_reference?_eq {field other : Field} {target : Reference} (hfield : field ∈ fields)
    (hother : other ∈ fields) (htarget : field.reference? = some target)
    (htarget' : other.reference? = some target) : field = other := by
  have hrepresents := (mem_embeddings_of_reference? h hfield htarget).2
  have hrepresents' := (mem_embeddings_of_reference? h hother htarget').2
  exact List.inj_on_of_nodup_map (nodup_column_names h hnames) hfield hother
    (hrepresents.name_eq hrepresents')

/-- Each embedded relation has one field. -/
theorem references_perm : (fields.filterMap Field.reference?).Perm table.embeddings := by
  have hresolvable := ((resolvedFields_eq_ok_iff table fields).mp h).1
  apply (List.perm_ext_iff_of_nodup ?_ (nodup_embeddings hresolvable)).mpr
  · intro reference
    rw [List.mem_filterMap]
    constructor
    · rintro ⟨field, hfield, hreference⟩
      exact (mem_embeddings_of_reference? h hfield hreference).1
    · exact exists_field_of_mem_embeddings h
  · apply List.pairwise_filterMap.mpr
    apply (List.pairwise_map.mp (nodup_column_names h hnames)).imp_of_mem
    rintro field other hfield hother hne reference hreference _ hother' rfl
    have hsame := eq_of_reference?_eq h hnames hfield hother hreference hother'
    exact hne (congrArg (fun field => field.column.name) hsame)

end Distinct

lemma filterMap_plain?_eq :
    fields.filterMap Field.plain? = table.plainColumns := by
  have hplain : fields.filterMap Field.plain? =
      (fields.map Field.place).filterMap fun place => if place.2 = none then some place.1 else none := by
    rw [List.filterMap_map]
    apply List.filterMap_congr
    rintro (_ | _) _ <;> rfl
  rw [hplain, map_place_eq h, List.filterMap_filterMap, plainColumns, ← List.filterMap_eq_filter]
  apply List.filterMap_congr
  intro column hcolumn
  by_cases hcase : table.Plain column
  · have hplacement := placement_eq_plain_iff.mpr ⟨rfl, (plain_iff hcolumn).mp hcase⟩
    simp [hplacement, hcase, Option.guard]
  · have hnot : ∀ other, placement table.embeddings column ≠ some (other, none) := by
      intro other hplacement
      exact hcase ((plain_iff hcolumn).mpr (placement_eq_plain_iff.mp hplacement).2)
    rcases hplacement : placement table.embeddings column with _ | ⟨other, _ | target⟩
    · simp [hcase, Option.guard]
    · exact absurd hplacement (hnot other)
    · simp [hcase, Option.guard]

end Fields

/-- The fields of a table in terms of its columns and relations: in column order, every plain column
and the one column that stands for each embedded relation. Other key columns disappear. -/
structure IsLayout (table : Table) (fields : List Field) : Prop where
  column_sublist : (fields.map Field.column).Sublist table.columns
  plain_mem_iff : ∀ column,
    .plain column ∈ fields ↔ column ∈ table.columns ∧ table.Plain column
  reference_mem_iff : ∀ column reference, (∃ name, .reference column reference name ∈ fields) ↔
    column ∈ table.columns ∧ reference ∈ table.embeddings ∧ Represents column reference
  references_perm : (fields.filterMap Field.reference?).Perm table.embeddings
  length_eq : fields.length = table.plainColumns.length + table.embeddings.length

theorem isLayout_of_resolvedFields (table : Table) (fields : List Field)
    (hnames : (table.columns.map (·.name)).Nodup) (h : table.resolvedFields.result = .ok fields) :
    table.IsLayout fields where
  column_sublist := map_column_sublist h
  plain_mem_iff column := plain_mem_iff h
  reference_mem_iff column reference := reference_mem_iff h
  references_perm := references_perm h hnames
  length_eq := by
    rw [Field.length_eq_plain_add_references, filterMap_plain?_eq h,
      (references_perm h hnames).length_eq]

/-- A table of integer columns with these names. -/
def ofNames (schema name : String) (columns : List String) (relations : List Relation) : Table where
  schema := schema
  name := name
  columns := columns.zipIdx.map fun (column, i) =>
    ⟨schema, name, column, .ofNat (i + 1), "integer", "integer", none, false, false, false⟩
  indexes := []
  relations := relations

/-- The leading key part of the address is the last one, and its city is not in the table. -/
def orderLine : Table :=
  ofNames "shop" "order_line" ["id", "zip", "street", "note"] [
    ⟨"fk_address", "shop", "address", .zeroOneOrMore,
     [⟨3, "city", "city"⟩, ⟨2, "zip", "zip"⟩, ⟨1, "street", "street"⟩]⟩,
    ⟨"fk_tag", "shop", "tag", .manyToMany, [⟨1, "note", "id"⟩]⟩]

lemma resolvedFields_orderLine :
    orderLine.resolvedFields.result = .ok (orderLine.fieldsFor orderLine.embeddings) :=
  resolvedFields_of_resolvable (by decide)

theorem isLayout_orderLine :
    (orderLine.columns.map (·.name)).Nodup ∧
    orderLine.resolvedFields.result = .ok (orderLine.fieldsFor orderLine.embeddings) ∧
    orderLine.IsLayout (orderLine.fieldsFor orderLine.embeddings) :=
  ⟨by decide, resolvedFields_orderLine,
    isLayout_of_resolvedFields orderLine _ (by decide) resolvedFields_orderLine⟩

end Table

end RelProto
