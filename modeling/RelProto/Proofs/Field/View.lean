import RelProto.Proofs.Field.Layout

/-! What the layout reads of foreign keys: references with the same views are laid out alike, whatever
else their relations hold. -/
namespace RelProto

/-- A reference without the name of its relation, its ordinals and its foreign columns. `leading` is
the column that stands for it. -/
structure ReferenceView where
  foreignSchema : String
  foreignTable : String
  localColumns : List String
  leading : Option String
  deriving DecidableEq

def Reference.view (reference : Reference) : ReferenceView where
  foreignSchema := reference.relation.foreignSchema
  foreignTable := reference.relation.foreignTable
  localColumns := reference.localColumns
  leading := reference.representative.map (·.localColumn)

section Reference

variable {reference reference' : Reference} (h : reference.view = reference'.view)
include h

lemma foreignSchema_eq_of_view :
    reference.relation.foreignSchema = reference'.relation.foreignSchema :=
  congrArg ReferenceView.foreignSchema h

lemma foreignTable_eq_of_view :
    reference.relation.foreignTable = reference'.relation.foreignTable :=
  congrArg ReferenceView.foreignTable h

lemma localColumns_eq_of_view : reference.localColumns = reference'.localColumns :=
  congrArg ReferenceView.localColumns h

end Reference

/-- A place with no more of its reference than the view. -/
def viewPlace (place : Column × Option Reference) : Column × Option ReferenceView :=
  (place.1, place.2.map Reference.view)

/-- A field with no more of its reference than the view. -/
def Field.view (field : Field) : (Column × Option ReferenceView) × String :=
  (viewPlace field.place, field.name)

/-- Two fields with one view are the same plain field, or one field for references with one view. -/
theorem Field.eq_or_reference_of_view {field field' : Field} (h : field.view = field'.view) :
    field = field' ∨ ∃ column target target' name, field = reference column target name ∧
      field' = reference column target' name ∧ target.view = target'.view := by
  obtain ⟨hplace, hname⟩ := Prod.mk.inj h
  obtain ⟨hcolumn, htarget⟩ := Prod.mk.inj hplace
  cases field with
  | plain column =>
    cases field' with
    | plain column' => exact .inl (congrArg plain hcolumn)
    | reference column' target' name' => simp [place, reference?] at htarget
  | reference column target name =>
    cases field' with
    | plain column' => simp [place, reference?] at htarget
    | reference column' target' name' =>
      obtain rfl : column = column' := hcolumn
      obtain rfl : name = name' := hname
      exact .inr ⟨column, target, target', name, rfl, rfl, Option.some.inj htarget⟩

namespace Table

variable {references references' : List Reference}

lemma hasLocalColumn_eq_view (reference : Reference) (name : String) :
    reference.hasLocalColumn name = reference.view.localColumns.contains name := by
  rw [Bool.eq_iff_iff, reference.hasLocalColumn_iff]
  simp [Reference.view]

lemma find?_view (references : List Reference) (name : String) :
    (references.find? (·.hasLocalColumn name)).map Reference.view =
      (references.map Reference.view).find? (·.localColumns.contains name) := by
  rw [List.find?_map]
  congr 2
  ext reference
  exact hasLocalColumn_eq_view reference name

lemma placement_view (references : List Reference) (column : Column) :
    (placement references column).map viewPlace =
      match (references.map Reference.view).find? (·.localColumns.contains column.name) with
      | none => some (column, none)
      | some view => if view.leading = some column.name then some (column, some view) else none := by
  rw [← find?_view, placement]
  cases references.find? (·.hasLocalColumn column.name) with
  | none => rfl
  | some reference =>
    have hleading : reference.view.leading = reference.representative.map (·.localColumn) := rfl
    simp only [Option.map_some, hleading]
    cases hkey : reference.representative with
    | none => simp
    | some key =>
      by_cases hname : key.localColumn = column.name
      · simp [hname, viewPlace]
      · simp [hname]

lemma plainNames_eq_of_view (h : references.map Reference.view = references'.map Reference.view)
    (columns : List Column) : plainNames references columns = plainNames references' columns := by
  have hany : ∀ (references : List Reference) (name : String),
      references.any (·.hasLocalColumn name) =
        (references.map Reference.view).any (·.localColumns.contains name) := by
    intro references name
    rw [List.any_map]
    congr 1
    ext reference
    exact hasLocalColumn_eq_view reference name
  simp only [plainNames, hany, h]

/-- Names depend on the foreign tables of the references alone. -/
lemma map_view_nameFields {placed placed' : List (Column × Option Reference)}
    (h : placed.map viewPlace = placed'.map viewPlace) (taken : List String)
    (counts : List (String × Nat)) :
    (nameFields taken counts placed).map Field.view =
      (nameFields taken counts placed').map Field.view := by
  induction placed generalizing placed' counts with
  | nil =>
    rw [List.map_nil, eq_comm, List.map_eq_nil_iff] at h
    rw [h]
  | cons place rest ih =>
    obtain ⟨place', rest', rfl, hplace, hrest⟩ := List.map_eq_cons_iff.mp h.symm
    obtain ⟨column, target⟩ := place
    obtain ⟨column', target'⟩ := place'
    obtain ⟨rfl, htarget⟩ := Prod.mk.inj hplace
    cases target with
    | none =>
      obtain rfl : target' = none := by simpa using htarget
      simp only [nameFields, List.map_cons, ih hrest.symm]
    | some reference =>
      obtain ⟨reference', rfl, hview⟩ := Option.map_eq_some_iff.mp htarget
      have htable := foreignTable_eq_of_view hview
      simp only [nameFields, List.map_cons, ih hrest.symm, htable]
      congr 1
      simp [Field.view, viewPlace, Field.place, Field.column, Field.reference?, Field.name, hview]

/-- References with the same views give fields with the same views. -/
theorem map_view_fieldsFor (table : Table)
    (h : references.map Reference.view = references'.map Reference.view) :
    (table.fieldsFor references).map Field.view = (table.fieldsFor references').map Field.view := by
  rw [fieldsFor, fieldsFor, plainNames_eq_of_view h]
  apply map_view_nameFields
  rw [List.map_filterMap, List.map_filterMap]
  apply List.filterMap_congr
  intro column _
  rw [placement_view, placement_view, h]

/-- Whether references are apart shows in their views. -/
theorem pairwise_apart_iff_of_view
    (h : references.map Reference.view = references'.map Reference.view) :
    references.Pairwise Reference.Apart ↔ references'.Pairwise Reference.Apart := by
  have hviews : ∀ references : List Reference, references.Pairwise Reference.Apart ↔
      (references.map Reference.view).Pairwise fun first second =>
        first.localColumns.Disjoint second.localColumns := by
    intro references
    rw [List.pairwise_map]
    rfl
  rw [hviews, h, ← hviews]

end Table

end RelProto
