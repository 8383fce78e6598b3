import RelProto.Proofs.Field.Names

/-! Fields of a table that grows at its end: the fields it had keep their numbers, columns and
relations, and their names as long as no new plain column has one of them. -/
namespace RelProto

namespace Text

/-- Names that are not free already, and names that are not the one found, change nothing when they
are taken as well. -/
theorem freshIndex_append {base : String} {taken added : List String} {n : Nat}
    (h : numberedName base (freshIndex base taken n) ∉ added) :
    freshIndex base (taken ++ added) n = freshIndex base taken n := by
  have hfree : numberedName base (freshIndex base taken n) ∉ taken ++ added := by
    simp [numberedName_freshIndex_notMem, h]
  refine freshIndex_eq_of_first (le_freshIndex base taken n) hfree ?_
  intro i hle hlt
  exact List.mem_append_left added (numberedName_mem_of_lt_freshIndex hle hlt)

end Text

namespace Table

/-- The second list is the first one with new relations in between. -/
inductive WithNew (isNew : Relation → Prop) : List Relation → List Relation → Prop
  | nil : WithNew isNew [] []
  | keep {old grown} (relation : Relation) (tail : WithNew isNew old grown) :
      WithNew isNew (relation :: old) (relation :: grown)
  | add {old grown} {relation : Relation} (new : isNew relation) (tail : WithNew isNew old grown) :
      WithNew isNew old (relation :: grown)

theorem WithNew.sublist {isNew : Relation → Prop} {old grown : List Relation}
    (h : WithNew isNew old grown) : old.Sublist grown := by
  induction h with
  | nil => exact List.Sublist.refl _
  | keep relation _ ih => exact ih.cons_cons relation
  | add _ _ ih => exact ih.cons _

/-- Columns are appended, and relations are added that use none of the old columns. No relation that
was there before mentions an appended column. -/
structure Grows (table : Table) (appended : List Column) (grown : Table) : Prop where
  columns_eq : grown.columns = table.columns ++ appended
  relations : WithNew (fun relation => ∀ column ∈ table.columns,
    column.name ∉ relation.localColumns) table.relations grown.relations
  notMem_localColumns : ∀ relation ∈ table.relations, ∀ column ∈ appended,
    column.name ∉ relation.localColumns

/-- More places do not change the fields for the first ones. -/
lemma nameFields_prefix (taken : List String) (counts : List (String × Nat))
    (placed more : List (Column × Option Reference)) :
    nameFields taken counts placed <+: nameFields taken counts (placed ++ more) := by
  rw [nameFields_append]
  exact List.prefix_append _ _

/-- Taken names that no relation field has do not change the fields. -/
lemma nameFields_append_taken {taken added : List String} {counts : List (String × Nat)}
    {placed : List (Column × Option Reference)}
    (h : ∀ field ∈ nameFields taken counts placed, field.isReference → field.name ∉ added) :
    nameFields (taken ++ added) counts placed = nameFields taken counts placed := by
  induction placed generalizing counts with
  | nil => rfl
  | cons place rest ih =>
    obtain ⟨column, _ | target⟩ := place
    · rw [nameFields, nameFields, ih fun field hfield => h field (List.mem_cons_of_mem _ hfield)]
    · rw [nameFields_reference] at h
      have hname := h _ List.mem_cons_self rfl
      have hindex : nextIndex (taken ++ added) counts target.relation.foreignTable =
          nextIndex taken counts target.relation.foreignTable := Text.freshIndex_append hname
      rw [nameFields_reference, nameFields_reference, hindex,
        ih fun field hfield => h field (List.mem_cons_of_mem _ hfield)]

/-- New relations that do not use a column do not change its reference. -/
lemma find?_embeddingsAmong_of_withNew {table : Table} {isNew : Relation → Prop}
    {old grown : List Relation} {column : Column} (h : WithNew isNew old grown)
    (hcolumn : column ∈ table.columns)
    (hnew : ∀ relation, isNew relation → column.name ∉ relation.localColumns) :
    (table.embeddingsAmong grown).find? (·.hasLocalColumn column.name) =
      (table.embeddingsAmong old).find? (·.hasLocalColumn column.name) := by
  induction h with
  | nil => rfl
  | keep relation _ ih =>
    by_cases hembeds : table.Embeds relation
    · rw [embeddingsAmong_cons_of_embeds hembeds, embeddingsAmong_cons_of_embeds hembeds,
        List.find?_cons, List.find?_cons, ih]
    · rw [embeddingsAmong_cons_of_not_embeds hembeds, embeddingsAmong_cons_of_not_embeds hembeds, ih]
  | @add _ _ relation hisNew _ ih =>
    by_cases hembeds : table.Embeds relation
    · have hnot : (table.reference relation).hasLocalColumn column.name = false := by
        rw [Bool.eq_false_iff, Ne, Reference.hasLocalColumn_iff,
          mem_localColumns_reference relation hcolumn]
        exact hnew relation hisNew
      rw [embeddingsAmong_cons_of_embeds hembeds, List.find?_cons, hnot, ih]
    · rw [embeddingsAmong_cons_of_not_embeds hembeds, ih]

section Grown

variable {table grown : Table} {appended : List Column} (h : table.Grows appended grown)
include h

lemma presentKeys_grown {relation : Relation} (hrelation : relation ∈ table.relations) :
    grown.presentKeys relation = table.presentKeys relation := by
  apply List.filter_congr
  intro key hkey
  have hnew : ∀ column ∈ appended, column.name ≠ key.localColumn := by
    intro column hcolumn hname
    exact h.notMem_localColumns relation hrelation column hcolumn
      (hname ▸ List.mem_map_of_mem hkey)
  have hnone : appended.find? (·.name == key.localColumn) = none := by simpa using hnew
  rw [column?, column?, h.columns_eq, List.find?_append, hnone, Option.or_none]

lemma embeds_grown {relation : Relation} (hrelation : relation ∈ table.relations) :
    grown.Embeds relation ↔ table.Embeds relation := by
  rw [Embeds, Embeds, presentKeys_grown h hrelation]

lemma reference_grown {relation : Relation} (hrelation : relation ∈ table.relations) :
    grown.reference relation = table.reference relation := by
  rw [reference, reference, presentKeys_grown h hrelation]

lemma embeddings_eq_grown : table.embeddings = grown.embeddingsAmong table.relations := by
  rw [embeddings, embeddingsAmong, embeddingsAmong]
  have hfilter : table.relations.filter (fun relation => decide (grown.Embeds relation)) =
      table.relations.filter fun relation => decide (table.Embeds relation) := by
    apply List.filter_congr
    intro relation hrelation
    rw [decide_eq_decide, embeds_grown h hrelation]
  rw [hfilter]
  apply List.map_congr_left
  intro relation hrelation
  exact (reference_grown h (List.mem_of_mem_filter hrelation)).symm

theorem resolvable_of_grown (hresolvable : grown.Resolvable) : table.Resolvable := by
  have hsublist := h.relations.sublist
  constructor
  · intro relation hrelation
    exact hresolvable.1 relation (hsublist.subset hrelation)
  · rw [embeddings_eq_grown h]
    exact hresolvable.2.sublist ((hsublist.filter _).map _)

/-- The old columns have the references they had. -/
lemma find?_grown {column : Column} (hcolumn : column ∈ table.columns) :
    grown.embeddings.find? (·.hasLocalColumn column.name) =
      table.embeddings.find? (·.hasLocalColumn column.name) := by
  have hgrown : column ∈ grown.columns := by
    rw [h.columns_eq]
    exact List.mem_append_left appended hcolumn
  rw [embeddings_eq_grown h, embeddings]
  exact find?_embeddingsAmong_of_withNew h.relations hgrown fun _ hnew => hnew column hcolumn

lemma placement_grown {column : Column} (hcolumn : column ∈ table.columns) :
    placement grown.embeddings column = placement table.embeddings column := by
  rw [placement, placement, find?_grown h hcolumn]

lemma filterMap_placement_grown : grown.columns.filterMap (placement grown.embeddings) =
    table.columns.filterMap (placement table.embeddings) ++
      appended.filterMap (placement grown.embeddings) := by
  rw [h.columns_eq, List.filterMap_append]
  congr 1
  apply List.filterMap_congr
  intro column hcolumn
  exact placement_grown h hcolumn

lemma plainNames_grown : plainNames grown.embeddings grown.columns =
    plainNames table.embeddings table.columns ++ plainNames grown.embeddings appended := by
  rw [plainNames, h.columns_eq, List.map_append, List.filter_append, plainNames, plainNames]
  congr 1
  apply List.filter_congr
  intro name hname
  obtain ⟨column, hcolumn, rfl⟩ := List.mem_map.mp hname
  rw [← List.isSome_find?, ← List.isSome_find?, find?_grown h hcolumn]

/-- The fields of the old columns, named next to the new plain columns. -/
lemma nameFields_prefix_grown :
    nameFields (plainNames table.embeddings table.columns ++ plainNames grown.embeddings appended) []
      (table.columns.filterMap (placement table.embeddings)) <+:
        grown.fieldsFor grown.embeddings := by
  rw [fieldsFor, plainNames_grown h, filterMap_placement_grown h]
  exact nameFields_prefix _ _ _ _

lemma plain_mem_of_mem_plainNames {grownFields : List Field}
    (hfields : grown.resolvedFields.result = .ok grownFields) {name : String}
    (hname : name ∈ plainNames grown.embeddings appended) :
    ∃ column ∈ appended, .plain column ∈ grownFields ∧ column.name = name := by
  obtain ⟨hmem, hplain⟩ := List.mem_filter.mp hname
  obtain ⟨column, hcolumn, rfl⟩ := List.mem_map.mp hmem
  have hgrown : column ∈ grown.columns := by
    rw [h.columns_eq]
    exact List.mem_append_right table.columns hcolumn
  refine ⟨column, hcolumn, (plain_mem_iff hfields).mpr ⟨hgrown, ?_⟩, rfl⟩
  rw [plain_iff hgrown]
  simpa using hplain

end Grown

lemma map_numberFields {β : Type} (f : Field → β) (fields : List Field) :
    (numberFields fields).map (Prod.map id f) =
      (fields.map f).zipIdx.map fun (b, i) => (i + 1, b) := by
  rw [numberFields, List.zipIdx_map, List.map_map, List.map_map]
  rfl

/-- Numbers are places, so a common beginning has the same numbers. -/
lemma map_numberFields_prefix {β : Type} (f : Field → β) {fields grownFields : List Field}
    (h : fields.map f <+: grownFields.map f) :
    (numberFields fields).map (Prod.map id f) <+: (numberFields grownFields).map (Prod.map id f) := by
  obtain ⟨more, hmore⟩ := h
  rw [map_numberFields, map_numberFields, ← hmore, List.zipIdx_append, List.map_append]
  exact List.prefix_append _ _

lemma getElem?_numberFields (fields : List Field) (i : ℕ) :
    (numberFields fields)[i]? = fields[i]?.map ((i + 1, ·)) := by
  rw [numberFields, List.getElem?_map, List.getElem?_zipIdx, Option.map_map, Nat.zero_add]
  rfl

/-- What the fields at the front have in common is had in common place by place. -/
lemma getElem?_of_map_prefix {β : Type} (f : Field → β) {fields grownFields : List Field}
    (h : fields.map f <+: grownFields.map f) {i : ℕ} {field : Field} (hfield : fields[i]? = some field) :
    ∃ grownField, grownFields[i]? = some grownField ∧ f grownField = f field := by
  have hi : i < (fields.map f).length := by
    rw [List.length_map]
    exact (List.getElem?_eq_some_iff.mp hfield).1
  have hsame := (List.prefix_iff_getElem?.mp h) i hi
  rw [List.getElem?_map, Option.map_eq_some_iff] at hsame
  obtain ⟨grownField, hgrown, hsame⟩ := hsame
  refine ⟨grownField, hgrown, hsame.trans ?_⟩
  rw [List.getElem_map, (List.getElem?_eq_some_iff.mp hfield).2]

/-- The fields of a table that grows keep their numbers, columns, relations and key parts; they keep
their names when no new plain column is called like a relation field. -/
theorem numberFields_prefix_of_grows (table grown : Table) (appended : List Column)
    (grownFields : List Field) (h : table.Grows appended grown)
    (hgrown : grown.resolvedFields.result = .ok grownFields) :
    ∃ fields, table.resolvedFields.result = .ok fields ∧
      (∀ (i : ℕ) (field : Field), fields[i]? = some field → ∃ grownField,
        (numberFields fields)[i]? = some (i + 1, field) ∧
        (numberFields grownFields)[i]? = some (i + 1, grownField) ∧
        grownField.place = field.place) ∧
      (numberFields fields).map (Prod.map id Field.place) <+:
        (numberFields grownFields).map (Prod.map id Field.place) ∧
      ((∀ column ∈ appended, .plain column ∈ grownFields →
          ∀ field ∈ fields, field.isReference → field.name ≠ column.name) →
        numberFields fields <+: numberFields grownFields) := by
  obtain ⟨hresolvable, heq⟩ := (resolvedFields_eq_ok_iff grown grownFields).mp hgrown
  have hfields := resolvedFields_of_resolvable (resolvable_of_grown h hresolvable)
  have hprefix := nameFields_prefix_grown h
  rw [← heq] at hprefix
  have hplaces := hprefix.map Field.place
  rw [map_place_nameFields, ← map_place_fieldsFor] at hplaces
  refine ⟨_, hfields, ?_, map_numberFields_prefix Field.place hplaces, ?_⟩
  · intro i field hfield
    obtain ⟨grownField, hgrownField, hplace⟩ := getElem?_of_map_prefix Field.place hplaces hfield
    refine ⟨grownField, ?_, ?_, hplace⟩
    · rw [getElem?_numberFields, hfield]
      rfl
    · rw [getElem?_numberFields, hgrownField]
      rfl
  · intro hnames
    rw [nameFields_append_taken] at hprefix
    · have hsame : table.fieldsFor table.embeddings <+: grownFields := hprefix
      simpa using map_numberFields_prefix id (by simpa using hsame)
    · intro field hfield hreference hname
      obtain ⟨column, hcolumn, hplain, hsame⟩ := plain_mem_of_mem_plainNames h hgrown hname
      exact hnames column hcolumn hplain field hfield hreference hsame.symm

/-- Order lines with a carrier, whose foreign key is listed first, and a weight. -/
def shippedOrderLine : Table :=
  ofNames "shop" "order_line" ["id", "zip", "street", "note", "carrier", "weight"] <|
    ⟨"fk_carrier", "shop", "address", .zeroOneOrMore, [⟨1, "carrier", "id"⟩]⟩ ::
      orderLine.relations

theorem grows_shippedOrderLine :
    orderLine.Grows (shippedOrderLine.columns.drop 4) shippedOrderLine where
  columns_eq := by decide
  relations := .add (by decide) (.keep _ (.keep _ .nil))
  notMem_localColumns := by decide

lemma resolvedFields_shippedOrderLine : shippedOrderLine.resolvedFields.result =
    .ok (shippedOrderLine.fieldsFor shippedOrderLine.embeddings) :=
  resolvedFields_of_resolvable (by decide)

theorem numberFields_prefix_shippedOrderLine :
    orderLine.Grows (shippedOrderLine.columns.drop 4) shippedOrderLine ∧
    ∃ grownFields, shippedOrderLine.resolvedFields.result = .ok grownFields ∧
    ∃ fields, orderLine.resolvedFields.result = .ok fields ∧
      (∀ (i : ℕ) (field : Field), fields[i]? = some field → ∃ grownField,
        (numberFields fields)[i]? = some (i + 1, field) ∧
        (numberFields grownFields)[i]? = some (i + 1, grownField) ∧
        grownField.place = field.place) ∧
      (numberFields fields).map (Prod.map id Field.place) <+:
        (numberFields grownFields).map (Prod.map id Field.place) ∧
      ((∀ column ∈ shippedOrderLine.columns.drop 4, .plain column ∈ grownFields →
          ∀ field ∈ fields, field.isReference → field.name ≠ column.name) →
        numberFields fields <+: numberFields grownFields) :=
  ⟨grows_shippedOrderLine, _, resolvedFields_shippedOrderLine, numberFields_prefix_of_grows orderLine
    shippedOrderLine _ _ grows_shippedOrderLine resolvedFields_shippedOrderLine⟩

end Table

end RelProto
