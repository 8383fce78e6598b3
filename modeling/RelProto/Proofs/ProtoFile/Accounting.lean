import RelProto.Proofs.Field.Names
import RelProto.Proofs.Field.Warnings
import RelProto.Proofs.ProtoFile.MessageBody

/-! What becomes of the columns and relations of a table when its file is written. Each of them
shows in one field, in the comment of one field, or in one line of the log. -/
namespace RelProto

def ProtoType.unmappedWarning (typeName : String) : LogLine where
  level := .warn
  message := "failed to map native type `" ++ typeName ++ "` to protobuf, using `bytes`"

namespace Field

/-- The columns that the comment behind the field lists. -/
def listed : Field → List String
  | plain _ => []
  | reference _ target _ => target.localColumns

/-- The relation that owns the field. -/
def owner? (field : Field) : Option Relation := field.reference?.map (·.relation)

/-- The warning for a plain field whose native type has no type of its own in messages. -/
def typeWarning? : Field → Option LogLine
  | plain column =>
    if ProtoType.ofNative? column.nativeType = none then
      some (ProtoType.unmappedWarning column.nativeType)
    else none
  | reference .. => none

lemma log_mapType {ε : Type} (field : Field) :
    (mapType field : Logged ε (Option ProtoType)).log = field.typeWarning?.toList := by
  cases field with
  | reference column target name => rfl
  | plain column =>
    rw [mapType, Logged.log_map, ProtoType.ofNative, typeWarning?]
    cases ProtoType.ofNative? column.nativeType with
    | none => rfl
    | some type => rfl

end Field

/-- Each column of the table has a field of its own, or is listed behind one other field. Each
relation owns one field, or there is a warning for it. -/
structure Table.Accounted (table : Table) (fields : List Field) : Prop where
  nodup : fields.Nodup
  column : ∀ column ∈ table.columns,
    (.plain column ∈ fields ∧ ∀ field ∈ fields, column.name ∉ field.listed) ∨
      (.plain column ∉ fields ∧ ∃! field, field ∈ fields ∧ column.name ∈ field.listed)
  relation : ∀ relation ∈ table.relations,
    (table.warning? relation = none ∧ ∃! field, field ∈ fields ∧ field.owner? = some relation) ∨
      ((table.warning? relation).isSome ∧ ∀ field ∈ fields, field.owner? ≠ some relation)
  owners_perm : (fields.filterMap Field.owner?).Perm
    (table.relations.filter fun relation => table.warning? relation = none)

namespace Table

variable {table : Table} {settings : ProtoSettings} {embed : Bool} {fields : List Field}

lemma log_protoFile_of_ok (h : (table.fields embed).result = .ok fields) :
    (table.protoFile settings embed).log =
      (table.fields embed).log ++ fields.filterMap Field.typeWarning? := by
  rw [protoFile, Logged.log_bind_of_ok h, Logged.log_bind_of_ok (result_types fields),
    Logged.log_mapM Field.result_mapType, Logged.pure_eq, List.append_nil,
    List.filterMap_eq_flatMap_toList]
  simp only [Field.log_mapType]

lemma log_protoFile_of_error {cause : RelationFault}
    (h : (table.fields embed).result = .error cause) :
    (table.protoFile settings embed).log = (table.fields embed).log := by
  rw [protoFile, Logged.log_bind_of_error h]

lemma log_render (table : Table) (settings : ProtoSettings) (embed : Bool) :
    (table.render settings embed).log = (table.protoFile settings embed).log := by
  rw [render, Logged.log_map, Logged.log_mapError]

section Fields

variable (h : table.resolvedFields.result = .ok fields)
include h

lemma mem_embeddings_of_listed {field : Field} (hfield : field ∈ fields) {name : String}
    (hname : name ∈ field.listed) : ∃ target, field.reference? = some target ∧
      target ∈ table.embeddings ∧ name ∈ target.localColumns := by
  cases field with
  | plain column => cases hname
  | reference column target name' =>
    exact ⟨target, rfl, (mem_embeddings_of_reference? h hfield rfl).1, hname⟩

variable (hnames : (table.columns.map (·.name)).Nodup)
include hnames

lemma column_accounted {column : Column} (hcolumn : column ∈ table.columns) :
    (.plain column ∈ fields ∧ ∀ field ∈ fields, column.name ∉ field.listed) ∨
      (.plain column ∉ fields ∧ ∃! field, field ∈ fields ∧ column.name ∈ field.listed) := by
  have hapart := ((resolvedFields_eq_ok_iff table fields).mp h).1.2
  by_cases hplain : table.Plain column
  · left
    refine ⟨(plain_mem_iff h).mpr ⟨hcolumn, hplain⟩, ?_⟩
    intro field hfield hlisted
    obtain ⟨target, -, htarget, hname⟩ := mem_embeddings_of_listed h hfield hlisted
    exact (plain_iff hcolumn).mp hplain target htarget hname
  · right
    refine ⟨fun hfield => hplain ((plain_mem_iff h).mp hfield).2, ?_⟩
    rw [plain_iff hcolumn] at hplain
    push Not at hplain
    obtain ⟨target, htarget, hname⟩ := hplain
    obtain ⟨field, hfield, hreference⟩ := exists_field_of_mem_embeddings h htarget
    refine ⟨field, ⟨hfield, ?_⟩, ?_⟩
    · cases field with
      | plain column' => cases hreference
      | reference column' target' name =>
        cases hreference
        exact hname
    · -- The references are apart, so no other one lists the column.
      rintro other ⟨hother, hlisted⟩
      obtain ⟨target', hreference', htarget', hname'⟩ := mem_embeddings_of_listed h hother hlisted
      have hsame : target' = target := Option.some.inj
        ((find?_hasLocalColumn hapart htarget' hname').symm.trans
          (find?_hasLocalColumn hapart htarget hname))
      exact eq_of_reference?_eq h hnames hother hfield (hsame ▸ hreference') hreference

lemma owners_perm : (fields.filterMap Field.owner?).Perm
    (table.relations.filter fun relation => table.warning? relation = none) := by
  have howners : fields.filterMap Field.owner? =
      (fields.filterMap Field.reference?).map (·.relation) := by
    rw [List.map_filterMap]
    rfl
  have hembedded : table.embeddings.map (·.relation) =
      table.relations.filter fun relation => table.warning? relation = none := by
    rw [embeddings, embeddingsAmong, List.map_map]
    simp only [warning?_eq_none_iff]
    exact List.map_id _
  rw [howners, ← hembedded]
  exact (references_perm h hnames).map _

lemma relation_accounted {relation : Relation} (hrelation : relation ∈ table.relations) :
    (table.warning? relation = none ∧ ∃! field, field ∈ fields ∧ field.owner? = some relation) ∨
      ((table.warning? relation).isSome ∧ ∀ field ∈ fields, field.owner? ≠ some relation) := by
  have htarget : ∀ field ∈ fields, field.owner? = some relation →
      table.Embeds relation ∧ field.reference? = some (table.reference relation) := by
    rintro (_ | ⟨column, target, name⟩) hfield howner
    · cases howner
    · obtain ⟨owner, -, hembeds, rfl⟩ :=
        mem_embeddings.mp (mem_embeddings_of_reference? h hfield rfl).1
      cases howner
      exact ⟨hembeds, rfl⟩
  by_cases hembeds : table.Embeds relation
  · left
    obtain ⟨field, hfield, hreference⟩ := exists_field_of_mem_embeddings h
      (mem_embeddings.mpr ⟨relation, hrelation, hembeds, rfl⟩)
    refine ⟨warning?_eq_none_iff.mpr hembeds, field, ⟨hfield, ?_⟩, ?_⟩
    · rw [Field.owner?, hreference]
      rfl
    · rintro other ⟨hother, howner⟩
      exact eq_of_reference?_eq h hnames hother hfield (htarget other hother howner).2 hreference
  · right
    refine ⟨Option.isSome_iff_ne_none.mpr fun hnone => hembeds (warning?_eq_none_iff.mp hnone), ?_⟩
    intro field hfield howner
    exact hembeds (htarget field hfield howner).1

theorem accounted_of_resolvedFields : table.Accounted fields where
  nodup := nodup_fields h hnames
  column _ := column_accounted h hnames
  relation _ := relation_accounted h hnames
  owners_perm := owners_perm h hnames

end Fields

/-- A file that is written accounts for every column and relation, and the log is one warning for
each relation without a field, then one for each plain field of a type that is not known. When there
is no file, the warnings for the relations before the one that offends have been written. -/
theorem render_accounts (table : Table) (settings : ProtoSettings) :
    ((table.columns.map (·.name)).Nodup →
      ∀ text, (table.render settings true).result = .ok text →
        ∃ fields types lines above, table.resolvedFields.result = .ok fields ∧
          text = String.join ((above ++ ("message " ++ Text.upperCamel table.name ++ " \x7b") ::
            (lines ++ ["\x7d"])).map (· ++ "\n")) ∧
          IsBody settings.version fields types lines ∧
          (∀ (i : Nat) column target name, fields[i]? = some (.reference column target name) →
            ∃ code, lines[i]? = some (code ++ "; // => " ++
              ", ".intercalate (Field.reference column target name).listed)) ∧
          table.Accounted fields ∧
          (table.render settings true).log = table.relations.filterMap table.warning? ++
            fields.filterMap Field.typeWarning?) ∧
    ∀ fault, (table.render settings true).result = .error fault →
      ∃ before relation after, table.relations = before ++ relation :: after ∧
        table.Offends before relation ∧
        (∀ front first back, before = front ++ first :: back → ¬ table.Offends front first) ∧
        (table.render settings true).log = before.filterMap table.warning? := by
  rw [log_render]
  constructor
  · intro hnames text htext
    obtain ⟨fields, hfields, -, rfl⟩ := exists_fields_of_render htext
    refine ⟨fields, _, _, _, hfields, text_fileOf table settings fields,
      isBody_lines settings.version fields, ?_, accounted_of_resolvedFields hfields hnames, ?_⟩
    · intro i column target name hfield
      rw [getElem?_line, hfield]
      exact ⟨_, rfl⟩
    · rw [log_protoFile_of_ok hfields, ← log_resolvedFields_of_ok hfields]
      rfl
  · intro fault hfault
    rw [result_render] at hfault
    cases hfields : (table.fields true).result with
    | ok fields =>
      rw [hfields] at hfault
      cases hfault
    | error cause =>
      rw [log_protoFile_of_error hfields]
      exact log_resolvedFields_of_error hfields

/-- The order line with a note of a type that is not known, and an owner without its column. -/
def sketchedOrderLine : Table :=
  { orderLine with
    columns := orderLine.columns.map fun column =>
      if column.name = "note" then { column with nativeType := "point" } else column
    relations := orderLine.relations ++
      [⟨"fk_owner", "crm", "person", .zeroOneOrMore, [⟨1, "owner", "id"⟩]⟩] }

theorem render_accounts_orderLine_disputed :
    ((sketchedOrderLine.columns.map (·.name)).Nodup ∧
      ∃ text fields, (sketchedOrderLine.render proto2 true).result = .ok text ∧
        sketchedOrderLine.resolvedFields.result = .ok fields ∧
        sketchedOrderLine.Accounted fields ∧
        (sketchedOrderLine.render proto2 true).log =
          sketchedOrderLine.relations.filterMap sketchedOrderLine.warning? ++
            fields.filterMap Field.typeWarning?) ∧
    ∃ fault before relation after, (disputed.render proto2 true).result = .error fault ∧
      disputed.relations = before ++ relation :: after ∧ disputed.Offends before relation ∧
      (disputed.render proto2 true).log = before.filterMap disputed.warning? := by
  have htext : (sketchedOrderLine.render proto2 true).result = .ok _ :=
    result_render_of_resolvable proto2 (by decide)
  have hrefused : ¬ disputed.Resolvable := by decide
  obtain ⟨cause, hcause⟩ := exists_error_of_not_resolvable hrefused
  have hfault : (disputed.render proto2 true).result = .error cause.fault := by
    rw [result_render, fields, if_pos rfl, hcause]
    rfl
  obtain ⟨fields, -, -, -, hfields, -, -, -, haccounted, hlog⟩ :=
    (render_accounts sketchedOrderLine proto2).1 (by decide) _ htext
  obtain ⟨before, relation, after, hrelations, hoffends, -, hlog'⟩ :=
    (render_accounts disputed proto2).2 _ hfault
  exact ⟨⟨by decide, _, fields, htext, hfields, haccounted, hlog⟩,
    _, before, relation, after, hfault, hrelations, hoffends, hlog'⟩

example : (sketchedOrderLine.render proto2 true).log.map LogLine.text =
    ["WARN skipping many-to-many relation fk_tag on shop.order_line",
     "WARN skipping relation fk_owner on shop.order_line: all key columns are excluded",
     "WARN failed to map native type `point` to protobuf, using `bytes`"] := by decide +kernel

end Table

end RelProto
