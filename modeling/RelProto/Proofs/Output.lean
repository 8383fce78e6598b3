import RelProto.Output
import RelProto.Proofs.Action
import RelProto.Proofs.ProtoFile

/-! No more of a table reaches the file tree than its names and what it renders to. -/
namespace RelProto

/-- The tables have the same names and render alike. -/
structure Table.RendersAlike (table table' : Table) : Prop where
  schema_eq : table.schema = table'.schema
  name_eq : table.name = table'.name
  render_eq : ∀ (settings : ProtoSettings) (embed : Bool),
    (table.render settings embed).result = (table'.render settings embed).result

lemma map_eq_of_map_eq {ε α β γ : Type} {f : α → β} {g : α → γ} {x y : Except ε α}
    (hg : ∀ a b, f a = f b → g a = g b) (h : x.map f = y.map f) : x.map g = y.map g := by
  cases x with
  | error e =>
    cases y with
    | error e' => exact congrArg Except.error (Except.error.inj h)
    | ok b => simp [Except.map] at h
  | ok a =>
    cases y with
    | error e' => simp [Except.map] at h
    | ok b => exact congrArg Except.ok (hg a b (Except.ok.inj h))

lemma map_mapError {ε ε' α β : Type} (f : α → β) (g : ε → ε') (x : Except ε α) :
    (x.mapError g).map f = (x.map f).mapError g := by
  cases x <;> rfl

/-- Fields that look the same render alike. -/
theorem Table.rendersAlike_of_view {table table' : Table} (hschema : table.schema = table'.schema)
    (hname : table.name = table'.name) (hcolumns : table.columns = table'.columns)
    (hview : table.resolvedFields.result.map (List.map Field.view) =
      table'.resolvedFields.result.map (List.map Field.view)) : table.RendersAlike table' where
  schema_eq := hschema
  name_eq := hname
  render_eq := by
    intro settings embed
    have hfile : table.fileOf settings = table'.fileOf settings := by
      funext fields
      simp only [fileOf, ProtoFile.of, hschema, hname]
    rw [result_render, result_render, hfile]
    cases embed with
    | false => simp only [fields, plainFields, hcolumns, Bool.false_eq_true, if_false]
    | true =>
      have htext : ∀ fields fields' : List Field, fields.map Field.view = fields'.map Field.view →
          (table'.fileOf settings fields).text = (table'.fileOf settings fields').text :=
        fun _ _ h => congrArg ProtoFile.text (fileOf_eq_of_view table' settings h)
      have hmap := map_eq_of_map_eq htext hview
      simp only [fields, if_true, map_mapError, hmap]

structure Schema.RendersAlike (schema schema' : Schema) : Prop where
  name_eq : schema.name = schema'.name
  tables : List.Forall₂ Table.RendersAlike schema.tables schema'.tables

/-- The databases list the same tables, which render alike. -/
def Database.RendersAlike (database database' : Database) : Prop :=
  List.Forall₂ Schema.RendersAlike database.schemas database'.schemas

/-- Table by table, the texts or the failures are the same. -/
theorem Database.RendersAlike.map_render {database database' : Database}
    (h : database.RendersAlike database') (settings : ProtoSettings) (embed : Bool) :
    database.tables.map (fun table => (table.render settings embed).result) =
      database'.tables.map fun table => (table.render settings embed).result := by
  have htables : List.Forall₂ Table.RendersAlike database.tables database'.tables :=
    List.rel_flatMap h fun _ _ hschema => hschema.tables
  rw [← List.forall₂_eq_eq_eq, List.forall₂_map_left_iff, List.forall₂_map_right_iff]
  exact htables.imp fun _ _ htable => htable.render_eq settings embed

namespace OutputStep

/-- Steps with one path that differ in nothing but tables that render alike. -/
inductive Alike : OutputStep → OutputStep → Prop where
  | directory (path : String) : Alike (.directory path) (.directory path)
  | file (path : String) {table table' : Table} (h : table.RendersAlike table') :
      Alike (.file path table) (.file path table')

lemma forall₂_ofSchema (root : String) {schema schema' : Schema} (h : schema.RendersAlike schema') :
    List.Forall₂ Alike (ofSchema root schema) (ofSchema root schema') := by
  rw [ofSchema, ofSchema, h.name_eq]
  refine .cons (.directory _) ?_
  rw [List.forall₂_map_left_iff, List.forall₂_map_right_iff]
  apply h.tables.imp
  intro table table' htable
  rw [htable.name_eq]
  exact .file _ htable

lemma forall₂_ofDatabase (settings : ProtoSettings) (root : String) {database database' : Database}
    (h : database.RendersAlike database') :
    List.Forall₂ Alike (ofDatabase settings root database) (ofDatabase settings root database') := by
  rw [ofDatabase, ofDatabase]
  exact List.rel_flatMap h fun _ _ hschema => forall₂_ofSchema _ hschema

section Perform

variable {settings : ProtoSettings} {embed : Bool}

lemma result_content (settings : ProtoSettings) (embed : Bool) (table : Table) :
    (content settings embed table).result = (table.render settings embed).result.mapError
      (·.context ("generating " ++ table.qualifiedName)) := rfl

lemma outcome_perform_of_alike {step step' : OutputStep} (h : Alike step step') :
    (step.perform settings embed : Action FileTree _).outcome =
      (step'.perform settings embed : Action FileTree _).outcome := by
  cases h with
  | directory path => rfl
  | @file path table table' htable =>
    have hname : table.qualifiedName = table'.qualifiedName := by
      rw [Table.qualifiedName, Table.qualifiedName, htable.schema_eq, htable.name_eq]
    apply Action.outcome_bind_congr
    · funext tree
      rw [Action.outcome_monadLift, Action.outcome_monadLift, result_content, result_content,
        htable.render_eq, hname]
    · intro text
      rfl

/-- Steps that differ in tables that render alike end alike, and leave the same tree. -/
theorem outcome_performAll_of_alike {steps steps' : List OutputStep}
    (h : List.Forall₂ Alike steps steps') :
    (performAll settings embed steps : Action FileTree _).outcome =
      (performAll settings embed steps' : Action FileTree _).outcome := by
  induction h with
  | nil => rfl
  | cons hstep _ ih =>
    apply Action.outcome_bind_congr (outcome_perform_of_alike hstep)
    intro path
    exact Action.outcome_bind_congr ih fun _ => rfl

end Perform

end OutputStep

/-- Databases with tables that render alike give the same files, or fail alike. -/
theorem Database.outcome_generate_of_rendersAlike {database database' : Database}
    (h : database.RendersAlike database') (settings : ProtoSettings) (embed : Bool)
    (root : String) : (database.generate settings embed root).outcome =
      (database'.generate settings embed root).outcome :=
  OutputStep.outcome_performAll_of_alike (OutputStep.forall₂_ofDatabase settings root h)

end RelProto
