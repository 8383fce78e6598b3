import RelProto.Config.Document
import RelProto.Proofs.Yaml.Form

/-! Configurations as they are written. Whatever is changed in such a document without a change of a
value, it is read as the same configuration. -/
namespace RelProto

open Yaml (Decode Form Node)

namespace DatabaseKind

/-- Other names of the kind. -/
def aliases : DatabaseKind → List String
  | postgresql => ["postgres"]
  | mysql => ["mariadb"]
  | sqlite => []

def form (kind : DatabaseKind) : Form := .name kind.name kind.aliases

lemma ofName?_spelling (kind : DatabaseKind) :
    ∀ spelling ∈ kind.name :: kind.aliases, ofName? spelling = some kind := by
  cases kind <;> decide

lemma isPresent_spelling (kind : DatabaseKind) :
    ∀ spelling ∈ kind.name :: kind.aliases, spelling ≠ "" ∧ Decode.isNull spelling = false := by
  cases kind <;> decide

end DatabaseKind

def ProtoVersion.form (version : ProtoVersion) : Form := .name version.name []

def portForm (port : UInt16) : Form := .plain (toString port.toNat)

def flagForm (flag : Bool) : Form := .plain (toString flag)

def textsForm (texts : List String) : Form := .list (texts.map .text)

def DatabaseSettings.form (settings : DatabaseSettings) : Form :=
  let initial : DatabaseSettings := {}
  .record [
    .withDefault "provider" settings.provider initial.provider
      (.option DatabaseKind.form settings.provider),
    .withDefault "host" settings.host initial.host (.text settings.host),
    .withDefault "port" settings.port initial.port (.option portForm settings.port),
    .withDefault "database" settings.database initial.database (.text settings.database),
    .withDefault "user" settings.user initial.user (.text settings.user),
    .withDefault "password" settings.password initial.password (.text settings.password)]

def OutputSettings.form (settings : OutputSettings) : Form :=
  let initial : OutputSettings := {}
  .record [
    .withDefault "path" settings.path initial.path (.text settings.path),
    .withDefault "suffix" settings.suffix initial.suffix (.text settings.suffix),
    .withDefault "lang" settings.language initial.language (.text settings.language)]

def ProtoSettings.form (settings : ProtoSettings) : Form :=
  let initial : ProtoSettings := {}
  .record [
    .withDefault "path" settings.path initial.path (.text settings.path),
    .withDefault "java_package" settings.javaPackage initial.javaPackage
      (.text settings.javaPackage),
    .withDefault "objc_prefix" settings.objcPrefix initial.objcPrefix (.text settings.objcPrefix),
    .withDefault "version" settings.version initial.version settings.version.form]

/-- No part may be left out. -/
def ExcludedColumns.form (entry : ExcludedColumns) : Form :=
  .record [.required "table" (.text entry.table), .required "columns" (textsForm entry.columns)]

def GeneratorSettings.form (settings : GeneratorSettings) : Form :=
  let initial : GeneratorSettings := {}
  .record [
    .withDefault "schemas" settings.schemas initial.schemas (textsForm settings.schemas),
    .withDefault "excluded_tables" settings.excludedTables initial.excludedTables
      (textsForm settings.excludedTables),
    .withDefault "excluded_columns" settings.excludedColumns initial.excludedColumns
      (.list (settings.excludedColumns.map ExcludedColumns.form)),
    .withDefault "embed_relationships" settings.embedRelationships initial.embedRelationships
      (flagForm settings.embedRelationships)]

def Config.form (config : Config) : Form :=
  let initial : Config := {}
  .record [
    .withDefault "database" config.database initial.database config.database.form,
    .withDefault "output" config.output initial.output config.output.form,
    .withDefault "proto" config.proto initial.proto config.proto.form,
    .withDefault "generator" config.generator initial.generator config.generator.form]

open Yaml.Form (gives_field gives_required reads_text reads_record)

lemma reads_provider (provider : Option DatabaseKind) :
    (Form.option DatabaseKind.form provider).Reads (.optional (.named DatabaseKind.ofName?))
      provider := by
  refine Form.reads_option ?_ provider
  intro kind node hnode
  obtain ⟨spelling, hspelling, rfl⟩ := Form.reaches_name hnode
  obtain ⟨hne, hnull⟩ := kind.isPresent_spelling spelling hspelling
  exact ⟨spelling, rfl, hne, hnull, Decode.gives_named (kind.ofName?_spelling spelling hspelling)⟩

lemma reads_port (port : Option UInt16) :
    (Form.option portForm port).Reads (.optional .word) port := by
  refine Form.reads_option ?_ port
  intro port node hnode
  rw [Form.reaches_plain hnode]
  exact ⟨_, rfl, Decode.toString_ne (by decide), Decode.isNull_toString _, Decode.gives_word port⟩

lemma reads_texts (texts : List String) : (textsForm texts).Reads (.list .text) texts :=
  Form.reads_list fun text _ => reads_text text

lemma reads_flag (flag : Bool) : (flagForm flag).Reads .flag flag :=
  Form.reads_plain (Decode.gives_flag flag)

lemma reads_version (version : ProtoVersion) :
    version.form.Reads (.named ProtoVersion.ofName?) version := by
  refine Form.reads_name ?_
  cases version <;> decide

theorem DatabaseSettings.reads_form (settings : DatabaseSettings) :
    settings.form.Reads decode settings := by
  refine reads_record (fun _ => rfl) rfl (by decide) ?_
  intro fields hfields
  simp only [List.forall_mem_cons] at hfields
  obtain ⟨hprovider, hhost, hport, hdatabase, huser, hpassword, _⟩ := hfields
  exact (gives_field hprovider (reads_provider _)).bind <|
    (gives_field hhost (reads_text _)).bind <|
    (gives_field hport (reads_port _)).bind <|
    (gives_field hdatabase (reads_text _)).bind <|
    (gives_field huser (reads_text _)).bind <|
    (gives_field hpassword (reads_text _)).bind (Decode.gives_pure settings)

theorem OutputSettings.reads_form (settings : OutputSettings) :
    settings.form.Reads decode settings := by
  refine reads_record (fun _ => rfl) rfl (by decide) ?_
  intro fields hfields
  simp only [List.forall_mem_cons] at hfields
  obtain ⟨hpath, hsuffix, hlanguage, _⟩ := hfields
  exact (gives_field hpath (reads_text _)).bind <|
    (gives_field hsuffix (reads_text _)).bind <|
    (gives_field hlanguage (reads_text _)).bind (Decode.gives_pure settings)

theorem ProtoSettings.reads_form (settings : ProtoSettings) :
    settings.form.Reads decode settings := by
  refine reads_record (fun _ => rfl) rfl (by decide) ?_
  intro fields hfields
  simp only [List.forall_mem_cons] at hfields
  obtain ⟨hpath, hpackage, hprefix, hversion, _⟩ := hfields
  exact (gives_field hpath (reads_text _)).bind <|
    (gives_field hpackage (reads_text _)).bind <|
    (gives_field hprefix (reads_text _)).bind <|
    (gives_field hversion (reads_version _)).bind (Decode.gives_pure settings)

theorem ExcludedColumns.reads_form (entry : ExcludedColumns) : entry.form.Reads decode entry := by
  refine reads_record (fun _ => rfl) rfl (by decide) ?_
  intro fields hfields
  simp only [List.forall_mem_cons] at hfields
  obtain ⟨htable, hcolumns, _⟩ := hfields
  exact (gives_required htable (reads_text _)).bind <|
    (gives_required hcolumns (reads_texts _)).bind (Decode.gives_pure entry)

theorem GeneratorSettings.reads_form (settings : GeneratorSettings) :
    settings.form.Reads decode settings := by
  refine reads_record (fun _ => rfl) rfl (by decide) ?_
  intro fields hfields
  simp only [List.forall_mem_cons] at hfields
  obtain ⟨hschemas, htables, hcolumns, hembed, _⟩ := hfields
  have hentries := Form.reads_list
    fun (entry : ExcludedColumns) (_ : entry ∈ settings.excludedColumns) => entry.reads_form
  exact (gives_field hschemas (reads_texts _)).bind <|
    (gives_field htables (reads_texts _)).bind <|
    (gives_field hcolumns hentries).bind <|
    (gives_field hembed (reads_flag _)).bind (Decode.gives_pure settings)

theorem Config.reads_form (config : Config) : config.form.Reads decode config := by
  refine reads_record (fun _ => rfl) rfl (by decide) ?_
  intro fields hfields
  simp only [List.forall_mem_cons] at hfields
  obtain ⟨hdatabase, houtput, hproto, hgenerator, _⟩ := hfields
  exact (gives_field hdatabase config.database.reads_form).bind <|
    (gives_field houtput config.output.reads_form).bind <|
    (gives_field hproto config.proto.reads_form).bind <|
    (gives_field hgenerator config.generator.reads_form).bind (Decode.gives_pure config)

namespace Config

/-- The document that is written for a configuration: all keys in their order. -/
def toNode (config : Config) : Node := config.form.node

/-- A document that is written for a configuration and then changed, any number of times, gives the
configuration back. In all mappings keys can be reordered, and unknown ones, which are scalars like
all keys, added with any values; those with the default value can be left out, except in an entry
for excluded columns; a provider can be written by its other name, and a text in another style. -/
theorem reads_back_of_edits (config : Config) {node : Node}
    (h : Relation.ReflTransGen config.form.Edit config.toNode node) : ofNode? node = some config :=
  (config.reads_form node h).run

/-- A store whose notes are private. -/
def storeOnMysql : Config where
  database := { provider := some .mysql, database := "store" }
  generator := { excludedColumns := [⟨"shop.part", ["note"]⟩] }

/-- What can be written for the store, with other keys in the entry for its parts. -/
def storeDocument (others : List (Node × Node)) : Node :=
  .mapping none [
    (Decode.plain "generator", .mapping none [
      (Decode.plain "schemas", .sequence none []),
      (Decode.plain "excluded_tables", .sequence none []),
      (Decode.plain "excluded_columns", .sequence none [.mapping none (others ++ [
        (Decode.plain "table", (Form.text "shop.part").node),
        (Decode.plain "columns", .sequence none [(Form.text "note").node])])]),
      (Decode.plain "embed_relationships", Decode.plain "false")]),
    (Decode.plain "database", .mapping none [
      (Decode.plain "provider", Decode.plain "mariadb"),
      (Decode.plain "port", Decode.plain "null"),
      (Decode.plain "database", (Form.text "store").node),
      (Decode.plain "user", (Form.text "").node),
      (Decode.plain "password", (Form.text "").node)])]

theorem reads_back_storeDocument :
    ofNode? (storeDocument [(Decode.plain "reason", .sequence none [.reference 3])]) =
      some storeOnMysql := by
  apply storeOnMysql.reads_back_of_edits
  -- Nothing is said about output and files, as these sections have their defaults.
  refine .head (@Form.RecordEdit.leaveOut _ [_] [_, _] _ _ _ (.tail _ (.head _)) rfl rfl) ?_
  refine .head (@Form.RecordEdit.leaveOut _ [_] [_] _ _ _ (.tail _ (.tail _ (.head _))) rfl rfl) ?_
  refine .head (@Form.RecordEdit.change _ [] [_] _ _ _ _ (.head _) rfl
    (@Form.RecordEdit.leaveOut _ [_] [_, _, _, _] _ _ _ (.tail _ (.head _)) rfl rfl)) ?_
  refine .head (@Form.RecordEdit.change _ [] [_] _ _ _ _ (.head _) rfl
    (@Form.RecordEdit.change _ [] [_, _, _, _] _ _ _ _ (.head _) rfl
      ⟨"mariadb", by decide, rfl⟩)) ?_
  refine .head (@Form.RecordEdit.change _ [_] [] _ _ _ _ (.tail _ (.tail _ (.tail _ (.head _)))) rfl
    (@Form.RecordEdit.change _ [_, _] [_] _ _ _ _ (.tail _ (.tail _ (.head _))) rfl
      (@Form.ItemEdit.item _ _ 0 _ _ _ rfl rfl
        (@Form.RecordEdit.addUnknown _ [] _ (Decode.plain "reason")
          (.sequence none [.reference 3]) _ rfl (by decide))))) ?_
  exact .single (.reorder (.swap ..))

end Config

end RelProto
