import RelProto.Proofs.Output.Places
import RelProto.Proofs.Output.Steps

/-! Generating files: the tree afterwards is the one before with the effects of all steps, or of those
before the first that fails. -/
namespace RelProto

namespace OutputStep

lemma filterMap_path?_ofSchema (root : String) (schema : Schema) :
    (ofSchema root schema).filterMap path? =
      schema.tables.map fun table => Path.ofTable root schema.name table.name := by
  rw [ofSchema, List.filterMap_cons_none rfl, List.filterMap_map, ← List.filterMap_eq_map]
  rfl

theorem filterMap_path?_ofDatabase (settings : ProtoSettings) (root : String)
    (database : Database) : (ofDatabase settings root database).filterMap path? =
      database.listed.map (Database.pathOf (Path.join root settings.path)) := by
  rw [ofDatabase, Database.listed, List.filterMap_flatMap, List.map_flatMap]
  congr 1
  funext schema
  rw [filterMap_path?_ofSchema, List.map_map]
  rfl

lemma file_mem_of_mem_listed {settings : ProtoSettings} {root : String} {database : Database}
    {entry : Schema × Table} (h : entry ∈ database.listed) :
    .file (Database.pathOf (Path.join root settings.path) entry) entry.2 ∈
      ofDatabase settings root database := by
  obtain ⟨hschema, htable⟩ := Database.mem_listed_iff.mp h
  exact file_mem_ofDatabase_iff.mpr ⟨entry.1, hschema, htable, rfl⟩

end OutputStep

/-- The tables are rendered and their files written to the directory, one after another. -/
inductive TablesWritten (settings : ProtoSettings) (embed : Bool) (directory : String) :
    List Table → FileTree → FileTree → Prop
  | done {tree} : TablesWritten settings embed directory [] tree tree
  | next {table rest tree text between after}
    (hrender : (table.render settings embed).result = .ok text)
    (hwrite : tree.writeFile (Path.join directory (table.name ++ ".proto")) text.toUTF8 = .ok between)
    (hrest : TablesWritten settings embed directory rest between after) :
    TablesWritten settings embed directory (table :: rest) tree after

/-- The directories of the schemas are made below `base`, and in each of them the files of its tables,
one schema after another. -/
inductive SchemasWritten (settings : ProtoSettings) (embed : Bool) (base : String) :
    List Schema → FileTree → FileTree → Prop
  | done {tree} : SchemasWritten settings embed base [] tree tree
  | next {schema rest tree made between after}
    (hmade : tree.createDirectories (Path.join base schema.name) = (.ok (), made))
    (htables : TablesWritten settings embed (Path.join base schema.name) schema.tables made between)
    (hrest : SchemasWritten settings embed base rest between after) :
    SchemasWritten settings embed base (schema :: rest) tree after

namespace OutputStep

variable {settings : ProtoSettings} {embed : Bool} {tree after : FileTree}

lemma performed_cons_iff {step : OutputStep} {rest : List OutputStep} :
    Performed settings embed (step :: rest) tree after ↔
      ∃ between, step.Succeeds settings embed tree between ∧
        Performed settings embed rest between after := by
  constructor
  · rintro (_ | ⟨hstep, hrest⟩)
    exact ⟨_, hstep, hrest⟩
  · rintro ⟨between, hstep, hrest⟩
    exact .next hstep hrest

lemma performed_append_iff {steps rest : List OutputStep} :
    Performed settings embed (steps ++ rest) tree after ↔
      ∃ between, Performed settings embed steps tree between ∧
        Performed settings embed rest between after := by
  induction steps generalizing tree with
  | nil =>
    constructor
    · intro h
      exact ⟨tree, .done, h⟩
    · rintro ⟨_, ⟨⟩, h⟩
      exact h
  | cons step steps ih =>
    simp only [List.cons_append, performed_cons_iff, ih]
    constructor
    · rintro ⟨made, hstep, between, hsteps, hrest⟩
      exact ⟨between, ⟨made, hstep, hsteps⟩, hrest⟩
    · rintro ⟨between, ⟨made, hstep, hsteps⟩, hrest⟩
      exact ⟨made, hstep, between, hsteps, hrest⟩

lemma performed_files_iff {directory : String} {tables : List Table} :
    Performed settings embed (tables.map fun table =>
        .file (Path.join directory (table.name ++ ".proto")) table) tree after ↔
      TablesWritten settings embed directory tables tree after := by
  induction tables generalizing tree with
  | nil =>
    constructor
    · rintro ⟨⟩
      exact .done
    · rintro ⟨⟩
      exact .done
  | cons table tables ih =>
    rw [List.map_cons, performed_cons_iff]
    constructor
    · rintro ⟨between, _ | ⟨hrender, hwrite⟩, hrest⟩
      exact .next hrender hwrite (ih.mp hrest)
    · rintro (_ | ⟨hrender, hwrite, hrest⟩)
      exact ⟨_, .file hrender hwrite, ih.mpr hrest⟩

/-- Performing the steps of a database writes its schemas. -/
theorem performed_ofDatabase_iff {root : String} {database : Database} :
    Performed settings embed (ofDatabase settings root database) tree after ↔
      SchemasWritten settings embed (Path.join root settings.path) database.schemas tree after := by
  rw [ofDatabase]
  induction database.schemas generalizing tree with
  | nil =>
    constructor
    · rintro ⟨⟩
      exact .done
    · rintro ⟨⟩
      exact .done
  | cons schema schemas ih =>
    simp only [List.flatMap_cons, ofSchema, List.cons_append, performed_cons_iff,
      performed_append_iff, performed_files_iff, ih]
    constructor
    · rintro ⟨made, ⟨hmade⟩, between, htables, hrest⟩
      exact .next hmade htables hrest
    · rintro (_ | ⟨hmade, htables, hrest⟩)
      exact ⟨_, .directory hmade, _, htables, hrest⟩

end OutputStep

/-- What is in a file. -/
def FileEntry.content? : FileEntry → Option ByteArray
  | .file content => some content
  | .directory | .socket => none

namespace Database

open OutputStep

/-- Generating performs the steps in order: for each schema its directory, then its tables. If none
fails, one path for each table is returned, and the tree has changed by the effects of the steps: the
directories are there, and what was somewhere before is there still, a file perhaps with another
content. The first step that fails is the last one: its fault is returned, no later table is rendered,
and the tree has changed by the effects of the steps before it; only a directory that cannot be made
may leave directories on the way to it.

If no name has a slash, different tables have different paths exactly if they have different names or
the directories of their schemas have different paths; names that are not the same give these one path
only if both name nothing, below a directory that is named. If the tables have different names or are
in different directories, each file holds the text of its own table; names that are not the same lead
to one directory only if none of them leads down. -/
theorem generate_performs_steps (database : Database) (settings : ProtoSettings) (embed : Bool)
    (root : String) (tree : FileTree) :
    let base := Path.join root settings.path
    let here := tree.workingDirectory
    let steps := ofDatabase settings root database
    ((∃ after, Performed settings embed steps tree after) ∨
      ∃ done step rest between fault after, steps = done ++ step :: rest ∧
        Performed settings embed done tree between ∧
        step.Fails settings embed between fault after) ∧
    (∀ after, Performed settings embed steps tree after →
      database.generate settings embed root tree =
        (⟨.ok (database.listed.map (pathOf base)), steps.flatMap (log settings embed)⟩, after) ∧
      database.listed.map Prod.snd = database.tables ∧
      after.entry? = effects settings embed here tree.entry? steps ∧
      after.workingDirectory = here ∧
      Contents.Keeps tree.entry? after.entry? ∧
      (∀ path, .directory path ∈ steps →
        after.isDirectory (Path.origin here path) (Path.names path)) ∧
      (database.Slashless →
        (((database.listed.map (pathOf base)).map Path.components).Nodup ↔
          (database.listed.map fun entry =>
            (Path.components (Path.join base entry.1.name), entry.2.name)).Nodup)) ∧
      (database.Slashless →
        (database.listed.map fun entry =>
          (Path.place here (Path.join base entry.1.name), entry.2.name)).Nodup →
        ∀ entry ∈ database.listed, ∃ text, (entry.2.render settings embed).result = .ok text ∧
          after.entry? (Path.place here (pathOf base entry)) = some (.file text.toUTF8))) ∧
    (∀ done step rest between fault after, steps = done ++ step :: rest →
      Performed settings embed done tree between → step.Fails settings embed between fault after →
      database.generate settings embed root tree =
        (⟨.error fault, (done ++ [step]).flatMap (log settings embed)⟩, after) ∧
      between.entry? = effects settings embed here tree.entry? done ∧
      (after = between ∨ ∃ path enclosing, step = .directory path ∧
        enclosing <+: (Path.names path).dropLast ∧
        after.entry? = Contents.withDirectories between.entry?
          (Path.way (Path.origin here path) enclosing))) ∧
    ∀ schema other, Path.Slashless schema → Path.Slashless other →
      (Path.components (Path.join base schema) = Path.components (Path.join base other) ↔
        schema = other ∨ (base ≠ "" ∧ schema ∈ ["", "."] ∧ other ∈ ["", "."])) ∧
      (Path.place here (Path.join base schema) = Path.place here (Path.join base other) ↔
        schema = other ∨ (schema ∈ ["", "."] ∧ other ∈ ["", "."]) ∨
          (Path.place here base = [] ∧ schema ∈ ["", ".", ".."] ∧ other ∈ ["", ".", ".."])) := by
  intro base here steps
  have hpaths : steps.filterMap path? = database.listed.map (pathOf base) :=
    filterMap_path?_ofDatabase settings root database
  refine ⟨performed_or_fails settings embed steps tree, ?_, ?_, ?_⟩
  · intro after hdone
    have hhere := workingDirectory_of_performed hdone
    refine ⟨?_, database.map_snd_listed, entry?_of_performed hdone, hhere, keeps_of_performed hdone,
      ?_, fun hslashless => nodup_components_iff hslashless base, ?_⟩
    · rw [← hpaths]
      exact performAll_of_performed hdone
    · intro path hdirectory
      have hthere := isDirectory_of_mem hdone hdirectory
      rwa [FileTree.startOf, hhere] at hthere
    · intro hslashless happart entry hentry
      have hfile : .file (pathOf base entry) entry.2 ∈ steps := file_mem_of_mem_listed hentry
      obtain ⟨text, hrender⟩ := exists_text_of_mem hdone hfile
      have hplaces := nodup_places hslashless here base happart
      rw [← hpaths] at hplaces
      exact ⟨text, hrender, entry?_of_file_mem hdone hplaces hfile hrender⟩
  · intro done step rest between fault after hsteps hdone hstep
    have hleft := entry?_of_fails hstep
    simp only [FileTree.startOf, workingDirectory_of_performed hdone] at hleft
    refine ⟨?_, entry?_of_performed hdone, hleft⟩
    have hrun := performAll_of_fails hdone hstep rest
    rwa [← hsteps] at hrun
  · intro schema other hschema hother
    exact ⟨Path.components_join_eq_iff hschema hother, Path.place_join_eq_iff hschema hother⟩

/-- What is found below `base` when the files of the database are there: the directories of the
schemas, and for each table a file. It has the table's own text if no two files are at one place. -/
structure PresentIn (settings : ProtoSettings) (embed : Bool) (base : String) (here : Place)
    (database : Database) (tree : FileTree) : Prop where
  directories : ∀ schema ∈ database.schemas,
    let directory := Path.join base schema.name
    tree.isDirectory (Path.origin here directory) (Path.names directory)
  files : ∀ entry ∈ database.listed, ∃ text, (entry.2.render settings embed).result = .ok text ∧
    ∃ content, tree.entry? (Path.place here (pathOf base entry)) = some (.file content)
  texts : ((database.listed.map (pathOf base)).map (Path.place here)).Nodup →
    ∀ entry ∈ database.listed, ∀ text, (entry.2.render settings embed).result = .ok text →
      tree.entry? (Path.place here (pathOf base entry)) = some (.file text.toUTF8)

theorem presentIn_of_schemasWritten {database : Database} {settings : ProtoSettings} {embed : Bool}
    {root : String} {tree after : FileTree}
    (h : SchemasWritten settings embed (Path.join root settings.path) database.schemas tree after) :
    database.PresentIn settings embed (Path.join root settings.path) tree.workingDirectory after := by
  have hdone : Performed settings embed (ofDatabase settings root database) tree after :=
    performed_ofDatabase_iff.mpr h
  refine ⟨?_, ?_, ?_⟩
  · intro schema hschema directory
    have hthere := isDirectory_of_mem hdone
      (directory_mem_ofDatabase_iff.mpr ⟨schema, hschema, rfl⟩)
    rwa [FileTree.startOf, workingDirectory_of_performed hdone] at hthere
  · intro entry hentry
    have hfile := @file_mem_of_mem_listed settings root database entry hentry
    obtain ⟨text, hrender⟩ := exists_text_of_mem hdone hfile
    exact ⟨text, hrender, exists_content_of_mem hdone hfile⟩
  · intro hplaces entry hentry text hrender
    rw [← filterMap_path?_ofDatabase] at hplaces
    exact entry?_of_file_mem hdone hplaces (file_mem_of_mem_listed hentry) hrender

lemma returns_customers : ((customers "address").generate {} true "out").Returns .empty
    ["out/proto/crm/customer.proto", "out/proto/shop/address.proto"]
    ((customers "address").generate {} true "out" .empty).2 := by
  apply Action.returns_of_result_eq
  decide +kernel

theorem generate_performs_steps_customers :
    ∃ after, Performed {} true (ofDatabase {} "out" (customers "address")) .empty after ∧
      (customers "address").generate {} true "out" .empty =
        (⟨.ok ["out/proto/crm/customer.proto", "out/proto/shop/address.proto"],
          (ofDatabase {} "out" (customers "address")).flatMap (log {} true)⟩, after) ∧
      after.isDirectory [] ["out", "proto", "crm"] ∧
      [["out", "proto", "crm", "customer.proto"], ["out", "proto", "shop", "address.proto"]].Nodup ∧
      ∃ text, ((addressTable "address").render {} true).result = .ok text ∧
        after.entry? ["out", "proto", "shop", "address.proto"] = some (.file text.toUTF8) := by
  have hdone := (performAll_returns_iff.mp returns_customers).1
  obtain ⟨_, hsuccess, _⟩ := generate_performs_steps (customers "address") {} true "out" .empty
  obtain ⟨hrun, _, _, _, _, hdirectories, hpaths, hfiles⟩ := hsuccess _ hdone
  have hslashless : (customers "address").Slashless := by decide
  have haddress := hfiles hslashless (by decide) (⟨"shop", [addressTable "address"]⟩,
    addressTable "address") (by decide)
  exact ⟨_, hdone, hrun, hdirectories "out/proto/crm" (by decide),
    (hpaths hslashless).mpr (by decide), haddress⟩

def note (schema : String) : Table := .ofNames schema "note" ["id"] []

/-- Two notes whose files are in one directory. -/
def notes : Database := ⟨"sqlite", [⟨"", [note ""]⟩, ⟨".", [note "."]⟩]⟩

lemma returns_notes : (notes.generate {} true "out").Returns .empty
    ["out/proto/note.proto", "out/proto/./note.proto"] (notes.generate {} true "out" .empty).2 := by
  apply Action.returns_of_result_eq
  decide +kernel

/-- The directories that are on the way to one that cannot be made stay. Two files may have one path,
and of two files at one place the first is lost. -/
theorem not_generate_performs_steps_alone :
    (¬ ∀ (database : Database) (settings : ProtoSettings) (embed : Bool) (root : String)
      (tree : FileTree) (done rest : List OutputStep) (step : OutputStep) (between : FileTree)
      (fault : Fault) (after : FileTree),
      ofDatabase settings root database = done ++ step :: rest →
      Performed settings embed done tree between → step.Fails settings embed between fault after →
      after.entry? = effects settings embed tree.workingDirectory tree.entry? done) ∧
    (¬ ∀ (database : Database) (settings : ProtoSettings) (embed : Bool) (root : String)
      (tree : FileTree) (paths : List String) (after : FileTree),
      (database.generate settings embed root).Returns tree paths after → database.Slashless →
      (database.listed.map fun entry => (entry.1.name, entry.2.name)).Nodup →
      (paths.map Path.components).Nodup) ∧
    ¬ ∀ (database : Database) (settings : ProtoSettings) (embed : Bool) (root : String)
      (tree : FileTree) (paths : List String) (after : FileTree),
      (database.generate settings embed root).Returns tree paths after → database.Slashless →
      (database.listed.map fun entry => (entry.1.name, entry.2.name)).Nodup →
      ∀ entry ∈ database.listed, ∀ text, (entry.2.render settings embed).result = .ok text →
        after.entry? (tree.placeOf (pathOf (Path.join root settings.path) entry)) =
          some (.file text.toUTF8) := by
  have hslashless : notes.Slashless := by decide
  refine ⟨?_, ?_, ?_⟩
  · intro h
    have hmaking : FileTree.empty.createDirectories "out/proto/." =
        (.error .notFound, (FileTree.empty.createDirectories "out/proto/.").2) :=
      Prod.ext (by decide +kernel) rfl
    have hsame := h ⟨"sqlite", [⟨".", []⟩]⟩ {} true "out" .empty [] [] _ _ _ _ rfl .done
      (.making hmaking)
    have hout := congrArg Option.isSome (congrFun hsame ["out"])
    revert hout
    decide +kernel
  · intro h
    have hdistinct := h notes {} true "out" .empty _ _ returns_notes hslashless (by decide)
    revert hdistinct
    decide
  · intro h
    have hdone := (performAll_returns_iff.mp returns_notes).1
    have hmem : .file "out/proto/note.proto" (note "") ∈ ofDatabase {} "out" notes := by decide
    obtain ⟨text, hrender⟩ := exists_text_of_mem hdone hmem
    have hfirst := h notes {} true "out" .empty _ _ returns_notes hslashless (by decide)
      (⟨"", [note ""]⟩, note "") (by decide) text hrender
    have htext : some text.toUTF8 = ((note "").render {} true).result.toOption.map String.toUTF8 := by
      rw [hrender]
      rfl
    have hcontent := (congrArg (Option.bind · FileEntry.content?) hfirst).trans htext
    revert hcontent
    decide +kernel

end Database

end RelProto
