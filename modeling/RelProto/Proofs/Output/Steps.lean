import RelProto.Proofs.FileTree
import RelProto.Proofs.Output

/-! Writing files one step at a time. A step that succeeds has one effect on what is where, and the
first one that fails is the last one that is performed. -/
namespace RelProto.OutputStep

variable {settings : ProtoSettings} {embed : Bool}

/-- The path of the file that the step writes. -/
def path? : OutputStep → Option String
  | directory _ => none
  | file path _ => some path

@[simp] theorem filterMap_path?_file (path : String) (table : Table) (rest : List OutputStep) :
    (file path table :: rest).filterMap path? = path :: rest.filterMap path? := rfl

/-- The lines that a step logs, all of them about its table. -/
def log (settings : ProtoSettings) (embed : Bool) : OutputStep → List LogLine
  | directory _ => []
  | file _ table => ⟨.info, table.schema ++ "/" ++ table.name ++ ".proto"⟩ ::
      (table.render settings embed).log

/-- What is where after the step, from what was there before, seen from the working directory. -/
def effect (settings : ProtoSettings) (embed : Bool) (here : Place) (contents : Contents) :
    OutputStep → Contents
  | directory path => contents.withDirectories (Path.way (Path.origin here path) (Path.names path))
  | file path table =>
    match (table.render settings embed).result with
    | .ok text => Function.update contents (Path.place here path) (some (.file text.toUTF8))
    | .error _ => contents

lemma effect_file {path text : String} {table : Table}
    (hrender : (table.render settings embed).result = .ok text) (here : Place)
    (contents : Contents) : (file path table).effect settings embed here contents =
      Function.update contents (Path.place here path) (some (.file text.toUTF8)) := by
  rw [effect, hrender]

/-- What is where after steps in their order. -/
def effects (settings : ProtoSettings) (embed : Bool) (here : Place) (contents : Contents)
    (steps : List OutputStep) : Contents := steps.foldl (effect settings embed here) contents

@[simp] theorem effects_cons (here : Place) (contents : Contents) (step : OutputStep)
    (rest : List OutputStep) : effects settings embed here contents (step :: rest) =
      effects settings embed here (step.effect settings embed here contents) rest := rfl

theorem effects_append (here : Place) (contents : Contents) (steps rest : List OutputStep) :
    effects settings embed here contents (steps ++ rest) =
      effects settings embed here (effects settings embed here contents steps) rest := by
  rw [effects, effects, effects, List.foldl_append]

/-- The directory is there or can be made; or the table can be rendered and its file be written. -/
inductive Succeeds (settings : ProtoSettings) (embed : Bool) :
    OutputStep → FileTree → FileTree → Prop
  | directory {path tree after} (hmade : tree.createDirectories path = (.ok (), after)) :
    Succeeds settings embed (.directory path) tree after
  | file {path table tree text after} (hrender : (table.render settings embed).result = .ok text)
    (hwrite : tree.writeFile path text.toUTF8 = .ok after) :
    Succeeds settings embed (.file path table) tree after

/-- How a step fails: with the system's refusal to write at its path, or with the failure to render
its table. Only a directory may leave another tree. -/
inductive Fails (settings : ProtoSettings) (embed : Bool) :
    OutputStep → FileTree → Fault → FileTree → Prop
  | making {path tree cause after} (h : tree.createDirectories path = (.error cause, after)) :
    Fails settings embed (.directory path) tree (cause.writing path) after
  | rendering {path table tree fault} (h : (table.render settings embed).result = .error fault) :
    Fails settings embed (.file path table) tree
      (fault.context ("generating " ++ table.schema ++ "." ++ table.name)) tree
  | writing {path table tree text cause}
    (hrender : (table.render settings embed).result = .ok text)
    (hwrite : tree.writeFile path text.toUTF8 = .error cause) :
    Fails settings embed (.file path table) tree (cause.writing path) tree

/-- The steps succeed one after another. -/
inductive Performed (settings : ProtoSettings) (embed : Bool) :
    List OutputStep → FileTree → FileTree → Prop
  | done {tree} : Performed settings embed [] tree tree
  | next {step rest tree between after} (hstep : Succeeds settings embed step tree between)
    (hrest : Performed settings embed rest between after) :
    Performed settings embed (step :: rest) tree after

section Step

variable {step : OutputStep} {tree after : FileTree} {fault : Fault}

lemma succeeds_or_fails (settings : ProtoSettings) (embed : Bool) (step : OutputStep)
    (tree : FileTree) : (∃ after, step.Succeeds settings embed tree after) ∨
      ∃ fault after, step.Fails settings embed tree fault after := by
  cases step with
  | directory path =>
    rcases h : tree.createDirectories path with ⟨cause | _, after⟩
    · exact .inr ⟨_, after, .making h⟩
    · exact .inl ⟨after, .directory h⟩
  | file path table =>
    rcases hrender : (table.render settings embed).result with fault | text
    · exact .inr ⟨_, tree, .rendering hrender⟩
    · rcases hwrite : tree.writeFile path text.toUTF8 with cause | after
      · exact .inr ⟨_, tree, .writing hrender hwrite⟩
      · exact .inl ⟨after, .file hrender hwrite⟩

lemma liftM_content (settings : ProtoSettings) (embed : Bool) (path : String) (table : Table)
    (tree : FileTree) : (liftM (content settings embed table) : Action FileTree String) tree =
      (⟨(table.render settings embed).result.mapError
        (·.context ("generating " ++ table.schema ++ "." ++ table.name)),
        (file path table).log settings embed⟩, tree) := by
  change (content settings embed table, tree) = _
  simp only [content, Table.qualifiedName, log, String.append_assoc]
  rfl

section Operation

variable {α : Type} {operation : Action FileTree (Except OsFault Unit)} {cause : OsFault}

lemma bind_written_of_ok (h : operation tree = (⟨.ok (.ok ()), []⟩, after)) (path : String) (a : α) :
    (do let result ← operation
        written path result
        return a : Action FileTree α) tree = (⟨.ok a, []⟩, after) :=
  Action.bind_of_ok h _

lemma bind_written_of_error (h : operation tree = (⟨.ok (.error cause), []⟩, after))
    (path : String) (a : α) :
    (do let result ← operation
        written path result
        return a : Action FileTree α) tree = (⟨.error (cause.writing path), []⟩, after) :=
  Action.bind_of_ok h _

end Operation

lemma createDirectories_apply (path : String) (tree : FileTree) :
    (Files.createDirectories path : Action FileTree _) tree =
      (⟨.ok (tree.createDirectories path).1, []⟩, (tree.createDirectories path).2) := rfl

lemma writeFile_of_ok {path : String} {bytes : ByteArray} (h : tree.writeFile path bytes = .ok after) :
    (Files.writeFile path bytes : Action FileTree _) tree = (⟨.ok (.ok ()), []⟩, after) := by
  simp only [Files.writeFile, h]
  rfl

lemma writeFile_of_error {path : String} {bytes : ByteArray} {cause : OsFault}
    (h : tree.writeFile path bytes = .error cause) :
    (Files.writeFile path bytes : Action FileTree _) tree = (⟨.ok (.error cause), []⟩, tree) := by
  simp only [Files.writeFile, h]
  rfl

theorem perform_of_succeeds (h : step.Succeeds settings embed tree after) :
    (step.perform settings embed : Action FileTree _) tree =
      (⟨.ok step.path?, step.log settings embed⟩, after) := by
  cases h with
  | @directory path _ _ hmade =>
    have hoperation := createDirectories_apply path tree
    rw [hmade] at hoperation
    exact bind_written_of_ok hoperation path none
  | @file path table _ text _ hrender hwrite =>
    have hcontent := liftM_content settings embed path table tree
    rw [hrender] at hcontent
    refine (Action.bind_of_ok hcontent _).trans ?_
    rw [bind_written_of_ok (writeFile_of_ok hwrite), List.append_nil]
    rfl

theorem perform_of_fails (h : step.Fails settings embed tree fault after) :
    (step.perform settings embed : Action FileTree _) tree =
      (⟨.error fault, step.log settings embed⟩, after) := by
  cases h with
  | @making path _ _ _ h =>
    have hoperation := createDirectories_apply path tree
    rw [h] at hoperation
    exact bind_written_of_error hoperation path none
  | @rendering path table _ fault h =>
    have hcontent := liftM_content settings embed path table tree
    rw [h] at hcontent
    exact Action.bind_of_error hcontent _
  | @writing path table _ text cause hrender hwrite =>
    have hcontent := liftM_content settings embed path table tree
    rw [hrender] at hcontent
    refine (Action.bind_of_ok hcontent _).trans ?_
    rw [bind_written_of_error (writeFile_of_error hwrite), List.append_nil]

/-- A step that succeeds changes nothing beyond its effect. -/
theorem entry?_of_succeeds (h : step.Succeeds settings embed tree after) :
    after.entry? = step.effect settings embed tree.workingDirectory tree.entry? := by
  cases h with
  | @directory path _ _ hmade =>
    have hleaves := tree.leaves_createDirectories path
    rw [hmade] at hleaves
    exact hleaves.contents_eq
  | file hrender hwrite => rw [ FileTree.entry?_of_writeFile hwrite, effect_file hrender]

lemma workingDirectory_of_succeeds (h : step.Succeeds settings embed tree after) :
    after.workingDirectory = tree.workingDirectory := by
  cases h with
  | @directory path _ _ hmade =>
    have hleaves := tree.leaves_createDirectories path
    rw [hmade] at hleaves
    exact hleaves.workingDirectory_eq
  | file _ hwrite => exact FileTree.workingDirectory_of_writeFile hwrite

/-- A step that succeeds removes nothing, and puts nothing in the place of another kind of entry. -/
lemma keeps_of_succeeds (h : step.Succeeds settings embed tree after) :
    Contents.Keeps tree.entry? after.entry? := by
  rw [ entry?_of_succeeds h]
  cases h with
  | directory hmade => exact Contents.Keeps.withDirectories _ _
  | file hrender hwrite =>
    have hkeeps := FileTree.keeps_of_writeFile hwrite
    rw [ FileTree.entry?_of_writeFile hwrite] at hkeeps
    rw [effect_file hrender]
    exact hkeeps

/-- A step that fails leaves the tree alone, unless it is a directory: those on the way up to some
enclosing one may have been made. -/
theorem entry?_of_fails (h : step.Fails settings embed tree fault after) :
    after = tree ∨ ∃ path enclosing, step = .directory path ∧
      enclosing <+: (Path.names path).dropLast ∧
      after.entry? = Contents.withDirectories tree.entry? (Path.way (tree.startOf path) enclosing) := by
  cases h with
  | @making path _ cause _ h =>
    have hleaves := tree.leaves_createDirectories path
    rw [h] at hleaves
    obtain ⟨_, enclosing, henclosing, hentry⟩ := hleaves
    exact .inr ⟨path, enclosing, rfl, henclosing, hentry⟩
  | rendering h => exact .inl rfl
  | writing hrender hwrite => exact .inl rfl

end Step

section Run

variable {steps rest : List OutputStep} {tree between after : FileTree}

variable {result : Except Fault (List String)} {lines : List LogLine}

lemma performAll_cons {step : OutputStep} (h : step.Succeeds settings embed tree between)
    (hrest : (performAll settings embed rest : Action FileTree _) between =
      (⟨result, lines⟩, after)) :
    (performAll settings embed (step :: rest) : Action FileTree _) tree =
      (⟨result.map (step.path?.toList ++ ·), step.log settings embed ++ lines⟩, after) := by
  rw [performAll, Action.bind_of_ok (perform_of_succeeds h), Action.bind_pure_apply, hrest]

/-- Steps that succeed are performed before the rest. -/
theorem performAll_append (h : Performed settings embed steps tree between)
    (hrest : (performAll settings embed rest : Action FileTree _) between =
      (⟨result, lines⟩, after)) :
    (performAll settings embed (steps ++ rest) : Action FileTree _) tree =
      (⟨result.map (steps.filterMap path? ++ ·), steps.flatMap (log settings embed) ++ lines⟩,
        after) := by
  induction h with
  | done =>
    rw [List.nil_append, hrest]
    rcases result with _ | paths <;> rfl
  | @next step steps _ _ _ hstep _ ih =>
    rw [List.cons_append, performAll_cons hstep (ih hrest)]
    have hpaths : (step :: steps).filterMap path? = step.path?.toList ++ steps.filterMap path? := by
      rw [List.filterMap_cons]
      cases step.path? <;> rfl
    rcases result with _ | paths <;> simp [Except.map, hpaths]

theorem performAll_of_performed (h : Performed settings embed steps tree after) :
    (performAll settings embed steps : Action FileTree _) tree =
      (⟨.ok (steps.filterMap path?), steps.flatMap (log settings embed)⟩, after) := by
  have hdone : (performAll settings embed [] : Action FileTree _) after =
      (⟨.ok [], []⟩, after) := rfl
  have hrun := performAll_append h hdone
  rw [List.append_nil] at hrun
  simpa [Except.map] using hrun

/-- The first step that fails is the last one that is performed, and its fault is reported. -/
theorem performAll_of_fails {step : OutputStep} {fault : Fault}
    (h : Performed settings embed steps tree between)
    (hstep : step.Fails settings embed between fault after) (rest : List OutputStep) :
    (performAll settings embed (steps ++ step :: rest) : Action FileTree _) tree =
      (⟨.error fault, (steps ++ [step]).flatMap (log settings embed)⟩, after) := by
  have hfails : (performAll settings embed (step :: rest) : Action FileTree _) between =
      (⟨.error fault, step.log settings embed⟩, after) :=
    Action.bind_of_error (perform_of_fails hstep) _
  rw [performAll_append h hfails]
  simp [Except.map]

theorem performed_or_fails (settings : ProtoSettings) (embed : Bool) (steps : List OutputStep)
    (tree : FileTree) : (∃ after, Performed settings embed steps tree after) ∨
      ∃ done step rest between fault after, steps = done ++ step :: rest ∧
        Performed settings embed done tree between ∧
        step.Fails settings embed between fault after := by
  induction steps generalizing tree with
  | nil => exact .inl ⟨tree, .done⟩
  | cons step steps ih =>
    obtain ⟨between, hstep⟩ | ⟨fault, after, hstep⟩ := succeeds_or_fails settings embed step tree
    · obtain ⟨after, hrest⟩ | ⟨done, last, rest, before, fault, after, rfl, hdone, hlast⟩ := ih between
      · exact .inl ⟨after, .next hstep hrest⟩
      · exact .inr ⟨step :: done, last, rest, before, fault, after, rfl, .next hstep hdone, hlast⟩
    · exact .inr ⟨[], step, steps, tree, fault, after, rfl, .done, hstep⟩

theorem performAll_returns_iff {paths : List String} :
    (performAll settings embed steps : Action FileTree _).Returns tree paths after ↔
      Performed settings embed steps tree after ∧ paths = steps.filterMap path? := by
  rw [Action.Returns, Action.outcome]
  constructor
  · intro h
    obtain ⟨last, hdone⟩ | ⟨done, step, rest, between, fault, last, rfl, hdone, hstep⟩ :=
      performed_or_fails settings embed steps tree
    · rw [performAll_of_performed hdone] at h
      cases h
      exact ⟨hdone, rfl⟩
    · rw [performAll_of_fails hdone hstep] at h
      cases h
  · rintro ⟨hdone, rfl⟩
    rw [performAll_of_performed hdone]

/-- What is where after a run is decided by the effects of its steps. -/
theorem entry?_of_performed (h : Performed settings embed steps tree after) :
    after.entry? = effects settings embed tree.workingDirectory tree.entry? steps := by
  induction h with
  | done => rfl
  | next hstep _ ih =>
    rw [effects_cons, ih, entry?_of_succeeds hstep, workingDirectory_of_succeeds hstep]

theorem workingDirectory_of_performed (h : Performed settings embed steps tree after) :
    after.workingDirectory = tree.workingDirectory := by
  induction h with
  | done => rfl
  | next hstep _ ih => exact ih.trans (workingDirectory_of_succeeds hstep)

lemma keeps_of_performed (h : Performed settings embed steps tree after) :
    Contents.Keeps tree.entry? after.entry? := by
  induction h with
  | done => exact Contents.Keeps.refl _
  | next hstep _ ih => exact (keeps_of_succeeds hstep).trans ih

/-- The directories are there in the end, whatever is made or written after them. -/
theorem isDirectory_of_mem (h : Performed settings embed steps tree after) {path : String}
    (hdirectory : .directory path ∈ steps) :
    after.isDirectory (after.startOf path) (Path.names path) := by
  rw [FileTree.isDirectory_iff (after.entry?_origin path), workingDirectory_of_performed h]
  induction h with
  | done => cases hdirectory
  | @next _ _ tree _ _ hstep hrest ih =>
    obtain rfl | hdirectory := List.mem_cons.mp hdirectory
    · cases hstep with
      | directory hmade =>
        have hleaves := tree.leaves_createDirectories path
        rw [hmade] at hleaves
        exact hleaves.passes.mono (keeps_of_performed hrest)
    · rw [← workingDirectory_of_succeeds hstep]
      exact ih hdirectory

lemma exists_text_of_mem (h : Performed settings embed steps tree after) {path : String}
    {table : Table} (hfile : .file path table ∈ steps) :
    ∃ text, (table.render settings embed).result = .ok text := by
  induction h with
  | done => cases hfile
  | next hstep _ ih =>
    obtain rfl | hfile := List.mem_cons.mp hfile
    · cases hstep with
      | file hrender _ => exact ⟨_, hrender⟩
    · exact ih hfile

/-- A file that has been written is there in the end. -/
lemma exists_content_of_mem (h : Performed settings embed steps tree after) {path : String}
    {table : Table} (hfile : .file path table ∈ steps) :
    ∃ content, after.entry? (tree.placeOf path) = some (.file content) := by
  induction h with
  | done => cases hfile
  | @next _ _ tree between _ hstep hrest ih =>
    obtain rfl | hfile := List.mem_cons.mp hfile
    · cases hstep with
      | @file _ _ _ text _ hrender hwrite =>
        have hwritten : between.entry? (tree.placeOf path) = some (.file text.toUTF8) := by
          rw [ FileTree.entry?_of_writeFile hwrite, Function.update_self]
        exact (keeps_of_performed hrest).file hwritten
    · rw [FileTree.placeOf, ← workingDirectory_of_succeeds hstep]
      exact ih hfile

/-- What is somewhere stays there if no file is written over it. -/
lemma effects_of_apart {here : Place} {contents : Contents} {place : Place} {entry : FileEntry}
    (hentry : contents place = some entry)
    (hapart : ∀ path ∈ steps.filterMap path?, place ≠ Path.place here path) :
    effects settings embed here contents steps place = some entry := by
  induction steps generalizing contents with
  | nil => exact hentry
  | cons step steps ih =>
    rw [effects_cons]
    cases step with
    | directory path => exact ih (Contents.withDirectories_of_eq_some hentry _) hapart
    | file path table =>
      rw [filterMap_path?_file, List.forall_mem_cons] at hapart
      refine ih ?_ hapart.2
      rcases hrender : (table.render settings embed).result with fault | text
      · rw [effect, hrender]
        exact hentry
      · rw [effect_file hrender, Function.update_of_ne hapart.1, hentry]

/-- If no two files lead to one place, each of them holds its own text in the end. -/
theorem entry?_of_file_mem (h : Performed settings embed steps tree after)
    (hplaces : ((steps.filterMap path?).map tree.placeOf).Nodup) {path : String} {table : Table}
    {text : String} (hfile : .file path table ∈ steps)
    (hrender : (table.render settings embed).result = .ok text) :
    after.entry? (tree.placeOf path) = some (.file text.toUTF8) := by
  obtain ⟨before, later, rfl⟩ := List.append_of_mem hfile
  rw [ entry?_of_performed h, effects_append, effects_cons]
  apply effects_of_apart
  · rw [effect_file hrender, Function.update_self]
  · rw [List.filterMap_append, List.map_append, filterMap_path?_file, List.map_cons] at hplaces
    have hlater := (List.nodup_cons.mp (List.nodup_append.mp hplaces).2.1).1
    intro other hother hsame
    exact hlater (List.mem_map.mpr ⟨other, hother, hsame.symm⟩)

end Run

end RelProto.OutputStep
