import RelProto.Proofs.Output.Generation

/-! What generating may change: directories on the way to those of the schemas, and the files of the
tables. A name decides whether a file stays in the directory of its schema and below the output
directory. -/
namespace RelProto

/-- What has changed are new directories at some places, and files at others. -/
def Contents.ChangesOnly (directories files : Place → Prop) (contents later : Contents) : Prop :=
  ∀ place, later place ≠ contents place →
    (directories place ∧ contents place = none ∧ later place = some .directory) ∨
      (files place ∧ ∃ content, later place = some (.file content))

namespace Contents.ChangesOnly

variable {directories files : Place → Prop} {contents later last : Contents}

lemma refl (directories files : Place → Prop) (contents : Contents) :
    contents.ChangesOnly directories files contents := by
  intro place hchanged
  exact absurd rfl hchanged

lemma trans (h : contents.ChangesOnly directories files later)
    (hlast : later.ChangesOnly directories files last) :
    contents.ChangesOnly directories files last := by
  intro place hchanged
  by_cases hsame : last place = later place
  · rw [hsame] at hchanged ⊢
    exact h place hchanged
  · obtain ⟨hplace, hnone, hdirectory⟩ | hfile := hlast place hsame
    · -- What is new in the end was not there in between, so it was not there before.
      have hbefore : contents place = none := by
        by_contra hpresent
        have hlost : later place ≠ contents place := by
          rw [hnone]
          exact fun hboth => hpresent hboth.symm
        obtain ⟨_, _, hthere⟩ | ⟨_, _, hthere⟩ := h place hlost <;> rw [hnone] at hthere <;>
          cases hthere
      exact .inl ⟨hplace, hbefore, hdirectory⟩
    · exact .inr hfile

lemma imp {directories' files' : Place → Prop} (h : contents.ChangesOnly directories files later)
    (hdirectories : ∀ place, directories place → directories' place)
    (hfiles : ∀ place, files place → files' place) :
    contents.ChangesOnly directories' files' later := by
  intro place hchanged
  obtain ⟨hplace, hnew⟩ | ⟨hplace, hfile⟩ := h place hchanged
  · exact .inl ⟨hdirectories place hplace, hnew⟩
  · exact .inr ⟨hfiles place hplace, hfile⟩

lemma withDirectories {places : List Place} (h : ∀ place ∈ places, directories place)
    (contents : Contents) :
    contents.ChangesOnly directories files (contents.withDirectories places) := by
  intro place hchanged
  by_cases hplace : place ∈ places
  · have hnone : contents place = none := by
      by_contra hpresent
      obtain ⟨entry, hentry⟩ := Option.ne_none_iff_exists'.mp hpresent
      exact hchanged (by rw [Contents.withDirectories_of_eq_some hentry, hentry])
    refine .inl ⟨h place hplace, hnone, ?_⟩
    rw [Contents.withDirectories, if_pos hplace, hnone]
    rfl
  · exact absurd (Contents.withDirectories_of_notMem hplace) hchanged

lemma update {place : Place} (h : files place) (contents : Contents) (content : ByteArray) :
    contents.ChangesOnly directories files
      (Function.update contents place (some (.file content))) := by
  intro other hchanged
  by_cases hother : other = place
  · subst hother
    exact .inr ⟨h, content, Function.update_self _ _ _⟩
  · exact absurd (Function.update_of_ne hother _ _) hchanged

end Contents.ChangesOnly

namespace OutputStep

/-- The places of the directories that the step may have to make. -/
def Makes (here : Place) (step : OutputStep) (place : Place) : Prop :=
  ∃ path, step = .directory path ∧ place ∈ Path.way (Path.origin here path) (Path.names path)

/-- The place of the file that the step writes. -/
def Writes (here : Place) (step : OutputStep) (place : Place) : Prop :=
  ∃ path table, step = .file path table ∧ place = Path.place here path

/-- Nothing has changed but what the steps are for. -/
def ChangedBy (here : Place) (steps : List OutputStep) (contents later : Contents) : Prop :=
  contents.ChangesOnly (fun place => ∃ step ∈ steps, step.Makes here place)
    (fun place => ∃ step ∈ steps, step.Writes here place) later

variable {settings : ProtoSettings} {embed : Bool} {step : OutputStep}
  {steps more : List OutputStep} {here : Place} {tree after : FileTree} {fault : Fault}

lemma ChangedBy.mono {contents later : Contents} (h : ChangedBy here steps contents later)
    (hsteps : steps ⊆ more) : ChangedBy here more contents later := by
  apply h.imp
  · rintro place ⟨step, hstep, hplace⟩
    exact ⟨step, hsteps hstep, hplace⟩
  · rintro place ⟨step, hstep, hplace⟩
    exact ⟨step, hsteps hstep, hplace⟩

lemma changedBy_of_succeeds (h : step.Succeeds settings embed tree after) :
    ChangedBy tree.workingDirectory [step] tree.entry? after.entry? := by
  rw [ entry?_of_succeeds h]
  cases h with
  | @directory path _ _ hmade =>
    apply Contents.ChangesOnly.withDirectories
    intro place hplace
    exact ⟨_, List.mem_singleton_self _, path, rfl, hplace⟩
  | @file path table _ _ _ hrender hwrite =>
    rw [effect_file hrender]
    exact .update ⟨_, List.mem_singleton_self _, path, table, rfl, rfl⟩ _ _

lemma changedBy_of_fails (h : step.Fails settings embed tree fault after) :
    ChangedBy tree.workingDirectory [step] tree.entry? after.entry? := by
  obtain rfl | ⟨path, enclosing, rfl, henclosing, hentry⟩ := entry?_of_fails h
  · exact .refl _ _ _
  · have hway : Path.way (tree.startOf path) enclosing ⊆
        Path.way (tree.startOf path) (Path.names path) :=
      Path.way_subset_of_prefix (henclosing.trans (List.dropLast_prefix _))
    rw [hentry]
    apply Contents.ChangesOnly.withDirectories
    intro place hplace
    exact ⟨_, List.mem_singleton_self _, path, rfl, hway hplace⟩

lemma changedBy_of_performed (h : Performed settings embed steps tree after) :
    ChangedBy tree.workingDirectory steps tree.entry? after.entry? := by
  induction h with
  | done => exact .refl _ _ _
  | @next step rest _ _ _ hstep _ ih =>
    rw [workingDirectory_of_succeeds hstep] at ih
    have hfirst := (changedBy_of_succeeds hstep).mono (List.subset_append_left [step] rest)
    exact hfirst.trans (ih.mono (List.subset_cons_self step rest))

/-- Whether or not a step fails, nothing changes but what the steps are for. -/
theorem changedBy_performAll (settings : ProtoSettings) (embed : Bool) (steps : List OutputStep)
    (tree : FileTree) :
    ChangedBy tree.workingDirectory steps tree.entry?
      ( FileTree.entry? ((performAll settings embed steps : Action FileTree _) tree).2) := by
  obtain ⟨after, hdone⟩ | ⟨done, step, rest, between, fault, after, rfl, hdone, hstep⟩ :=
    performed_or_fails settings embed steps tree
  · rw [performAll_of_performed hdone]
    exact changedBy_of_performed hdone
  · rw [performAll_of_fails hdone hstep]
    have hbefore := (changedBy_of_performed hdone).mono
      (List.subset_append_left done (step :: rest))
    have hlast : [step] ⊆ done ++ step :: rest :=
      List.Subset.trans (List.subset_append_left [step] rest) (List.subset_append_right done _)
    have hfails := changedBy_of_fails hstep
    rw [workingDirectory_of_performed hdone] at hfails
    exact hbefore.trans (hfails.mono hlast)

end OutputStep

namespace Path

variable {here : Place} {base schema table : String}

/-- The file of the table lies directly in the directory that is named after its schema below `base`,
and not outside `base`. -/
structure Inside (here : Place) (base schema table : String) : Prop where
  direct : (place here (ofTable base schema table)).dropLast =
    follow (place here base) (names schema)
  within : place here base <+: follow (place here base) (names schema)

lemma dropLast_place_ofTable (here : Place) (base schema table : String) :
    (place here (ofTable base schema table)).dropLast =
      follow (if startsAtRoot table then [] else place here (join base schema)) (detour table) := by
  obtain ⟨name, hplace⟩ := place_ofTable here base schema table
  rw [hplace, List.dropLast_concat]

/-- A file is inside if its name leads back to the directory of the schema, or not away from it, and
the name of the schema does not lead out of `base`. -/
theorem inside_iff : Inside here base schema table ↔
    follow (if startsAtRoot table then [] else place here (join base schema)) (detour table) =
        follow (place here base) (names schema) ∧
      place here base <+: follow (place here base) (names schema) := by
  rw [← dropLast_place_ofTable]
  exact ⟨fun h => ⟨h.direct, h.within⟩, fun h => ⟨h.1, h.2⟩⟩

/-- Of the names without a slash, only two dots for a schema lead out. -/
theorem Slashless.inside_iff (hschema : Slashless schema) (htable : Slashless table) :
    Inside here base schema table ↔ schema ≠ ".." ∨ place here base = [] := by
  have hbelow : follow (place here base) (names schema) = place here (join base schema) :=
    (hschema.place_join_eq_follow here base).symm
  have hdirect : (place here (ofTable base schema table)).dropLast =
      follow (place here base) (names schema) := by
    rw [htable.place_ofTable, List.dropLast_concat, hbelow]
  have hwithin : Inside here base schema table ↔
      place here base <+: place here (join base schema) := by
    rw [← hbelow]
    exact ⟨fun h => h.within, fun h => ⟨hdirect, h⟩⟩
  rw [hwithin]
  obtain ⟨hdot, hplace⟩ | ⟨rfl, hplace⟩ | ⟨hname, hplace⟩ := hschema.place_join_cases here base
  · rw [hplace]
    refine iff_of_true (List.prefix_refl _) (.inl ?_)
    rintro rfl
    exact absurd hdot (by decide)
  · rw [hplace]
    constructor
    · intro henclosing
      have hlength := henclosing.length_le
      rw [List.length_dropLast] at hlength
      right
      rw [← List.length_eq_zero_iff]
      omega
    · rintro (hne | hroot)
      · exact absurd rfl hne
      · rw [hroot]
        exact List.prefix_refl _
  · rw [hplace]
    exact iff_of_true (List.prefix_append _ _) (.inl fun hdots => hname (.inr (.inr hdots)))

end Path

namespace Database

open OutputStep

/-- Nothing changes but for new directories on the way to those of the schemas and for the files of
the tables, and if no step fails, the file of each table is there. If all of them are inside, so is
every file that has changed. A file is inside if the name of the table leads back to the directory
that is named after the schema, or not away from it, and that is not outside the output directory; a
name from the root leads there from wherever the run is. Without slashes a file is inside, unless the
name of the schema is two dots and there is something above the output directory. -/
theorem generate_stays_inside_iff (database : Database) (settings : ProtoSettings) (embed : Bool)
    (root : String) (tree : FileTree) :
    let base := Path.join root settings.path
    let here := tree.workingDirectory
    let after := (database.generate settings embed root tree).2
    Contents.ChangesOnly
      (fun place => ∃ schema ∈ database.schemas,
        let directory := Path.join base schema.name
        place ∈ Path.way (Path.origin here directory) (Path.names directory))
      (fun place => ∃ entry ∈ database.listed, place = Path.place here (pathOf base entry))
      tree.entry? after.entry? ∧
    (∀ paths, (database.generate settings embed root).Returns tree paths after →
      ∀ entry ∈ database.listed,
        ∃ content, after.entry? (Path.place here (pathOf base entry)) = some (.file content)) ∧
    ((∀ entry ∈ database.listed, Path.Inside here base entry.1.name entry.2.name) →
      ∀ place content, after.entry? place = some (.file content) →
        after.entry? place ≠ tree.entry? place →
        ∃ entry ∈ database.listed,
          place.dropLast = Path.follow (Path.place here base) (Path.names entry.1.name) ∧
          Path.place here base <+: place.dropLast) ∧
    ∀ entry ∈ database.listed,
      (Path.Inside here base entry.1.name entry.2.name ↔
        Path.follow (if Path.startsAtRoot entry.2.name then []
            else Path.place here (Path.join base entry.1.name)) (Path.detour entry.2.name) =
          Path.follow (Path.place here base) (Path.names entry.1.name) ∧
        Path.place here base <+: Path.follow (Path.place here base) (Path.names entry.1.name)) ∧
      (Path.Slashless entry.1.name → Path.Slashless entry.2.name →
        (Path.Inside here base entry.1.name entry.2.name ↔
          entry.1.name ≠ ".." ∨ Path.place here base = [])) := by
  intro base here after
  have hchanges : Contents.ChangesOnly
      (fun place => ∃ schema ∈ database.schemas,
        let directory := Path.join base schema.name
        place ∈ Path.way (Path.origin here directory) (Path.names directory))
      (fun place => ∃ entry ∈ database.listed, place = Path.place here (pathOf base entry))
      tree.entry? after.entry? := by
    apply (changedBy_performAll settings embed (ofDatabase settings root database) tree).imp
    · rintro place ⟨_, hmem, path, rfl, hplace⟩
      obtain ⟨schema, hschema, rfl⟩ := directory_mem_ofDatabase_iff.mp hmem
      exact ⟨schema, hschema, hplace⟩
    · rintro place ⟨_, hmem, path, table, rfl, rfl⟩
      obtain ⟨schema, hschema, htable, rfl⟩ := file_mem_ofDatabase_iff.mp hmem
      exact ⟨(schema, table), mem_listed_iff.mpr ⟨hschema, htable⟩, rfl⟩
  refine ⟨hchanges, ?_, ?_, ?_⟩
  · intro paths hreturns entry hentry
    exact exists_content_of_mem (performAll_returns_iff.mp hreturns).1 (file_mem_of_mem_listed hentry)
  · intro hinside place content hfile hchanged
    obtain ⟨_, _, hdirectory⟩ | ⟨⟨entry, hentry, rfl⟩, _⟩ := hchanges place hchanged
    · rw [hfile] at hdirectory
      cases hdirectory
    · obtain ⟨hdirect, hwithin⟩ := hinside entry hentry
      refine ⟨entry, hentry, hdirect, ?_⟩
      rw [pathOf, hdirect]
      exact hwithin
  · intro entry hentry
    exact ⟨Path.inside_iff, Path.Slashless.inside_iff⟩

/-- No files, seen from a directory below the root. -/
def home : FileTree := { entries := [], workingDirectory := ["home"] }

theorem generate_stays_inside_customers : ∃ after,
    ((customers "address").generate {} true "out").Returns home
      ["out/proto/crm/customer.proto", "out/proto/shop/address.proto"] after ∧
    (∃ content,
      after.entry? ["home", "out", "proto", "shop", "address.proto"] = some (.file content)) ∧
    ∀ place content, after.entry? place = some (.file content) →
      after.entry? place ≠ home.entry? place →
      ["home", "out", "proto"] <+: place.dropLast := by
  obtain ⟨_, hwritten, hstays, hinside⟩ :=
    generate_stays_inside_iff (customers "address") {} true "out" home
  have hreturns : ((customers "address").generate {} true "out").Returns home
      ["out/proto/crm/customer.proto", "out/proto/shop/address.proto"]
      ((customers "address").generate {} true "out" home).2 := by
    apply Action.returns_of_result_eq
    decide +kernel
  refine ⟨_, hreturns, ?_, ?_⟩
  · exact hwritten _ hreturns (⟨"shop", [addressTable "address"]⟩, addressTable "address")
      (by decide)
  · have hall : ∀ entry ∈ (customers "address").listed,
        Path.Inside ["home"] "out/proto" entry.1.name entry.2.name := by
      intro entry hentry
      have hslashless : (customers "address").Slashless := by decide
      obtain ⟨hschema, htable⟩ := hslashless entry hentry
      have hnames : ∀ entry ∈ (customers "address").listed, entry.1.name ≠ ".." := by decide
      exact ((hinside entry hentry).2 hschema htable).mpr (.inl (hnames entry hentry))
    intro place content hfile hchanged
    obtain ⟨_, _, _, hbelow⟩ := hstays hall place content hfile hchanged
    exact hbelow

/-- A table whose name leads two directories up has its file outside. -/
def strayAddress : Database := ⟨"sqlite", [⟨"shop", [addressTable "../../address"]⟩]⟩

theorem not_generate_stays_inside_strayAddress :
    ¬ ∀ (database : Database) (settings : ProtoSettings) (embed : Bool) (root : String)
      (tree : FileTree) (paths : List String) (after : FileTree),
      (database.generate settings embed root).Returns tree paths after →
      ∀ place content, after.entry? place = some (.file content) →
        after.entry? place ≠ tree.entry? place →
        tree.placeOf (Path.join root settings.path) <+: place.dropLast ∧
        ∃ entry ∈ database.listed, place.dropLast =
          Path.follow (tree.placeOf (Path.join root settings.path))
            (Path.names entry.1.name) := by
  intro h
  have hreturns : (strayAddress.generate {} true "out").Returns .empty
      ["out/proto/shop/../../address.proto"] (strayAddress.generate {} true "out" .empty).2 := by
    apply Action.returns_of_result_eq
    decide +kernel
  have hmem : .file "out/proto/shop/../../address.proto" (addressTable "../../address") ∈
      ofDatabase {} "out" strayAddress := by decide
  obtain ⟨content, hfile⟩ := exists_content_of_mem (performAll_returns_iff.mp hreturns).1 hmem
  have hchanged : FileTree.entry? (strayAddress.generate {} true "out" .empty).2
      ["out", "address.proto"] ≠ FileTree.empty.entry? ["out", "address.proto"] := by
    intro hsame
    cases hfile.symm.trans hsame
  have hout : ["out", "proto"] <+: ["out"] :=
    (h strayAddress {} true "out" .empty _ _ hreturns _ content hfile hchanged).1
  revert hout
  decide

end Database

end RelProto
