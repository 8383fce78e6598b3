import RelProto.Proofs.FileTree.Contents
import RelProto.Proofs.List

/-! What directories made and files written do to a file tree: what is at which place afterwards. -/
namespace RelProto

namespace FileTree

lemma not_of_eq_error {ε α : Type} {x : Except ε α} {a : α} {fault : ε} {P : Prop}
    (h : P → x = .ok a) (herror : x = .error fault) : ¬ P := by
  intro hP
  rw [h hP] at herror
  cases herror

variable {tree after : FileTree} {place start other : Place} {names : List String} {path : String}

/-- Where a path starts there is a directory. -/
@[simp] theorem entry?_origin (tree : FileTree) (path : String) :
    tree.entry? (Path.origin tree.workingDirectory path) = some .directory := by
  rw [ entry?, Path.origin]
  split_ifs with hroot horigin hhere
  · rfl
  · exact absurd List.nil_prefix horigin
  · rfl
  · exact absurd (List.prefix_refl _) hhere

/-- An entry that is put where no directory is, is what is there. -/
theorem entry?_put (tree : FileTree) (h : tree.entry? place ≠ some .directory)
    (entry : FileEntry) :
    FileTree.entry? (tree.put place entry) = Function.update tree.entry? place (some entry) := by
  funext other
  by_cases hother : other = place
  · subst hother
    have hway : ¬ other <+: tree.workingDirectory := fun hway => h (if_pos hway)
    simp [ entry?, put, hway]
  · rw [Function.update_of_ne hother]
    simp only [ entry?, put]
    congr 1
    have hkey : (other == place) = false := beq_eq_false_iff_ne.mpr hother
    rw [List.lookup_cons, hkey]
    exact lookup_filter_ne tree.entries hother

/-- A name that can be looked up. -/
def Usable (name : String) : Prop := name = "." ∨ name = ".." ∨ name.utf8ByteSize ≤ 255

lemma step_eq_ok_iff {name : String} :
    step place name = .ok other ↔ Usable name ∧ other = Path.next place name := by
  rw [step, Path.next, Usable]
  split_ifs with hdot hdots hlong
  · simp [hdot, eq_comm]
  · simp [hdots, eq_comm]
  · simp [hdot, hdots, Nat.not_le_of_gt hlong]
  · simp [Nat.le_of_not_lt hlong, eq_comm]

/-- The names can be looked up from the place on, and lead through directories only. -/
structure Passes (tree : FileTree) (place : Place) (names : List String) : Prop where
  usable : ∀ name ∈ names, Usable name
  directories : ∀ other ∈ Path.way place names, tree.entry? other = some .directory

lemma Passes.first (h : tree.Passes place names) : tree.entry? place = some .directory := by
  apply h.directories
  cases names with
  | nil => exact List.mem_singleton_self place
  | cons name rest => exact List.mem_cons_self

lemma passes_cons_iff {name : String} {rest : List String}
    (h : tree.entry? place = some .directory) :
    tree.Passes place (name :: rest) ↔ Usable name ∧ tree.Passes (Path.next place name) rest := by
  constructor
  · rintro ⟨husable, hway⟩
    rw [List.forall_mem_cons] at husable
    rw [Path.way, List.forall_mem_cons] at hway
    exact ⟨husable.1, husable.2, hway.2⟩
  · rintro ⟨hname, husable, hway⟩
    refine ⟨List.forall_mem_cons.mpr ⟨hname, husable⟩, ?_⟩
    rw [Path.way, List.forall_mem_cons]
    exact ⟨h, hway⟩

lemma passes_concat_iff {name : String} :
    tree.Passes place (names ++ [name]) ↔
      (tree.Passes place names ∧ Usable name) ∧
        tree.entry? (Path.follow place (names ++ [name])) = some .directory := by
  constructor
  · rintro ⟨husable, hway⟩
    rw [List.forall_mem_append, List.forall_mem_singleton] at husable
    rw [Path.way_concat, List.forall_mem_append, List.forall_mem_singleton] at hway
    exact ⟨⟨⟨husable.1, hway.1⟩, husable.2⟩, hway.2⟩
  · rintro ⟨⟨⟨husable, hway⟩, hname⟩, hlast⟩
    refine ⟨List.forall_mem_append.mpr ⟨husable, List.forall_mem_singleton.mpr hname⟩, ?_⟩
    rw [Path.way_concat, List.forall_mem_append, List.forall_mem_singleton]
    exact ⟨hway, hlast⟩

theorem enter_eq_ok_iff (h : tree.entry? place = some .directory) :
    tree.enter place names = .ok other ↔
      tree.Passes place names ∧ other = Path.follow place names := by
  induction names generalizing place with
  | nil =>
    have hpasses : tree.Passes place [] := ⟨by simp, by simpa [Path.way] using h⟩
    simp [enter, hpasses, eq_comm]
  | cons name rest ih =>
    rw [passes_cons_iff h, Path.follow_cons, enter]
    rcases hstep : step place name with fault | next
    · have hname : ¬ Usable name :=
        not_of_eq_error (fun hname => step_eq_ok_iff.mpr ⟨hname, rfl⟩) hstep
      simp [hname, bind, Except.bind]
    · obtain ⟨hname, rfl⟩ := step_eq_ok_iff.mp hstep
      have hstart : tree.Passes (Path.next place name) rest →
          tree.entry? (Path.next place name) = some .directory := Passes.first
      simp only [bind, Except.bind, hname, true_and]
      split
      · next hentry =>
        have hpasses : ¬ tree.Passes (Path.next place name) rest := by
          intro hpasses
          simpa [hentry] using hstart hpasses
        simp [hpasses]
      · next hentry => exact ih hentry
      · next entry hother hentry =>
        have hpasses : ¬ tree.Passes (Path.next place name) rest := by
          intro hpasses
          exact hother (Option.some.inj (hentry.symm.trans (hstart hpasses)))
        simp [hpasses]

section Start

variable (hstart : tree.entry? start = some .directory)
include hstart

lemma passes_nil : tree.Passes start [] := ⟨by simp, by simpa [Path.way] using hstart⟩

/-- Names lead to a place if all before the last lead through directories. -/
theorem locate_concat_eq_ok_iff {name : String} :
    tree.locate start (names ++ [name]) = .ok place ↔
      (tree.Passes start names ∧ Usable name) ∧ place = Path.follow start (names ++ [name]) := by
  rw [locate, List.dropLast_concat, List.getLast?_concat, Path.follow_append]
  rcases henter : tree.enter start names with fault | directory
  · have hpasses : ¬ tree.Passes start names := not_of_eq_error
      (fun hpasses => (enter_eq_ok_iff hstart).mpr ⟨hpasses, rfl⟩) henter
    simp [hpasses, bind, Except.bind]
  · obtain ⟨hpasses, rfl⟩ := (enter_eq_ok_iff hstart).mp henter
    change step _ name = _ ↔ _
    rw [step_eq_ok_iff, and_iff_right hpasses]
    rfl

theorem locate_eq_ok_iff : tree.locate start names = .ok place ↔
    (tree.Passes start names.dropLast ∧ ∀ name ∈ names, Usable name) ∧
      place = Path.follow start names := by
  rcases List.eq_nil_or_concat names with rfl | ⟨init, last, rfl⟩
  · simp [locate, enter, passes_nil hstart, bind, Except.bind, eq_comm]
  · rw [List.concat_eq_append, locate_concat_eq_ok_iff hstart, List.dropLast_concat,
      List.forall_mem_append, List.forall_mem_singleton]
    constructor
    · rintro ⟨⟨hpasses, hlast⟩, hplace⟩
      exact ⟨⟨hpasses, hpasses.usable, hlast⟩, hplace⟩
    · rintro ⟨⟨hpasses, _, hlast⟩, hplace⟩
      exact ⟨⟨hpasses, hlast⟩, hplace⟩

theorem isDirectory_iff : tree.isDirectory start names ↔ tree.Passes start names := by
  rcases List.eq_nil_or_concat names with rfl | ⟨init, last, rfl⟩
  · have hhere : tree.isDirectory start [] = tree.isDirectoryAt start := rfl
    rw [hhere, isDirectoryAt, hstart]
    exact iff_of_true rfl (passes_nil hstart)
  · rw [List.concat_eq_append, passes_concat_iff, isDirectory]
    rcases hlocate : tree.locate start (init ++ [last]) with fault | place
    · have hreach : ¬ (tree.Passes start init ∧ Usable last) :=
        not_of_eq_error (fun hreach => (locate_concat_eq_ok_iff hstart).mpr ⟨hreach, rfl⟩) hlocate
      simp [hreach]
    · obtain ⟨hreach, rfl⟩ := (locate_concat_eq_ok_iff hstart).mp hlocate
      simp only [hreach, true_and, isDirectoryAt]
      rcases tree.entry? (Path.follow start (init ++ [last])) with _ | _ | _ | _ <;>
        simp [FileEntry.isDirectory]

/-- A directory is there, or it can be made and is put at its place. -/
theorem ensureDirectory_concat_eq_ok_iff {name : String} :
    tree.ensureDirectory start (names ++ [name]) = .ok after ↔
      (tree.Passes start (names ++ [name]) ∧ after = tree) ∨
        ((tree.Passes start names ∧ Usable name) ∧
          tree.entry? (Path.follow start (names ++ [name])) = none ∧
          after = tree.put (Path.follow start (names ++ [name])) .directory) := by
  have hdirectory : tree.isDirectory start (names ++ [name]) ↔
      tree.Passes start (names ++ [name]) := isDirectory_iff hstart
  rw [ensureDirectory, makeDirectory]
  rcases hlocate : tree.locate start (names ++ [name]) with fault | place
  · have hreach : ¬ (tree.Passes start names ∧ Usable name) :=
      not_of_eq_error (fun hreach => (locate_concat_eq_ok_iff hstart).mpr ⟨hreach, rfl⟩) hlocate
    simp [hdirectory, passes_concat_iff, hreach, bind, Except.bind]
  · obtain ⟨hreach, rfl⟩ := (locate_concat_eq_ok_iff hstart).mp hlocate
    rw [passes_concat_iff] at hdirectory ⊢
    simp only [bind, Except.bind, hreach, true_and] at hdirectory ⊢
    cases hentry : tree.entry? (Path.follow start (names ++ [name])) with
    | none => simp [eq_comm]
    | some entry =>
      rw [hentry, Option.some_inj] at hdirectory
      by_cases hkind : entry = .directory <;> simp [hdirectory, hkind, eq_comm]

end Start

lemma Passes.mono (h : tree.Passes place names) (hkeeps : Contents.Keeps tree.entry? after.entry?) :
    after.Passes place names :=
  ⟨h.usable, fun other hother => hkeeps.directory (h.directories other hother)⟩

/-- All directories on the way are there, and nothing else has changed. -/
structure Reached (tree : FileTree) (start : Place) (names : List String) (after : FileTree) :
    Prop where
  passes : after.Passes start names
  contents_eq : after.entry? = Contents.withDirectories tree.entry? (Path.way start names)
  workingDirectory_eq : after.workingDirectory = tree.workingDirectory

/-- After a directory was there or has been made, the way to it leads through directories. -/
theorem reached_of_ensureDirectory (hstart : tree.entry? start = some .directory)
    (hnames : names ≠ []) (h : tree.ensureDirectory start names = .ok after) :
    tree.Reached start names after := by
  obtain ⟨names, name, rfl⟩ := (List.eq_nil_or_concat names).resolve_left hnames
  rw [List.concat_eq_append] at h ⊢
  obtain ⟨hpasses, rfl⟩ | ⟨⟨hpasses, hname⟩, hnone, rfl⟩ :=
    (ensureDirectory_concat_eq_ok_iff hstart).mp h
  · exact ⟨hpasses, (Contents.withDirectories_eq_self hpasses.directories).symm, rfl⟩
  · set last := Path.follow start (names ++ [name]) with hlast
    have hput := tree.entry?_put (by rw [hnone]; exact nofun) .directory
    refine ⟨?_, ?_, rfl⟩
    · have hkeeps : Contents.Keeps tree.entry? ( entry? (tree.put last .directory)) := by
        rw [hput]
        apply Contents.Keeps.update
        intro other hother
        cases hnone.symm.trans hother
      refine passes_concat_iff.mpr ⟨⟨hpasses.mono hkeeps, hname⟩, ?_⟩
      rw [hput, ← hlast, Function.update_self]
    · funext other
      rw [hput, Path.way_concat, ← hlast]
      by_cases hother : other = last
      · simp [Contents.withDirectories, hother, hnone]
      · rw [Function.update_of_ne hother]
        by_cases hway : other ∈ Path.way start names
        · rw [Contents.withDirectories_of_eq_some (hpasses.directories other hway),
            hpasses.directories other hway]
        · rw [Contents.withDirectories_of_notMem (by simp [hway, hother])]

/-- What is left of an attempt to make a directory with all that are missing on the way: if it
succeeds, all of them are there, and if it fails, all up to some enclosing directory. Nothing else
changes. -/
def Leaves (tree : FileTree) (start : Place) (names : List String) :
    Except OsFault Unit × FileTree → Prop
  | (.ok (), after) => tree.Reached start names after
  | (.error _, after) => after.workingDirectory = tree.workingDirectory ∧
      ∃ enclosing, enclosing <+: names.dropLast ∧
        after.entry? = Contents.withDirectories tree.entry? (Path.way start enclosing)

section Leaves

variable (hstart : tree.entry? start = some .directory)
include hstart

lemma reached_start : tree.Reached start [] tree := by
  refine ⟨passes_nil hstart, ?_, rfl⟩
  rw [Contents.withDirectories_eq_self]
  rwa [Path.way, List.forall_mem_singleton]

lemma leaves_unchanged (names : List String) (fault : OsFault) :
    tree.Leaves start names (.error fault, tree) :=
  ⟨rfl, [], List.nil_prefix, (reached_start hstart).contents_eq⟩

theorem leaves_ensureDirectories (names : List String) :
    tree.Leaves start names (tree.ensureDirectories start names) := by
  fun_induction ensureDirectories tree start names with
  | case1 => exact reached_start hstart
  | case2 names hnames made h => exact reached_of_ensureDirectory hstart hnames h
  -- The enclosing directory is missing and cannot be made.
  | case3 names hnames fault made hparent _ ih =>
    rw [hparent] at ih
    obtain ⟨hhere, enclosing, henclosing, hentry⟩ := ih
    refine ⟨hhere, enclosing, henclosing.trans ?_, hentry⟩
    exact (List.dropLast_prefix _).trans (Path.parent_prefix_dropLast names)
  -- The enclosing directory is missing and is made first.
  | case4 names hnames between hparent made hmade _ ih =>
    rw [hparent] at ih
    obtain ⟨hpasses, hentry, hhere⟩ := reached_of_ensureDirectory ih.passes.first hnames hmade
    have hway : Path.way start (Path.parent names) ⊆ Path.way start names :=
      Path.way_subset_of_prefix ((Path.parent_prefix_dropLast names).trans (List.dropLast_prefix names))
    refine ⟨hpasses, ?_, hhere.trans ih.workingDirectory_eq⟩
    rw [hentry, ih.contents_eq, Contents.withDirectories_withDirectories hway]
  -- The directory cannot be made although the enclosing one has been.
  | case5 names hnames between hparent fault _ _ ih =>
    rw [hparent] at ih
    exact ⟨ih.workingDirectory_eq, Path.parent names, Path.parent_prefix_dropLast names,
      ih.contents_eq⟩
  | case6 names hnames fault _ _ => exact leaves_unchanged hstart names fault

lemma ensureDirectories_eq_self (h : tree.Passes start names) :
    tree.ensureDirectories start names = (.ok (), tree) := by
  rw [ensureDirectories]
  split_ifs with hnames
  · rfl
  · obtain ⟨init, last, rfl⟩ := (List.eq_nil_or_concat names).resolve_left hnames
    rw [List.concat_eq_append] at h ⊢
    rw [(ensureDirectory_concat_eq_ok_iff hstart).mpr (.inl ⟨h, rfl⟩)]

end Leaves

/-- A path that a system call takes. -/
def Takes (path : String) : Prop := checkPath path = .ok ()

/-- The place that the path leads to in this tree. -/
abbrev placeOf (tree : FileTree) (path : String) : Place := Path.place tree.workingDirectory path

theorem leaves_createDirectories (tree : FileTree) (path : String) :
    tree.Leaves (tree.startOf path) (Path.names path) (tree.createDirectories path) := by
  rw [createDirectories]
  split_ifs with hempty
  · rw [String.isEmpty_iff.mp hempty]
    exact reached_start (tree.entry?_origin "")
  · rcases hcheck : checkPath path with fault | _
    · exact leaves_unchanged (tree.entry?_origin path) _ fault
    · exact leaves_ensureDirectories (tree.entry?_origin path) _

lemma takes_of_createDirectories (h : tree.createDirectories path = (.ok (), after)) :
    path = "" ∨ Takes path := by
  rw [createDirectories] at h
  split_ifs at h with hempty
  · exact .inl (String.isEmpty_iff.mp hempty)
  · right
    rw [Takes]
    rcases hcheck : checkPath path with fault | _
    · rw [hcheck] at h
      cases h
    · rfl

/-- A directory that is there is not made again. -/
theorem createDirectories_eq_self (htakes : path = "" ∨ Takes path)
    (h : tree.Passes (tree.startOf path) (Path.names path)) :
    tree.createDirectories path = (.ok (), tree) := by
  rw [createDirectories]
  split_ifs with hempty
  · rfl
  · have hcheck : checkPath path = .ok () := by
      refine htakes.resolve_left fun hpath => hempty ?_
      rw [hpath]
      rfl
    rw [hcheck]
    exact ensureDirectories_eq_self (tree.entry?_origin path) h

/-- A file can be written at the end of the path: the way there leads through directories, and if
something is there, it is a file. -/
structure Admits (tree : FileTree) (path : String) : Prop where
  passes : tree.Passes (tree.startOf path) (Path.names path).dropLast
  usable : ∀ name ∈ Path.names path, Usable name
  file : ∀ entry, tree.entry? (tree.placeOf path) = some entry → ∃ content, entry = .file content

/-- A file is written at its place if the way there allows it, and nothing else happens. -/
theorem writeFile_eq_ok_iff {content : ByteArray} : tree.writeFile path content = .ok after ↔
    (Takes path ∧ tree.Admits path) ∧ after = tree.put (tree.placeOf path) (.file content) := by
  rw [writeFile, Takes, find]
  rcases checkPath path with fault | _
  · simp [bind, Except.bind]
  · rcases hlocate : tree.locate (tree.startOf path) (Path.names path) with fault | place
    · have hadmits : ¬ tree.Admits path := not_of_eq_error (fun hadmits =>
        (locate_eq_ok_iff (tree.entry?_origin path)).mpr
          ⟨⟨hadmits.passes, hadmits.usable⟩, rfl⟩) hlocate
      simp [hadmits, bind, Except.bind]
    · obtain ⟨⟨hpasses, husable⟩, rfl⟩ :=
        (locate_eq_ok_iff (tree.entry?_origin path)).mp hlocate
      have hadmits : tree.Admits path ↔
          ∀ entry, tree.entry? (tree.placeOf path) = some entry → ∃ content, entry = .file content :=
        ⟨fun h => h.file, fun h => ⟨hpasses, husable, h⟩⟩
      rw [hadmits, ← Path.place]
      simp only [bind, Except.bind]
      rcases tree.entry? (tree.placeOf path) with _ | _ | _ | _ <;> simp [eq_comm]

lemma Admits.not_directory (h : tree.Admits path) :
    tree.entry? (tree.placeOf path) ≠ some .directory := by
  intro hdirectory
  obtain ⟨content, hcontent⟩ := h.file .directory hdirectory
  cases hcontent

theorem workingDirectory_of_writeFile {content : ByteArray}
    (h : tree.writeFile path content = .ok after) :
    after.workingDirectory = tree.workingDirectory := by
  obtain ⟨_, rfl⟩ := writeFile_eq_ok_iff.mp h
  rfl

theorem entry?_of_writeFile {content : ByteArray} (h : tree.writeFile path content = .ok after) :
    after.entry? = Function.update tree.entry? (tree.placeOf path) (some (.file content)) := by
  obtain ⟨⟨_, hadmits⟩, rfl⟩ := writeFile_eq_ok_iff.mp h
  exact tree.entry?_put hadmits.not_directory _

/-- A file stays a file when it is written over. -/
lemma keeps_of_writeFile {content : ByteArray} (h : tree.writeFile path content = .ok after) :
    Contents.Keeps tree.entry? after.entry? := by
  rw [ entry?_of_writeFile h]
  apply Contents.Keeps.update
  intro entry hentry
  obtain ⟨⟨_, hadmits⟩, _⟩ := writeFile_eq_ok_iff.mp h
  obtain ⟨_, rfl⟩ := hadmits.file entry hentry
  rfl

/-- A file can be written once more after it has been written, as long as it stays a file. -/
lemma admits_of_writeFile {content : ByteArray} {later : FileTree}
    (h : tree.writeFile path content = .ok after)
    (hkeeps : Contents.Keeps after.entry? later.entry?)
    (hhere : later.workingDirectory = tree.workingDirectory) : later.Admits path := by
  have hfirst := keeps_of_writeFile h
  have hentry := entry?_of_writeFile h
  obtain ⟨⟨_, hadmits⟩, _⟩ := writeFile_eq_ok_iff.mp h
  have hpasses := hadmits.passes.mono (hfirst.trans hkeeps)
  constructor
  · rwa [startOf, hhere]
  · exact hadmits.usable
  · intro entry hlater
    have hwritten : after.entry? (tree.placeOf path) = some (.file content) := by
      rw [hentry, Function.update_self]
    obtain ⟨other, hother⟩ := hkeeps.file hwritten
    rw [placeOf, hhere] at hlater
    exact ⟨other, Option.some.inj (hlater.symm.trans hother)⟩

end FileTree

end RelProto
