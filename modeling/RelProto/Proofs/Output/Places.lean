import RelProto.Proofs.FileTree
import RelProto.Proofs.Output.Paths
import RelProto.Proofs.Text.Split

/-! The places that joined paths lead to, and which files of a database share one. Names without a
slash keep the files of different tables apart, as long as their schemas lead to different
directories. -/
namespace RelProto

namespace Path

/-- The names in a text between slashes. -/
lemma names_append_slash (base path : String) :
    names (base ++ "/" ++ path) = names base ++ names path := by
  have htext : (base ++ "/" ++ path).toList = base.toList ++ '/' :: path.toList := by simp
  rw [names, htext, Text.split_append_separator (by rfl), List.filter_append, List.map_append]
  rfl

@[simp] theorem names_empty : names "" = [] := rfl

lemma names_stem_append (base path : String) :
    names (stem base ++ path) = names base ++ names path := by
  rw [stem]
  split_ifs with h
  · rw [Bool.or_eq_true, String.isEmpty_iff] at h
    obtain rfl | hends := h
    · rw [String.empty_append, names_empty, List.nil_append]
    · rw [endsInSlash, beq_iff_eq, List.getLast?_eq_some_iff] at hends
      obtain ⟨init, hinit⟩ := hends
      have hbase : base = String.ofList init ++ "/" ++ "" := by
        rw [String.append_empty, ← String.toList_inj, String.toList_append, String.toList_ofList, hinit]
        rfl
      have hpath : base ++ path = String.ofList init ++ "/" ++ path := by
        rw [hbase, String.append_empty]
      rw [hpath, names_append_slash, hbase, names_append_slash, names_empty, List.append_nil]
  · exact names_append_slash base path

theorem names_join (base path : String) :
    names (join base path) =
      if startsAtRoot path then names path else names base ++ names path := by
  rw [join_eq]
  split_ifs with h
  · rfl
  · exact names_stem_append base path

/-- A text that is one name, or none. -/
def Slashless (text : String) : Prop := '/' ∉ text.toList

instance (text : String) : Decidable (Slashless text) := inferInstanceAs (Decidable (¬ _))

variable {here : Place} {base schema other table : String}

lemma Slashless.startsAtRoot_eq_false (h : Slashless table) : startsAtRoot table = false := by
  rw [startsAtRoot, beq_eq_false_iff_ne]
  intro hhead
  exact h (List.mem_of_head? hhead)

lemma Slashless.beq_eq_false (h : Slashless table) : ∀ c ∈ table.toList, (c == '/') = false := by
  intro c hc
  rw [beq_eq_false_iff_ne]
  rintro rfl
  exact h hc

lemma Slashless.names_eq (h : Slashless table) :
    names table = if table = "" then [] else [table] := by
  rw [names, Text.split_eq_singleton h.beq_eq_false]
  by_cases hempty : table = ""
  · rw [if_pos hempty, hempty]
    rfl
  · simp [hempty]

lemma Slashless.eq_of_names_eq (h : Slashless table) (hother : Slashless other)
    (hnames : names table = names other) : table = other := by
  rw [h.names_eq, hother.names_eq] at hnames
  split_ifs at hnames with htable hempty hempty
  · rw [htable, hempty]
  · exact List.singleton_inj.mp hnames

lemma Slashless.append_proto (h : Slashless table) : Slashless (table ++ ".proto") := by
  rw [Slashless, String.toList_append, List.mem_append, not_or]
  exact ⟨h, by decide⟩

/-- The path of the file of a table. -/
def ofTable (base schema table : String) : String := join (join base schema) (table ++ ".proto")

/-- What the name of a table puts in front of the name of its file. -/
def detour (table : String) : List String := (names (table ++ ".proto")).dropLast

/-- The last name is a proper one: it leads down from where the others lead. -/
lemma exists_last_name (table : String) :
    ∃ last, names (table ++ ".proto") = detour table ++ [last] ∧
      ∀ place, next place last = place ++ [last] := by
  have hproto : Slashless ".proto" := by decide
  obtain ⟨pieces, last, hsplit⟩ := Text.exists_split_append hproto.beq_eq_false table.toList
  have hkept : (last ++ ".proto".toList).isEmpty = false := by simp
  have hnames : names (table ++ ".proto") =
      (pieces.filter (!·.isEmpty)).map String.ofList ++ [String.ofList (last ++ ".proto".toList)] := by
    rw [names, String.toList_append, hsplit, List.filter_append, List.filter_singleton, hkept,
      List.map_append]
    rfl
  refine ⟨String.ofList (last ++ ".proto".toList), ?_, ?_⟩
  · rw [detour, hnames, List.dropLast_concat]
  · intro place
    have hlong : ∀ dots : String, dots.length ≤ 2 → String.ofList (last ++ ".proto".toList) ≠ dots := by
      rintro dots hdots rfl
      have hproto : ".proto".toList.length = 6 := rfl
      rw [String.length_ofList, List.length_append] at hdots
      omega
    rw [next, if_neg (hlong "." (by decide)), if_neg (hlong ".." (by decide))]

lemma startsAtRoot_append_proto (table : String) :
    startsAtRoot (table ++ ".proto") = startsAtRoot table := by
  by_cases htable : table = ""
  · rw [htable]
    rfl
  · exact startsAtRoot_append htable ".proto"

/-- A path below `base` starts where `base` does. -/
lemma startsAtRoot_join (base path : String) :
    startsAtRoot (join base path) = (startsAtRoot path || startsAtRoot base) := by
  rw [join_eq]
  cases h : startsAtRoot path with
  | true => rw [if_pos rfl, h, Bool.true_or]
  | false =>
    rw [if_neg Bool.false_ne_true, below, Bool.false_or]
    by_cases hbase : base = ""
    · rw [stem_eq_empty_iff.mpr hbase, String.empty_append, h, hbase]
      rfl
    · have hstem : stem base ≠ "" := fun hempty => hbase (stem_eq_empty_iff.mp hempty)
      rw [startsAtRoot_append hstem, stem]
      split_ifs
      · rfl
      · exact startsAtRoot_append hbase "/"

/-- A path from the root leads where its names lead from there, and any other one where they lead
from `base`. -/
theorem place_join (here : Place) (base path : String) : place here (join base path) =
    follow (if startsAtRoot path then [] else place here base) (names path) := by
  rw [place, names_join]
  cases h : startsAtRoot path with
  | false =>
    rw [origin, startsAtRoot_join, h, Bool.false_or, if_neg Bool.false_ne_true,
      if_neg Bool.false_ne_true, follow_append]
    rfl
  | true => rw [origin, startsAtRoot_join, h, Bool.true_or, if_pos rfl, if_pos rfl, if_pos rfl]

/-- The file of a table lies in the directory to which its name leads, from the directory of its
schema or from the root. -/
theorem place_ofTable (here : Place) (base schema table : String) :
    ∃ name, place here (ofTable base schema table) =
      follow (if startsAtRoot table then [] else place here (join base schema)) (detour table) ++
        [name] := by
  obtain ⟨last, hnames, hlast⟩ := exists_last_name table
  refine ⟨last, ?_⟩
  rw [ofTable, place_join, startsAtRoot_append_proto, hnames, follow_append, follow_cons, follow_nil,
    hlast]

lemma Slashless.names_join (h : Slashless table) (base : String) :
    names (join base table) = names base ++ names table := by
  rw [Path.names_join, h.startsAtRoot_eq_false]
  rfl

lemma Slashless.names_append_proto (h : Slashless table) :
    names (table ++ ".proto") = [table ++ ".proto"] := by
  rw [h.append_proto.names_eq]
  simp

lemma Slashless.names_ofTable (h : Slashless table) (base schema : String) :
    names (ofTable base schema table) = names (join base schema) ++ [table ++ ".proto"] := by
  rw [ofTable, h.append_proto.names_join, h.names_append_proto]

lemma Slashless.detour_eq_nil (h : Slashless table) : detour table = [] := by
  rw [detour, h.names_append_proto]
  rfl

/-- The file of a table whose name has no slash lies in the directory of the schema. -/
theorem Slashless.place_ofTable (h : Slashless table) (here : Place) (base schema : String) :
    place here (ofTable base schema table) = place here (join base schema) ++ [table ++ ".proto"] := by
  obtain ⟨last, hnames, hlast⟩ := exists_last_name table
  rw [h.detour_eq_nil, h.names_append_proto, List.nil_append, List.singleton_inj] at hnames
  rw [ofTable, Path.place_join, h.append_proto.startsAtRoot_eq_false, h.names_append_proto,
    follow_cons, follow_nil, hnames, hlast]
  rfl

lemma Slashless.place_join_eq_follow (h : Slashless schema) (here : Place) (base : String) :
    place here (join base schema) = follow (place here base) (names schema) := by
  rw [Path.place_join, h.startsAtRoot_eq_false]
  rfl

/-- A schema whose name has no slash has a directory at the place that its name leads to. -/
theorem Slashless.place_join (h : Slashless schema) (here : Place) (base : String) :
    place here (join base schema) =
      if schema = "" then place here base else next (place here base) schema := by
  rw [h.place_join_eq_follow, h.names_eq]
  split_ifs
  · rfl
  · rfl

lemma Slashless.place_join_cases (h : Slashless schema) (here : Place) (base : String) :
    (schema = "" ∨ schema = ".") ∧ place here (join base schema) = place here base ∨
      schema = ".." ∧ place here (join base schema) = (place here base).dropLast ∨
      ¬ (schema = "" ∨ schema = "." ∨ schema = "..") ∧
        place here (join base schema) = place here base ++ [schema] := by
  rw [h.place_join, next]
  by_cases hempty : schema = ""
  · simp [hempty]
  · by_cases hdot : schema = "."
    · simp [hdot]
    · by_cases hdots : schema = ".."
      · simp [hdots]
      · simp [hempty, hdot, hdots]

/-- Two such names lead to one directory only if they are the same, or none of them leads down. -/
theorem place_join_eq_iff (h : Slashless schema) (hother : Slashless other) :
    place here (join base schema) = place here (join base other) ↔
      schema = other ∨ (schema ∈ ["", "."] ∧ other ∈ ["", "."]) ∨
        (place here base = [] ∧ schema ∈ ["", ".", ".."] ∧ other ∈ ["", ".", ".."]) := by
  have hup : (place here base).dropLast = place here base ↔ place here base = [] := by
    rw [← List.length_eq_zero_iff]
    constructor
    · intro hsame
      have hlength := congrArg List.length hsame
      rw [List.length_dropLast] at hlength
      omega
    · intro hroot
      rw [List.length_eq_zero_iff.mp hroot]
      rfl
  have hdown : ∀ name, place here base ++ [name] ≠ (place here base).dropLast := by
    intro name hsame
    have hlength := congrArg List.length hsame
    rw [List.length_append, List.length_dropLast, List.length_singleton] at hlength
    omega
  have hlast : ∀ name name', place here base ++ [name] = place here base ++ [name'] ↔ name = name' := by
    simp
  simp only [List.mem_cons, List.not_mem_nil, or_false]
  obtain ⟨hs, hplace⟩ | ⟨hs, hplace⟩ | ⟨hs, hplace⟩ := h.place_join_cases here base <;>
    obtain ⟨ho, hplace'⟩ | ⟨ho, hplace'⟩ | ⟨ho, hplace'⟩ := hother.place_join_cases here base <;>
      rw [hplace, hplace']
  all_goals grind

/-- What stands in front of the names of a path: the root, or a dot. -/
def front (path : String) : List String :=
  if startsAtRoot path then ["/"] else if (names path).head? = some "." then ["."] else []

/-- What paths are compared by. Dots behind the first name make no difference. -/
def components (path : String) : List String := front path ++ (names path).filter (· ≠ ".")

@[simp] theorem components_empty : components "" = [] := rfl

lemma names_ne_nil {path : String} (hpath : path ≠ "") (hroot : startsAtRoot path = false) :
    names path ≠ [] := by
  rcases hchars : path.toList with _ | ⟨c, rest⟩
  · exact absurd (String.toList_eq_nil_iff.mp hchars) hpath
  · rw [startsAtRoot, hchars, List.head?_cons, beq_eq_false_iff_ne, ne_eq, Option.some_inj] at hroot
    rw [names, hchars, Text.split, if_neg (by simpa using hroot)]
    rcases Text.split (· == '/') rest with _ | ⟨piece, more⟩ <;> simp

lemma front_join (hbase : base ≠ "") (htable : startsAtRoot table = false) :
    front (join base table) = front base := by
  have hroot : startsAtRoot (join base table) = startsAtRoot base := by
    rw [startsAtRoot_join, htable, Bool.false_or]
  rw [front, front, hroot, names_join, htable, if_neg Bool.false_ne_true]
  cases hbelow : startsAtRoot base with
  | true => rfl
  | false =>
    rw [List.head?_append_of_ne_nil _ (names_ne_nil hbase hbelow)]

/-- A path below another one has the components of that one in front of its own, which are its
names. -/
lemma components_join (hbase : base ≠ "") (htable : startsAtRoot table = false) :
    components (join base table) = components base ++ (names table).filter (· ≠ ".") := by
  rw [components, front_join hbase htable, names_join, htable, if_neg Bool.false_ne_true,
    List.filter_append, ← List.append_assoc]
  rfl

/-- The file of a table whose name has no slash lies in the directory of the schema. -/
theorem Slashless.components_ofTable (h : Slashless table) (base schema : String) :
    components (ofTable base schema table) =
      components (join base schema) ++ [table ++ ".proto"] := by
  have hdot : table ++ ".proto" ≠ "." := by
    intro hsame
    have hlength := congrArg String.length hsame
    have hproto : ".proto".length = 6 := rfl
    have hone : ".".length = 1 := rfl
    rw [String.length_append] at hlength
    omega
  have hfile : (names (table ++ ".proto")).filter (· ≠ ".") = [table ++ ".proto"] := by
    rw [h.names_append_proto, List.filter_singleton, decide_eq_true hdot, cond_true]
  have hroot := h.append_proto.startsAtRoot_eq_false
  rw [ofTable]
  by_cases hdirectory : join base schema = ""
  · rw [hdirectory, join_eq, hroot, if_neg Bool.false_ne_true, below, stem_eq_empty_iff.mpr rfl,
      String.empty_append, components, hfile, front, hroot, h.names_append_proto]
    simpa using hdot
  · rw [components_join hdirectory hroot, hfile]

/-- A name by itself is its only component, even if it is a dot. -/
lemma Slashless.components_eq (h : Slashless schema) : components schema = names schema := by
  rw [components, front, h.startsAtRoot_eq_false, if_neg Bool.false_ne_true, h.names_eq]
  by_cases hempty : schema = ""
  · simp [hempty]
  · by_cases hdot : schema = "."
    · simp [hdot]
    · simp [hempty, hdot]

lemma Slashless.filter_names_eq (h : Slashless schema) :
    (names schema).filter (· ≠ ".") = if schema ∈ ["", "."] then [] else [schema] := by
  rw [h.names_eq]
  by_cases hempty : schema = ""
  · simp [hempty]
  · by_cases hdot : schema = "."
    · simp [hdot]
    · simp [hempty, hdot]

/-- Two such names give equal paths only if they are the same, or both name nothing. -/
theorem components_join_eq_iff (h : Slashless schema) (hother : Slashless other) :
    components (join base schema) = components (join base other) ↔
      schema = other ∨ (base ≠ "" ∧ schema ∈ ["", "."] ∧ other ∈ ["", "."]) := by
  by_cases hbase : base = ""
  · have hjoin : ∀ name, Slashless name → join base name = name := by
      intro name hname
      rw [join_eq, hname.startsAtRoot_eq_false, if_neg Bool.false_ne_true, below,
        stem_eq_empty_iff.mpr hbase, String.empty_append]
    rw [hjoin schema h, hjoin other hother, h.components_eq, hother.components_eq]
    constructor
    · intro hsame
      exact .inl (h.eq_of_names_eq hother hsame)
    · rintro (rfl | ⟨hne, _⟩)
      · rfl
      · exact absurd hbase hne
  · rw [components_join hbase h.startsAtRoot_eq_false,
      components_join hbase hother.startsAtRoot_eq_false, List.append_cancel_left_eq,
      h.filter_names_eq, hother.filter_names_eq]
    split_ifs with hschema hname hname
    · exact iff_of_true rfl (.inr ⟨hbase, hschema, hname⟩)
    · refine iff_of_false not_false ?_
      rintro (rfl | ⟨_, _, hdot⟩)
      · exact hname hschema
      · exact hname hdot
    · refine iff_of_false not_false ?_
      rintro (rfl | ⟨_, hdot, _⟩)
      · exact hschema hname
      · exact hschema hdot
    · rw [List.singleton_inj]
      exact ⟨.inl, fun hor => hor.resolve_right fun hdots => hschema hdots.2.1⟩

end Path

namespace Database

/-- The tables with the schemas that list them, in order. -/
def listed (database : Database) : List (Schema × Table) :=
  database.schemas.flatMap fun schema => schema.tables.map (schema, ·)

variable {database : Database}

lemma mem_listed_iff {schema : Schema} {table : Table} :
    (schema, table) ∈ database.listed ↔ schema ∈ database.schemas ∧ table ∈ schema.tables := by
  rw [listed, List.mem_flatMap]
  constructor
  · rintro ⟨other, hother, hmem⟩
    obtain ⟨table, htable, heq⟩ := List.mem_map.mp hmem
    cases heq
    exact ⟨hother, htable⟩
  · rintro ⟨hschema, htable⟩
    exact ⟨schema, hschema, List.mem_map.mpr ⟨table, htable, rfl⟩⟩

theorem map_snd_listed (database : Database) : database.listed.map Prod.snd = database.tables := by
  rw [listed, tables, List.map_flatMap]
  congr 1
  funext schema
  rw [List.map_map]
  exact List.map_id _

/-- The path of the file of a listed table, below `base`. -/
def pathOf (base : String) (entry : Schema × Table) : String :=
  Path.ofTable base entry.1.name entry.2.name

/-- No listed name has a slash. -/
def Slashless (database : Database) : Prop :=
  ∀ entry ∈ database.listed, Path.Slashless entry.1.name ∧ Path.Slashless entry.2.name

instance (database : Database) : Decidable database.Slashless :=
  inferInstanceAs (Decidable (∀ entry ∈ _, _))

lemma nodup_map_of_nodup_map {α β γ : Type} {f : α → β} {g : α → γ} {as : List α}
    (hg : (as.map g).Nodup) (h : ∀ a ∈ as, ∀ b ∈ as, f a = f b → g a = g b) : (as.map f).Nodup := by
  rw [List.Nodup, List.pairwise_map] at hg ⊢
  exact hg.imp_of_mem fun ha hb hne hsame => hne (h _ ha _ hb hsame)

/-- Different tables are written to different paths. -/
theorem nodup_paths (hslashless : database.Slashless)
    (h : (database.listed.map fun entry => (entry.1.name, entry.2.name)).Nodup) (base : String) :
    (database.listed.map (pathOf base)).Nodup := by
  apply nodup_map_of_nodup_map h
  rintro entry hentry other hother hsame
  obtain ⟨hschema, htable⟩ := hslashless entry hentry
  obtain ⟨hschema', htable'⟩ := hslashless other hother
  have hnames := congrArg Path.names hsame
  rw [pathOf, pathOf, htable.names_ofTable, htable'.names_ofTable] at hnames
  obtain ⟨hdirectory, hfile⟩ := List.append_inj' hnames rfl
  rw [hschema.names_join, hschema'.names_join, List.append_cancel_left_eq] at hdirectory
  rw [List.singleton_inj, String.append_left_inj] at hfile
  exact Prod.ext (hschema.eq_of_names_eq hschema' hdirectory) hfile

/-- The files of different tables have different paths exactly if the tables have different names or
their schemas' directories have different paths. -/
theorem nodup_components_iff (hslashless : database.Slashless) (base : String) :
    ((database.listed.map (pathOf base)).map Path.components).Nodup ↔
      (database.listed.map fun entry =>
        (Path.components (Path.join base entry.1.name), entry.2.name)).Nodup := by
  have hfile : ∀ entry ∈ database.listed, Path.components (pathOf base entry) =
      Path.components (Path.join base entry.1.name) ++ [entry.2.name ++ ".proto"] := by
    intro entry hentry
    exact (hslashless entry hentry).2.components_ofTable base entry.1.name
  rw [List.map_map]
  constructor
  · intro h
    apply nodup_map_of_nodup_map h
    rintro entry hentry other hother hsame
    obtain ⟨hdirectory, hname⟩ := Prod.mk.inj hsame
    rw [Function.comp_apply, Function.comp_apply, hfile entry hentry, hfile other hother, hdirectory,
      hname]
  · intro h
    apply nodup_map_of_nodup_map h
    rintro entry hentry other hother hsame
    rw [Function.comp_apply, Function.comp_apply, hfile entry hentry, hfile other hother] at hsame
    obtain ⟨hdirectory, hname⟩ := List.append_inj' hsame rfl
    rw [List.singleton_inj, String.append_left_inj] at hname
    exact Prod.ext hdirectory hname

/-- Tables of different names or in different directories have their files at different places. -/
theorem nodup_places (hslashless : database.Slashless) (here : Place) (base : String)
    (h : (database.listed.map fun entry =>
      (Path.place here (Path.join base entry.1.name), entry.2.name)).Nodup) :
    ((database.listed.map (pathOf base)).map (Path.place here)).Nodup := by
  rw [List.map_map]
  apply nodup_map_of_nodup_map h
  rintro entry hentry other hother hsame
  obtain ⟨_, htable⟩ := hslashless entry hentry
  obtain ⟨_, htable'⟩ := hslashless other hother
  rw [Function.comp_apply, Function.comp_apply, pathOf, pathOf, htable.place_ofTable,
    htable'.place_ofTable] at hsame
  obtain ⟨hdirectory, hfile⟩ := List.append_inj' hsame rfl
  rw [List.singleton_inj, String.append_left_inj] at hfile
  exact Prod.ext hdirectory hfile

end Database

end RelProto
