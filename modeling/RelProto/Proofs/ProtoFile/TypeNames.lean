import Mathlib.Data.List.Find
import Mathlib.Data.List.Infix
import RelProto.Proofs.ProtoFile

/-! What a suffix does to the name of a type: the mark of an array, or the length or precision in
brackets. Names that their rule knows by the beginning keep their type, and hardly any others do. -/
namespace RelProto

/-- Up to a mark that the beginning does not hold, only the text in front of the mark counts. -/
lemma prefix_append_cons_iff {α : Type} {beginning text rest : List α} {mark : α}
    (hmark : mark ∉ beginning) : beginning <+: text ++ mark :: rest ↔ beginning <+: text := by
  constructor
  · intro h
    obtain hshort | ⟨more, rfl⟩ := List.prefix_or_prefix_of_prefix h (List.prefix_append text _)
    · exact hshort
    · rw [List.prefix_append_right_inj] at h
      cases more with
      | nil => rw [List.append_nil]
      | cons first more =>
        obtain ⟨rfl, _⟩ := List.cons_prefix_cons.mp h
        simp at hmark
  · exact fun h => h.trans (List.prefix_append text _)

namespace ProtoType

namespace Rule

/-- The rule knows the name by its beginning. -/
def begins (rule : Rule) (typeName : String) : Bool :=
  rule.beginnings.any (·.toList.isPrefixOf typeName.toList)

lemma applies_iff {rule : Rule} {typeName : String} :
    rule.applies typeName = true ↔ typeName ∈ rule.names ∨ rule.begins typeName = true := by
  simp [applies, begins]

lemma begins_append {rule : Rule} {typeName suffix : String} {mark : Char} {rest : List Char}
    (hsuffix : suffix.toList = mark :: rest)
    (hmark : ∀ beginning ∈ rule.beginnings, mark ∉ beginning.toList) :
    rule.begins (typeName ++ suffix) = rule.begins typeName := by
  rw [begins, begins, Bool.eq_iff_iff, List.any_eq_true, List.any_eq_true]
  refine exists_congr fun beginning => and_congr_right fun hbeginning => ?_
  rw [List.isPrefixOf_iff_prefix, List.isPrefixOf_iff_prefix, String.toList_append, hsuffix,
    prefix_append_cons_iff (hmark beginning hbeginning)]

end Rule

/-- The rule that decides about the name knows it by its beginning. -/
def KnownByBeginning (typeName : String) : Prop :=
  (rules.find? (·.applies typeName)).any (·.begins typeName) = true

instance (typeName : String) : Decidable (KnownByBeginning typeName) :=
  inferInstanceAs (Decidable (_ = true))

/-- The type of a name if rules are looked up by beginnings alone. -/
def ofBeginning? (typeName : String) : Option ProtoType :=
  (rules.find? (·.begins typeName)).map Rule.type

/-- A rule that knows the name by its beginning is the first one also among those that do. -/
lemma ofBeginning?_of_known {typeName : String} (h : KnownByBeginning typeName) :
    ofBeginning? typeName = ofNative? typeName := by
  obtain ⟨rule, hfound, hbegins⟩ := (Option.any_eq_true _ _).mp h
  obtain ⟨_, before, after, hrules, hbefore⟩ := List.find?_eq_some_iff_append.mp hfound
  have hbegin : rules.find? (·.begins typeName) = some rule := by
    refine List.find?_eq_some_iff_append.mpr ⟨hbegins, before, after, hrules, ?_⟩
    intro earlier hearlier
    have hnot := hbefore earlier hearlier
    rw [Bool.not_eq_true', Bool.eq_false_iff, Ne, Rule.applies_iff] at hnot
    simpa using fun hbegins' => hnot (.inr hbegins')
  rw [ofBeginning?, ofNative?, hfound, hbegin]

/-- A name that its rule knows only as a whole is one of few. -/
lemma mem_names_of_not_known {typeName : String} {type : ProtoType}
    (h : ofNative? typeName = some type) (hknown : ¬ KnownByBeginning typeName) :
    typeName ∈ rules.flatMap Rule.names := by
  obtain ⟨rule, hfound, rfl⟩ := Option.map_eq_some_iff.mp h
  have happlies := List.find?_some hfound
  rcases Rule.applies_iff.mp happlies with hname | hbegins
  · exact List.mem_flatMap.mpr ⟨rule, List.mem_of_find?_eq_some hfound, hname⟩
  · exact absurd (by simp [KnownByBeginning, hfound, hbegins]) hknown

/-- No rule knows any of these names by its beginning and maps it to the same type. -/
lemma ofBeginning?_ne_of_mem_names : ∀ typeName ∈ rules.flatMap Rule.names,
    ¬ KnownByBeginning typeName → ofBeginning? typeName ≠ ofNative? typeName := by
  decide +kernel

theorem ofBeginning?_eq_iff {typeName : String} {type : ProtoType}
    (h : ofNative? typeName = some type) :
    ofBeginning? typeName = some type ↔ KnownByBeginning typeName := by
  constructor
  · intro hbeginning
    by_contra hknown
    exact ofBeginning?_ne_of_mem_names typeName (mem_names_of_not_known h hknown) hknown
      (hbeginning.trans h.symm)
  · intro hknown
    rw [ofBeginning?_of_known hknown, h]

/-- A name with a suffix is known by its beginning only, unless it is listed as a whole. -/
lemma ofNative?_append {typeName suffix : String} {mark : Char} {rest : List Char}
    (hsuffix : suffix.toList = mark :: rest)
    (hmark : ∀ rule ∈ rules, ∀ beginning ∈ rule.beginnings, mark ∉ beginning.toList)
    (hwhole : typeName ++ suffix ∉ rules.flatMap Rule.names) :
    ofNative? (typeName ++ suffix) = ofBeginning? typeName := by
  rw [ofNative?, ofBeginning?]
  congr 1
  apply List.find?_congr
  intro rule hrule
  have hname : typeName ++ suffix ∉ rule.names := fun hname =>
    hwhole (List.mem_flatMap.mpr ⟨rule, hrule, hname⟩)
  rw [Bool.eq_iff_iff, Rule.applies_iff, Rule.begins_append hsuffix (hmark rule hrule),
    or_iff_right hname]

lemma ofNative?_array {typeName : String} (h : typeName ≠ "bigint") :
    ofNative? (typeName ++ "[]") = ofBeginning? typeName := by
  have hlisted : ∀ whole ∈ rules.flatMap Rule.names, '[' ∈ whole.toList → whole = "bigint[]" := by
    decide +kernel
  have hsuffix : "[]".toList = '[' :: [']'] := rfl
  refine ofNative?_append hsuffix (by decide +kernel) fun hwhole => ?_
  have hbigint := hlisted _ hwhole (by simp)
  exact h ((String.append_left_inj "[]").mp hbigint)

lemma ofNative?_parameterized (typeName text : String) :
    ofNative? (typeName ++ "(" ++ text ++ ")") = ofBeginning? typeName := by
  have hlisted : ∀ whole ∈ rules.flatMap Rule.names, '(' ∉ whole.toList := by decide +kernel
  have hsuffix : ("(" ++ (text ++ ")")).toList = '(' :: (text.toList ++ [')']) := by simp
  rw [String.append_assoc, String.append_assoc]
  exact ofNative?_append hsuffix (by decide +kernel) fun hwhole => hlisted _ hwhole (by simp)

/-- Only a name that its rule knows by the beginning keeps its type as the type of an array and with
a length or precision; the array of big integers is listed by itself. A column of such an array type
becomes a repeated field of the element type. -/
theorem ofNative?_suffix_iff {typeName : String} {type : ProtoType}
    (h : ofNative? typeName = some type) :
    (ofNative? (typeName ++ "[]") = some type ↔
      KnownByBeginning typeName ∨ typeName = "bigint") ∧
    (∀ text, ofNative? (typeName ++ "(" ++ text ++ ")") = some type ↔
      KnownByBeginning typeName) ∧
    ∀ column : Column, column.nativeType = typeName ++ "[]" →
      KnownByBeginning typeName ∨ typeName = "bigint" →
      ∃ type?, (Field.mapType (.plain column) : Logged RelationFault _).result = .ok type? ∧
        ∀ version number, Entry.of? version ((number, .plain column), type?) =
          some (.plain .repeated type column.name number) := by
  have harray : ofNative? (typeName ++ "[]") = some type ↔
      KnownByBeginning typeName ∨ typeName = "bigint" := by
    by_cases hbigint : typeName = "bigint"
    · subst hbigint
      have hboth : ofNative? ("bigint" ++ "[]") = ofNative? "bigint" := by decide +kernel
      rw [hboth]
      exact iff_of_true h (.inr rfl)
    · rw [ofNative?_array hbigint, ofBeginning?_eq_iff h, or_iff_left hbigint]
  refine ⟨harray, fun text => ?_, fun column hcolumn hknown => ?_⟩
  · rw [ofNative?_parameterized, ofBeginning?_eq_iff h]
  · refine ⟨_, Field.result_mapType (.plain column), fun version number => ?_⟩
    have hlabel : version.label column = .repeated := by
      have hisArray : column.isArray = true := by simp [Column.isArray, hcolumn]
      rw [ProtoVersion.label, if_pos hisArray]
    rw [Field.of?_type?, Field.entry, hlabel, mapped, hcolumn, harray.mpr hknown]
    rfl

theorem ofNative?_suffix_iff_bigint :
    ofNative? "bigint" = some int64 ∧
    (ofNative? ("bigint" ++ "[]") = some int64 ↔
      KnownByBeginning "bigint" ∨ "bigint" = "bigint") ∧
    (∀ text, ofNative? ("bigint" ++ "(" ++ text ++ ")") = some int64 ↔
      KnownByBeginning "bigint") ∧
    ∀ column : Column, column.nativeType = "bigint" ++ "[]" →
      KnownByBeginning "bigint" ∨ "bigint" = "bigint" →
      ∃ type?, (Field.mapType (.plain column) : Logged RelationFault _).result = .ok type? ∧
        ∀ version number, Entry.of? version ((number, .plain column), type?) =
          some (.plain .repeated int64 column.name number) :=
  ⟨by decide +kernel, ofNative?_suffix_iff (by decide +kernel)⟩

/-- A number of arbitrary precision is known only as a whole, and unknown with a suffix. -/
theorem not_ofNative?_suffix_numeric :
    ofNative? "numeric" = some double ∧ ofNative? ("numeric" ++ "[]") = none ∧
      ofNative? ("numeric" ++ "(" ++ "10,2" ++ ")") = none := by
  decide +kernel

example : (rules.flatMap Rule.names).filter (fun name => ¬ KnownByBeginning name) =
    ["bigint", "bigint[]", "bigserial", "serial8", "smallserial", "serial", "jsonb", "xml", "uuid",
     "money", "numeric", "float8", "double precision", "float", "real", "date", "bytea"] := by
  decide +kernel

end ProtoType

end RelProto
