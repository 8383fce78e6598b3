import Mathlib.Data.Fintype.Basic
import RelProto.Proofs.Text.Word
import RelProto.ProtoFile

/-! The parts of a file can be read back from its text, whatever the settings are, and those of an
entry from its line, as long as no name runs into the punctuation behind it. -/
namespace RelProto

open Text (IsWord isWordCharacter)

instance : Fintype Label where
  elems := {.repeated, .optional, .unlabeled}
  complete label := by cases label <;> decide

instance : Fintype ProtoType where
  elems := {.int32, .int64, .bool, .string, .double, .float64, .bytes, .timestamp}
  complete type := by cases type <;> decide

namespace Entry

variable {label label' : Label} {type type' : ProtoType} {number : Nat}

lemma line_plain (label : Label) (type : ProtoType) (name : String) (number : Nat) :
    (plain label type name number).line =
      "    " ++ label.text ++ type.name ++ " " ++ name ++ " = " ++ toString number ++ ";" := rfl

lemma line_reference (schema message name : String) (number : Nat) (localKeys : String) :
    (reference schema message name number localKeys).line =
      "    optional " ++ schema ++ "." ++ message ++ " " ++ name ++ " = " ++ toString number ++
        "; // => " ++ localKeys := rfl

/-- What a plain entry shows in front of its name. -/
def plainHead (label : Label) (type : ProtoType) : String := label.text ++ type.name ++ " "

/-- No label is missed and no type is cut short: the texts are a prefix code. -/
lemma plainHead_prefixFree : ∀ label type label' type',
    (plainHead label type).toList <+: (plainHead label' type').toList →
      label = label' ∧ type = type' := by
  decide +kernel

lemma plainHead_append_inj {x y : String}
    (h : plainHead label type ++ x = plainHead label' type' ++ y) :
    label = label' ∧ type = type' ∧ x = y := by
  have hlists := congrArg String.toList h
  rw [String.toList_append, String.toList_append] at hlists
  have hhead := hlists ▸ List.prefix_append (plainHead label type).toList x.toList
  have hhead' := List.prefix_append (plainHead label' type').toList y.toList
  have hsame : label = label' ∧ type = type' := by
    rcases List.prefix_or_prefix_of_prefix hhead hhead' with hprefix | hprefix
    · exact plainHead_prefixFree _ _ _ _ hprefix
    · exact (plainHead_prefixFree _ _ _ _ hprefix).imp Eq.symm Eq.symm
  obtain ⟨rfl, rfl⟩ := hsame
  exact ⟨rfl, rfl, (String.append_right_inj _).mp h⟩

section Plain

variable {name name' : String} (hname : IsWord name)
include hname

/-- A plain entry is one line, and not that of a reference: it has no slash. -/
lemma notMem_line_plain {c : Char} (hc : c = '\n' ∨ c = '/') :
    c ∉ (plain label type name number).line.toList := by
  have hword : isWordCharacter c = false ∧ c.isAlphanum = false := by
    rcases hc with rfl | rfl <;> decide
  have hlabel : c ∉ label.text.toList := by
    rcases hc with rfl | rfl <;> cases label <;> decide
  have htype : c ∉ type.name.toList := by
    rcases hc with rfl | rfl <;> cases type <;> decide
  have hname := hname.notMem hword.1
  have hnumber : c ∉ (toString number).toList := Text.notMem_toString hword.2
  simp only [line_plain, String.toList_append, List.mem_append, hlabel, htype, hname, hnumber]
  rcases hc with rfl | rfl <;> decide

lemma plain_line_inj (hname' : IsWord name') (h : (plain label type name number).line =
      (plain label' type' name' number).line) : label = label' ∧ type = type' ∧ name = name' := by
  have hline : ∀ (label : Label) (type : ProtoType) (name : String),
      (plain label type name number).line =
        "    " ++ (plainHead label type ++ (name ++ (" = " ++ (toString number ++ ";")))) := by
    intro label type name
    simp only [line_plain, plainHead, String.append_assoc]
  rw [hline, hline, String.append_right_inj] at h
  obtain ⟨hlabel, htype, hrest⟩ := plainHead_append_inj h
  have hspace : isWordCharacter ' ' = false := by decide
  exact ⟨hlabel, htype, (Text.append_separator_inj (by rfl) (hname.notMem hspace)
    (hname'.notMem hspace) hrest).1⟩

end Plain

section Reference

variable {schema schema' message message' name name' localKeys localKeys' : String}

lemma slash_mem_line_reference :
    '/' ∈ (reference schema message name number localKeys).line.toList := by
  rw [line_reference]
  simp

lemma notMem_line_reference (hschema : '\n' ∉ schema.toList) (hmessage : '\n' ∉ message.toList)
    (hname : '\n' ∉ name.toList) (hkeys : '\n' ∉ localKeys.toList) :
    '\n' ∉ (reference schema message name number localKeys).line.toList := by
  have hnumber : '\n' ∉ (toString number).toList := Text.notMem_toString (by decide)
  simp only [line_reference, String.toList_append, List.mem_append, hschema, hmessage, hname, hkeys,
    hnumber]
  decide

lemma reference_line_inj (hschema : '.' ∉ schema.toList) (hschema' : '.' ∉ schema'.toList)
    (hmessage : ' ' ∉ message.toList) (hmessage' : ' ' ∉ message'.toList)
    (hname : ' ' ∉ name.toList) (hname' : ' ' ∉ name'.toList)
    (h : (reference schema message name number localKeys).line =
      (reference schema' message' name' number localKeys').line) :
    schema = schema' ∧ message = message' ∧ name = name' ∧ localKeys = localKeys' := by
  simp only [line_reference, String.append_assoc, String.append_right_inj] at h
  obtain ⟨hschema, h⟩ := Text.append_separator_inj (by rfl) hschema hschema' h
  obtain ⟨hmessage, h⟩ := Text.append_separator_inj (by rfl) hmessage hmessage' h
  obtain ⟨hname, h⟩ := Text.append_separator_inj (by rfl) hname hname' h
  exact ⟨hschema, hmessage, hname, by simpa only [String.append_right_inj] using h⟩

end Reference

end Entry

namespace ProtoFile

/-- What the file shows below its options. -/
def body (file : ProtoFile) : List String :=
  importSection "// Foreign Key Imports" file.foreignImports ++
  (importSection "// Other Datatype Imports" file.typeImports ++
  (("message " ++ file.message ++ " \x7b") :: (file.entries.map Entry.line ++ ["\x7d"])))

/-- The names end where the punctuation behind them begins, and lines end where they are meant to. -/
structure Legible (file : ProtoFile) : Prop where
  package : ';' ∉ file.package.toList
  message : '"' ∉ file.message.toList
  lines : ∀ line ∈ file.body, '\n' ∉ line.toList

section Sections

variable {comment : String} {paths paths' rest rest' : List String}

lemma importSection_of_ne_nil (h : paths ≠ []) :
    importSection comment paths =
      [comment, ""] ++ (paths.map (fun path => "import \"" ++ path ++ "\";") ++ [""]) := by
  rw [importSection, if_neg (by simpa using h)]
  rfl

lemma notMem_of_mem_importSection (hcomment : '\n' ∉ comment.toList)
    (hpaths : ∀ path ∈ paths, '\n' ∉ path.toList) :
    ∀ line ∈ importSection comment paths, '\n' ∉ line.toList := by
  intro line hline
  by_cases hempty : paths = []
  · rw [hempty] at hline
    cases hline
  · rw [importSection_of_ne_nil hempty] at hline
    simp only [List.mem_append, List.mem_cons, List.not_mem_nil, List.mem_map, or_false] at hline
    obtain (rfl | rfl) | ⟨path, hpath, rfl⟩ | rfl := hline
    · exact hcomment
    · decide
    · have hpath := hpaths path hpath
      simp [hpath]
    · decide

lemma notMem_imports : "" ∉ paths.map (fun path => "import \"" ++ path ++ "\";") := by
  intro hmem
  obtain ⟨path, _, hempty⟩ := List.mem_map.mp hmem
  have hlength := congrArg String.length hempty
  simp at hlength

/-- An empty line ends the imports, and a section that is left out cannot be mistaken for one, since
no other line is its comment. -/
lemma importSection_append_inj (hrest : rest.head? ≠ some comment)
    (hrest' : rest'.head? ≠ some comment)
    (h : importSection comment paths ++ rest = importSection comment paths' ++ rest') :
    paths = paths' ∧ rest = rest' := by
  by_cases hempty : paths = []
  · by_cases hempty' : paths' = []
    · rw [hempty, hempty'] at h ⊢
      exact ⟨rfl, h⟩
    · rw [hempty, importSection_of_ne_nil hempty'] at h
      exact absurd (congrArg List.head? h) hrest
  · by_cases hempty' : paths' = []
    · rw [hempty', importSection_of_ne_nil hempty] at h
      exact absurd (congrArg List.head? h).symm hrest'
    · rw [importSection_of_ne_nil hempty, importSection_of_ne_nil hempty'] at h
      simp only [List.append_assoc, List.append_cancel_left_eq] at h
      obtain ⟨himports, hback⟩ := append_cons_inj notMem_imports notMem_imports h
      refine ⟨List.map_injective_iff.mpr ?_ himports, hback⟩
      intro path path' himport
      exact (String.append_right_inj _).mp ((String.append_left_inj _).mp himport)

end Sections

variable {file file' : ProtoFile}

lemma lines_eq (file : ProtoFile) :
    file.lines = header ++
      ("syntax = \"" ++ file.version.name ++ "\";") :: "" ::
      ("package " ++ file.package ++ ";") :: "" ::
      "option cc_enable_arenas = true;" ::
      ("option java_package = \"" ++ file.javaPackage ++ "." ++ file.package ++ "\";") ::
      ("option java_outer_classname = \"" ++ file.message ++ "Proto\";") ::
      ("option objc_class_prefix = \"" ++ file.objcPrefix ++ "\";") :: "" :: file.body := by
  simp only [lines, body, List.append_assoc, List.cons_append, List.nil_append]

/-- The text of a legible file determines all but the parts that come from the settings. -/
theorem eq_of_text_eq (hversion : file.version = file'.version)
    (hjava : file.javaPackage = file'.javaPackage) (hobjc : file.objcPrefix = file'.objcPrefix)
    (hfile : file.Legible) (hfile' : file'.Legible) (h : file.text = file'.text) :
    file.package = file'.package ∧ file.message = file'.message ∧ file.body = file'.body := by
  have hquote : ∀ name rest : String,
      name ++ ("Proto\";" ++ rest) = name ++ "Proto" ++ ("\";" ++ rest) := by
    intro name rest
    have hproto : "Proto\";" = "Proto" ++ "\";" := rfl
    rw [hproto, String.append_assoc, String.append_assoc]
  have hclass : ∀ {file : ProtoFile}, file.Legible → '"' ∉ (file.message ++ "Proto").toList := by
    intro file hfile
    simp [hfile.message]
  simp only [text, lines_eq, List.map_append, List.map_cons, String.join_append, String.join_cons,
    hversion, hjava, hobjc, String.append_assoc, String.append_right_inj] at h
  obtain ⟨hpackage, hoptions⟩ := Text.append_separator_inj (by rfl) hfile.package hfile'.package h
  simp only [hpackage, String.append_right_inj] at hoptions
  rw [hquote, hquote] at hoptions
  obtain ⟨hmessage, hbody⟩ :=
    Text.append_separator_inj (by rfl) (hclass hfile) (hclass hfile') hoptions
  simp only [String.append_right_inj] at hbody
  exact ⟨hpackage, (String.append_left_inj "Proto").mp hmessage,
    Text.eq_of_join_lines_eq hfile.lines hfile'.lines hbody⟩

lemma head?_message_ne {comment : String} (hcomment : comment.toList.head? = some '/')
    (message : String) (rest : List String) :
    (("message " ++ message ++ " \x7b") :: rest).head? ≠ some comment := by
  intro h
  rw [List.head?_cons, Option.some_inj] at h
  rw [← h] at hcomment
  simp at hcomment

/-- The lines below the options determine the imports and the lines of the entries. -/
theorem eq_of_body_eq (h : file.body = file'.body) :
    file.foreignImports = file'.foreignImports ∧
      file.entries.map Entry.line = file'.entries.map Entry.line := by
  have hnext : ∀ file : ProtoFile, (importSection "// Other Datatype Imports" file.typeImports ++
      (("message " ++ file.message ++ " \x7b") :: (file.entries.map Entry.line ++ ["\x7d"]))).head? ≠
        some "// Foreign Key Imports" := by
    intro file
    by_cases hempty : file.typeImports = []
    · rw [hempty]
      exact head?_message_ne (by rfl) _ _
    · rw [importSection_of_ne_nil hempty]
      simp
  obtain ⟨hforeign, hrest⟩ := importSection_append_inj (hnext file) (hnext file') h
  have hmessage := head?_message_ne (by rfl : "// Other Datatype Imports".toList.head? = some '/')
  obtain ⟨_, hrest⟩ := importSection_append_inj (hmessage _ _) (hmessage _ _) hrest
  exact ⟨hforeign, List.append_cancel_right (List.cons.inj hrest).2⟩

end ProtoFile

end RelProto
