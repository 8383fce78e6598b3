import RelProto.Config
import RelProto.Field
import RelProto.ProtoType
import RelProto.Text.UpperCamel

/-! The file of one table: a message whose fields are the table's columns and, when foreign keys are
embedded, messages of other tables. -/
namespace RelProto

inductive Label where
  | repeated
  | optional
  | unlabeled
  deriving DecidableEq

def Label.text : Label → String
  | repeated => "repeated "
  | optional => "optional "
  | unlabeled => ""

/-- One field of the message as the file shows it. -/
inductive Entry where
  | plain (label : Label) (type : ProtoType) (name : String) (number : Nat)
  | reference (schema message name : String) (number : Nat) (localKeys : String)
  deriving DecidableEq

def Entry.line : Entry → String
  | plain label type name number =>
    "    " ++ label.text ++ type.name ++ " " ++ name ++ " = " ++ toString number ++ ";"
  | reference schema message name number localKeys =>
    "    optional " ++ schema ++ "." ++ message ++ " " ++ name ++ " = " ++ toString number
      ++ "; // => " ++ localKeys

structure ProtoFile where
  version : ProtoVersion
  package : String
  javaPackage : String
  message : String
  objcPrefix : String
  foreignImports : List String
  typeImports : List String
  entries : List Entry
  deriving DecidableEq

namespace ProtoFile

def header : List String :=
  ["//-------------------------------------------------------------------",
   "// This file is automatically generated from the database schema.",
   "// ---- DO NOT MAKE CHANGES DIRECTLY TO THIS FILE! ----",
   ""]

/-- Import lines under a comment; nothing when there is nothing to import. -/
def importSection (comment : String) (paths : List String) : List String :=
  if paths.isEmpty then []
  else [comment, ""] ++ paths.map (fun path => "import \"" ++ path ++ "\";") ++ [""]

def lines (file : ProtoFile) : List String :=
  header ++
  ["syntax = \"" ++ file.version.name ++ "\";",
   "",
   "package " ++ file.package ++ ";",
   "",
   "option cc_enable_arenas = true;",
   "option java_package = \"" ++ file.javaPackage ++ "." ++ file.package ++ "\";",
   "option java_outer_classname = \"" ++ file.message ++ "Proto\";",
   "option objc_class_prefix = \"" ++ file.objcPrefix ++ "\";",
   ""] ++
  importSection "// Foreign Key Imports" file.foreignImports ++
  importSection "// Other Datatype Imports" file.typeImports ++
  ["message " ++ file.message ++ " \x7b"] ++
  file.entries.map Entry.line ++
  ["\x7d"]

/-- The text of the file; every line ends with a line feed. -/
def text (file : ProtoFile) : String := String.join (file.lines.map (· ++ "\n"))

end ProtoFile

/-- Keeps the first occurrence of each text. -/
def distinct (texts : List String) : List String := go [] texts
where
  go (seen : List String) : List String → List String
    | [] => []
    | s :: rest => if seen.contains s then go seen rest else s :: go (s :: seen) rest

/-- The label of a column's own field. -/
def ProtoVersion.label (version : ProtoVersion) (column : Column) : Label :=
  if column.isArray then .repeated
  else if version.requiresLabel then .optional
  else .unlabeled

namespace Field

/-- The type of a plain field; a reference has none. -/
def mapType {ε : Type} : Field → Logged ε (Option ProtoType)
  | plain column => some <$> ProtoType.ofNative column.nativeType
  | reference .. => return none

def foreignImport? : Field → Option String
  | plain _ => none
  | reference _ ⟨relation, _⟩ _ =>
    some (relation.foreignSchema ++ "/" ++ relation.foreignTable ++ ".proto")

end Field

/-- The entry of a numbered field with its type. A plain field without a type has no entry. -/
def Entry.of? (version : ProtoVersion) : (Nat × Field) × Option ProtoType → Option Entry
  | ((number, .reference _ target name), _) =>
    some (.reference target.relation.foreignSchema (Text.upperCamel target.relation.foreignTable) name
      number target.localKeys)
  | ((number, .plain column), some type) =>
    some (.plain (version.label column) type column.name number)
  | ((_, .plain _), none) => none

/-- The file of a table with these fields, each of which is paired with its type. -/
def ProtoFile.of (table : Table) (settings : ProtoSettings) (fields : List Field)
    (types : List (Option ProtoType)) : ProtoFile where
  version := settings.version
  package := table.schema
  javaPackage := settings.javaPackage
  message := Text.upperCamel table.name
  objcPrefix := settings.objcPrefix
  foreignImports := distinct (fields.filterMap Field.foreignImport?)
  typeImports := distinct ((types.filterMap id).filterMap ProtoType.importPath?)
  entries := ((numberFields fields).zip types).filterMap (Entry.of? settings.version)

namespace Table

/-- The fields of the table's message. -/
def fields (table : Table) (embed : Bool) : Logged RelationFault (List Field) :=
  if embed then table.resolvedFields else .ok table.plainFields

def protoFile (table : Table) (settings : ProtoSettings) (embed : Bool) :
    Logged RelationFault ProtoFile := do
  let fields ← table.fields embed
  let types ← fields.mapM Field.mapType
  return .of table settings fields types

/-- The text of the table's file. -/
def render (table : Table) (settings : ProtoSettings) (embed : Bool) : Logged Fault String :=
  ProtoFile.text <$> (table.protoFile settings embed).mapError RelationFault.fault

end Table

end RelProto
