import RelProto.Log

/-! Field types of messages and the native column types that map to them. -/
namespace RelProto

inductive ProtoType where
  | int32
  | int64
  | bool
  | string
  | double
  | float64
  | bytes
  | timestamp
  deriving DecidableEq

namespace ProtoType

def name : ProtoType → String
  | int32 => "int32"
  | int64 => "int64"
  | bool => "bool"
  | string => "string"
  | double => "double"
  | float64 => "float64"
  | bytes => "bytes"
  | timestamp => "google.protobuf.Timestamp"

/-- The file that a file using the type imports. -/
def importPath? : ProtoType → Option String
  | timestamp => some "google/protobuf/timestamp.proto"
  | _ => none

/-- Names that map to one type: whole names, and beginnings of names. -/
structure Rule where
  names : List String
  beginnings : List String
  type : ProtoType

def Rule.applies (rule : Rule) (typeName : String) : Bool :=
  rule.names.contains typeName || rule.beginnings.any (·.toList.isPrefixOf typeName.toList)

/-- The first rule that applies decides. A timestamp is told apart from a time of day, and binary
JSON from JSON text, by standing first. -/
def rules : List Rule := [
  ⟨["bigint", "bigint[]", "bigserial", "serial8"], [], int64⟩,
  ⟨["int2", "smallserial", "serial"], ["int", "bit", "smallint"], int32⟩,
  ⟨[], ["bool"], bool⟩,
  ⟨["jsonb"], [], bytes⟩,
  ⟨[], ["json"], string⟩,
  ⟨["xml", "uuid"], ["char", "varchar", "text"], string⟩,
  ⟨["money", "numeric", "float8", "double precision"], ["number", "decimal"], double⟩,
  ⟨["float", "real"], [], float64⟩,
  ⟨[], ["timestamp"], timestamp⟩,
  ⟨["date"], ["time"], int64⟩,
  ⟨["bytea"], [], bytes⟩]

def ofNative? (typeName : String) : Option ProtoType :=
  (rules.find? (·.applies typeName)).map Rule.type

/-- Maps every name; one that no rule knows becomes `bytes`, with a warning. -/
def ofNative {ε : Type} (typeName : String) : Logged ε ProtoType :=
  match ofNative? typeName with
  | some type => .ok type
  | none => do
    .warn ("failed to map native type `" ++ typeName ++ "` to protobuf, using `bytes`")
    pure bytes

example : ofNative? "character varying" = some string := by decide +kernel
example : ofNative? "timestamptz" = some timestamp := by decide +kernel
example : ofNative? "time without time zone" = some int64 := by decide +kernel
example : ofNative? "BIGINT" = none := by decide +kernel

end ProtoType

end RelProto
