import RelProto.Config
import RelProto.Fault

/-! What a configuration has to satisfy before it is used. The first rule that it breaks, in the
order of the sections, is reported. -/
namespace RelProto

/-- Why a configuration is refused. -/
inductive ConfigFault where
  | unreadable
  | providerMissing
  | databaseMissing
  | hostMissing (provider : DatabaseKind)
  | userMissing (provider : DatabaseKind)
  | portZero
  | protoPathMissing
  | schemasMissing
  | emptySchema
  | emptyExcludedTable
  | unqualifiedTable (table : String)
  | emptyExcludedColumn (table : String)
  deriving DecidableEq

namespace ConfigFault

def message : ConfigFault → String
  | unreadable => "<yaml>"
  | providerMissing => "database.provider is required"
  | databaseMissing => "database.database is required"
  | hostMissing provider => "database.host is required for " ++ provider.name
  | userMissing provider => "database.user is required for " ++ provider.name
  | portZero => "database.port must be at least 1"
  | protoPathMissing => "proto.path is required"
  | schemasMissing => "generator.schemas must name at least one schema"
  | emptySchema => "generator.schemas contains an empty name"
  | emptyExcludedTable => "generator.excluded_tables contains an empty name"
  | unqualifiedTable table =>
    "generator.excluded_columns table must be `schema.table`, got '" ++ table ++ "'"
  | emptyExcludedColumn table =>
    "generator.excluded_columns for '" ++ table ++ "' contains an empty column name"

def fault (cause : ConfigFault) : Fault := .invalidConfig cause.message

end ConfigFault

/-- Refuses with `cause` if the condition holds. -/
def refuseIf (condition : Bool) (cause : ConfigFault) : Except ConfigFault Unit :=
  if condition then .error cause else .ok ()

/-- A database server needs a host, a user and a port that is not zero. -/
def DatabaseSettings.validateServer (settings : DatabaseSettings) (provider : DatabaseKind) :
    Except ConfigFault Unit := do
  refuseIf settings.host.isEmpty (.hostMissing provider)
  refuseIf settings.user.isEmpty (.userMissing provider)
  refuseIf (settings.port == some 0) .portZero

def DatabaseSettings.validate (settings : DatabaseSettings) : Except ConfigFault Unit :=
  match settings.provider with
  | none => .error .providerMissing
  | some provider => do
    refuseIf settings.database.isEmpty .databaseMissing
    if provider = .sqlite then pure () else settings.validateServer provider

/-- A name with something before and after its first dot. -/
def isQualified (name : String) : Bool :=
  match name.toList.span (· != '.') with
  | (schema, _ :: table) => !schema.isEmpty && !table.isEmpty
  | (_, []) => false

def ExcludedColumns.validate (entry : ExcludedColumns) : Except ConfigFault Unit := do
  refuseIf (!isQualified entry.table) (.unqualifiedTable entry.table)
  refuseIf (entry.columns.any String.isEmpty) (.emptyExcludedColumn entry.table)

def GeneratorSettings.validate (settings : GeneratorSettings) : Except ConfigFault Unit := do
  refuseIf settings.schemas.isEmpty .schemasMissing
  refuseIf (settings.schemas.any String.isEmpty) .emptySchema
  refuseIf (settings.excludedTables.any String.isEmpty) .emptyExcludedTable
  settings.excludedColumns.forM ExcludedColumns.validate

def Config.validate (config : Config) : Except ConfigFault Unit := do
  config.database.validate
  refuseIf config.proto.path.isEmpty .protoPathMissing
  config.generator.validate

example : isQualified "public.user" = true ∧ isQualified "user" = false ∧
    isQualified "a.b.c" = true ∧ isQualified ".b" = false := by decide +kernel

end RelProto
