import RelProto.Config.Rules
import RelProto.FileTree
import RelProto.Yaml.Decode

/-! Configurations as documents: a mapping of sections, in which what is left out takes its default.
-/
namespace RelProto

open Yaml (Node Decode)

def DatabaseSettings.decode (node : Node) : Decode DatabaseSettings := do
  let fields ← .fields ["provider", "host", "port", "database", "user", "password"] node
  return {
    provider := ← .field fields "provider" none (.optional (.named DatabaseKind.ofName?))
    host := ← .field fields "host" "" .text
    port := ← .field fields "port" none (.optional .word)
    database := ← .field fields "database" "" .text
    user := ← .field fields "user" "" .text
    password := ← .field fields "password" "" .text }

def OutputSettings.decode (node : Node) : Decode OutputSettings := do
  let fields ← .fields ["path", "suffix", "lang"] node
  return {
    path := ← .field fields "path" "" .text
    suffix := ← .field fields "suffix" "" .text
    language := ← .field fields "lang" "" .text }

def ProtoSettings.decode (node : Node) : Decode ProtoSettings := do
  let fields ← .fields ["path", "java_package", "objc_prefix", "version"] node
  return {
    path := ← .field fields "path" "proto" .text
    javaPackage := ← .field fields "java_package" "" .text
    objcPrefix := ← .field fields "objc_prefix" "" .text
    version := ← .field fields "version" .proto3 (.named ProtoVersion.ofName?) }

/-- Both parts have to be there. -/
def ExcludedColumns.decode (node : Node) : Decode ExcludedColumns := do
  let fields ← .fields ["table", "columns"] node
  return {
    table := ← .required fields "table" .text
    columns := ← .required fields "columns" (.list .text) }

def GeneratorSettings.decode (node : Node) : Decode GeneratorSettings := do
  let fields ←
    .fields ["schemas", "excluded_tables", "excluded_columns", "embed_relationships"] node
  return {
    schemas := ← .field fields "schemas" [] (.list .text)
    excludedTables := ← .field fields "excluded_tables" [] (.list .text)
    excludedColumns := ← .field fields "excluded_columns" [] (.list ExcludedColumns.decode)
    embedRelationships := ← .field fields "embed_relationships" false .flag }

namespace Config

def decode (node : Node) : Decode Config := do
  let fields ← .fields ["database", "output", "proto", "generator"] node
  return {
    database := ← .field fields "database" {} DatabaseSettings.decode
    output := ← .field fields "output" {} OutputSettings.decode
    proto := ← .field fields "proto" {} ProtoSettings.decode
    generator := ← .field fields "generator" {} GeneratorSettings.decode }

/-- The configuration that a document describes. -/
def ofNode? (root : Node) : Option Config := Decode.run decode root

/-- Reads a configuration, which has to satisfy all rules. -/
def ofYaml (text : String) : Except ConfigFault Config := do
  match (Node.ofText? text).bind ofNode? with
  | none => .error .unreadable
  | some config =>
    config.validate
    return config

/-- The configuration in a file of which this was read. -/
def ofFile (path : String) : Except OsFault String → Except Fault Config
  | .error fault =>
    .error ((Fault.invalidConfig fault.message).context ("reading configuration " ++ path))
  | .ok text => (ofYaml text).mapError ConfigFault.fault

/-- Reads the configuration in a file of the tree. -/
def load (tree : FileTree) (path : String) : Except Fault Config := ofFile path (tree.readFile path)

end Config

end RelProto
