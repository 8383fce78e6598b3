import RelProto.Action
import RelProto.Catalog.Script
import RelProto.Config.Document
import RelProto.Fault.Handle
import RelProto.Main
import RelProto.Mysql.Connect
import RelProto.Output
import RelProto.Postgresql.Connect
import RelProto.Reading
import RelProto.Server.Script
import RelProto.Sqlite.Connect
import RelProto.Proofs.Field.Embedding
import RelProto.Proofs.Text.FreshName
import RelProto.Proofs.Field.Layout
import RelProto.Proofs.Field.Names
import RelProto.Proofs.Field.Refusal
import RelProto.Proofs.Field.Naming
import RelProto.Proofs.Field.Growth
import RelProto.Proofs.Grouping
import RelProto.Proofs.Grouping.Building
import RelProto.Proofs.Grouping.Requests
import RelProto.Proofs.CatalogRow
import RelProto.Proofs.CatalogRow.RoundTrip
import RelProto.Proofs.Field.Constraints
import RelProto.Proofs.ProtoFile
import RelProto.Proofs.ProtoFile.Constraints
import RelProto.Proofs.Action
import RelProto.Proofs.Reading
import RelProto.Proofs.Output
import RelProto.Proofs.Field.Pruning
import RelProto.Proofs.Reading.Exclusion
import RelProto.Proofs.ProtoFile.Imports
import RelProto.Proofs.ProtoFile.Unambiguous
import RelProto.Proofs.Reading.ForeignTables
import RelProto.Proofs.Output.Paths
import RelProto.Proofs.Field.Warnings
import RelProto.Proofs.Reading.WellFormed
import RelProto.Proofs.Fault.Contexts
import RelProto.Proofs.Reading.Steady
import RelProto.Proofs.Reading.Walk
import RelProto.Proofs.Reading.FirstFailure
import RelProto.Proofs.Reading.Failures
import RelProto.Proofs.FileTree.Contents
import RelProto.Proofs.FileTree
import RelProto.Proofs.Output.Steps
import RelProto.Proofs.Output.Places
import RelProto.Proofs.Output.Generation
import RelProto.Proofs.Output.Containment
import RelProto.Proofs.Output.Repetition
import RelProto.Proofs.Reading.Invariance
import RelProto.Proofs.Reading.Once
import RelProto.Proofs.Servers
import RelProto.Proofs.Servers.Failures
import RelProto.Proofs.Servers.QueryFailures
import RelProto.Proofs.Config
import RelProto.Proofs.Config.Suffices
import RelProto.Proofs.Yaml.Decode
import RelProto.Proofs.Yaml.Form
import RelProto.Proofs.Config.Form
import RelProto.Proofs.Run
import RelProto.Proofs.ProtoFile.Messages
import RelProto.Proofs.ProtoFile.TypeNames
import RelProto.Proofs.ProtoFile.ImportSections
import RelProto.Proofs.ProtoFile.MessageBody
import RelProto.Proofs.Text.Spelling
import RelProto.Proofs.ProtoFile.Accounting
import RelProto.Proofs.Sqlite.Indexes
import RelProto.Proofs.Sqlite.KeyName
import RelProto.Proofs.Sqlite.ForeignKeys
import RelProto.Proofs.Config.Exclusions
import RelProto.Proofs.Sqlite.Tables
import RelProto.Proofs.Text.Lowercase
import RelProto.Proofs.Sqlite.RowNumbers
