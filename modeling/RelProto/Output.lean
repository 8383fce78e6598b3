import RelProto.Database
import RelProto.FileTree
import RelProto.ProtoFile

/-! Writing the files of a database: a directory for each schema, and in it a file for each table.
The work is laid out as a list of steps, which are performed until one fails. -/
namespace RelProto

inductive OutputStep where
  | directory (path : String)
  | file (path : String) (table : Table)
  deriving DecidableEq

namespace OutputStep

/-- The steps for one schema, whose directory comes first. -/
def ofSchema (root : String) (schema : Schema) : List OutputStep :=
  let directory := Path.join root schema.name
  .directory directory ::
    schema.tables.map fun table => .file (Path.join directory (table.name ++ ".proto")) table

/-- The steps for all schemas below `root` and the configured path. -/
def ofDatabase (settings : ProtoSettings) (root : String) (database : Database) :
    List OutputStep :=
  database.schemas.flatMap (ofSchema (Path.join root settings.path))

/-- The text of a table's file; the progress is logged and a failure names the table. -/
def content (settings : ProtoSettings) (embed : Bool) (table : Table) : Logged Fault String := do
  .write .info (table.schema ++ "/" ++ table.name ++ ".proto")
  (table.render settings embed).mapError (·.context ("generating " ++ table.qualifiedName))

/-- How writing at a path has ended; a failure names the path. -/
def written (path : String) (result : Except OsFault Unit) : Logged Fault Unit :=
  .ofExcept (result.mapError (·.writing path))

section Perform

variable {m : Type → Type} [Monad m] [MonadLiftT (Logged Fault) m] [Files m]

/-- Performs one step; the path of a file that was written is returned. -/
def perform (settings : ProtoSettings) (embed : Bool) : OutputStep → m (Option String)
  | .directory path => do
    let result ← Files.createDirectories path
    written path result
    return none
  | .file path table => do
    let text ← content settings embed table
    let result ← Files.writeFile path text.toUTF8
    written path result
    return some path

/-- Performs the steps in order, and returns the paths of the written files. -/
def performAll (settings : ProtoSettings) (embed : Bool) : List OutputStep → m (List String)
  | [] => pure []
  | step :: rest => do
    let path ← step.perform settings embed
    let paths ← performAll settings embed rest
    return path.toList ++ paths

end Perform

end OutputStep

/-- Writes every table of the database to `root`, the configured path, the schema and the table. The
paths of the files are returned; two of them are the same path if their components are, whatever the
texts. -/
def Database.generate (database : Database) (settings : ProtoSettings) (embed : Bool)
    (root : String) : Action FileTree (List String) :=
  OutputStep.performAll settings embed (OutputStep.ofDatabase settings root database)

end RelProto
