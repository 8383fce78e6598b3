import RelProto.CommandLine
import RelProto.Config.Document
import RelProto.Output
import RelProto.Reading
import RelProto.Servers

/-! A run: the configuration is loaded, the whole database is read, and only then are files
written. -/
namespace RelProto

/-- Where files go: the directory given to the run, else the configured one, else the current one.
-/
def Config.targetDirectory (config : Config) (outputDirectory : Option String) : String :=
  match outputDirectory with
  | some path => path
  | none => if config.output.path.isEmpty then "." else config.output.path

/-- What is printed once the configuration is known. -/
def Config.readingText (config : Config) : String :=
  versionText ++ "\nReading " ++ config.database.target ++ "\n"

/-- What is printed once the database is read. -/
def Config.generatingText (config : Config) : String :=
  "Generating " ++ config.proto.version.name ++ " schema files\n"

/-- What is printed once the files are written. -/
def Config.writtenText (config : Config) (root : String) (count : Nat) : String :=
  "Wrote " ++ toString count ++ " files under " ++ Path.join root config.proto.path ++ "\n"

/-- What a run prints on both outputs, and its exit status. -/
structure Report where
  output : String
  errors : String
  status : Nat
  deriving DecidableEq

def Report.ofFault (output : String) (fault : Fault) : Report :=
  ⟨output, "error: " ++ fault.message ++ "\n", 1⟩

/-- What a run reports that has printed this output and has ended so. -/
def Report.ofResult (output : String) : Except Fault Unit → Report
  | .ok () => ⟨output, "", 0⟩
  | .error fault => .ofFault output fault

/-- Carries out a command; only one of them has to be `run`. -/
def Command.report {m : Type → Type} [Monad m] (run : String → Option String → m Report) :
    Command → m Report
  | .misuse => return ⟨"", usageText, 2⟩
  | .version => return ⟨versionText, "", 0⟩
  | .help => return ⟨helpText, "", 0⟩
  | .generate path outputDirectory => run path outputDirectory

/-- What a run does to the world around it, besides asking the database. -/
class Host (m : Type → Type) extends Files m where
  print (text : String) : m Unit

namespace Run

section Phases

variable {m : Type → Type} [Monad m] [MonadLiftT (Logged Fault) m] [Host m]

def load (path : String) : m Config := do
  let text ← Files.readFile path
  Logged.ofExcept (Config.ofFile path text)

/-- The phases of a run, one after the other. The whole database is read by `read`. -/
def generate (read : Config → m Database) (path : String) (outputDirectory : Option String) :
    m Unit := do
  let config ← load path
  Host.print config.readingText
  let database ← read config
  Host.print config.generatingText
  let root := config.targetDirectory outputDirectory
  let steps := OutputStep.ofDatabase config.proto root database
  let paths ← OutputStep.performAll config.proto config.generator.embedRelationships steps
  Host.print (config.writtenText root paths.length)

end Phases

/-- A world together with the text printed so far. -/
abbrev Printing (τ : Type) : Type := String × τ

variable {σ α : Type}

/-- An action on the files of a world. -/
def onFiles (action : Action FileTree α) : Action (Printing (FileTree × σ)) α :=
  action.onFirst.onSecond

instance : Host (Action (Printing (FileTree × σ))) where
  readFile path := onFiles (Files.readFile path)
  createDirectories path := onFiles (Files.createDirectories path)
  writeFile path content := onFiles (Files.writeFile path content)
  print text := .modify fun (printed, world) => (printed ++ text, world)

/-- Connects to the configured database and reads it. -/
def readDatabase (connect : DatabaseSettings → Action σ (Catalog σ)) (config : Config) :
    Action σ Database := do
  let catalog ← connect config.database
  catalog.readDatabase config.generator

/-- The phases of a run in a world, with a database that is found there. -/
def phases (connect : DatabaseSettings → Action (FileTree × σ) (Catalog (FileTree × σ)))
    (path : String) (outputDirectory : Option String) : Action (Printing (FileTree × σ)) Unit :=
  generate (fun config => (readDatabase connect config).onSecond) path outputDirectory

/-- Carries out a command in a world. -/
def perform (connect : DatabaseSettings → Action (FileTree × σ) (Catalog (FileTree × σ)))
    (command : Command) : StateM (FileTree × σ) Report :=
  command.report fun path outputDirectory world =>
    let (outcome, output, after) := (phases connect path outputDirectory).run ("", world)
    (.ofResult output outcome.result, after)

end Run

end RelProto
