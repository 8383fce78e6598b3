/-! The arguments of a run. -/
namespace RelProto

/-- What the arguments ask for. -/
inductive Command where
  | generate (config : String) (outputDirectory : Option String)
  | help
  | version
  | misuse
  deriving DecidableEq

namespace Command

/-- What has been read of the arguments. -/
structure Reading where
  config : Option String := none
  outputDirectory : Option String := none

namespace Reading

/-- The configuration may be named once. -/
def withConfig? (reading : Reading) (path : String) : Option Reading :=
  if path.isEmpty || reading.config.isSome then none
  else some { reading with config := some path }

/-- The output directory may be given once. -/
def withDirectory? (reading : Reading) (path : String) : Option Reading :=
  if path.isEmpty || reading.outputDirectory.isSome then none
  else some { reading with outputDirectory := some path }

def command (reading : Reading) : Command :=
  match reading.config with
  | some config => .generate config reading.outputDirectory
  | none => .misuse

end Reading

/-- Whether an argument is an option. A sole dash is none. -/
def isOption (argument : String) : Bool :=
  argument != "-" && argument.toList.head? == some '-'

/-- An option that needs no value decides as soon as it is read. One letter is enough for it, and
letters after it do not count. -/
def immediate? (argument : String) : Option Command :=
  match argument.toList with
  | '-' :: 'h' :: _ => some .help
  | '-' :: 'V' :: _ => some .version
  | _ =>
    if argument = "--help" then some .help
    else if argument = "--version" then some .version
    else none

/-- The value that an option has in the same argument. -/
def attached? (option argument : String) : Option String :=
  (List.isPrefixOf? (option ++ "=").toList argument.toList).map .ofList

/-- Reads positional arguments. -/
def positional (reading : Reading) : List String → Command
  | [] => reading.command
  | argument :: rest =>
    match reading.withConfig? argument with
    | some reading => positional reading rest
    | none => .misuse

def read (reading : Reading) : List String → Command
  | [] => reading.command
  | argument :: rest =>
    if argument = "--" then positional reading rest
    else if argument = "--out-dir" then
      match rest with
      | value :: rest =>
        if isOption value then .misuse
        else
          match reading.withDirectory? value with
          | some reading => read reading rest
          | none => .misuse
      | [] => .misuse
    else if isOption argument then
      match immediate? argument, attached? "--out-dir" argument with
      | some command, _ => command
      | none, some value =>
        match reading.withDirectory? value with
        | some reading => read reading rest
        | none => .misuse
      | none, none => .misuse
    else
      match reading.withConfig? argument with
      | some reading => read reading rest
      | none => .misuse

/-- The command that the arguments spell. -/
def ofArguments (arguments : List String) : Command := read {} arguments

example : ofArguments ["--out-dir", "gen", "a.yaml"] = .generate "a.yaml" (some "gen") := by
  decide +kernel

end Command

/-- The name of the program with its version. -/
def versionText : String := "dbmap 0.1.0\n"

def usageText : String := "Usage: dbmap [OPTIONS] <CONFIG>\n"

def helpText : String := "Generate protocol buffer schemas from a database catalog

" ++ usageText ++ "
Arguments:
  <CONFIG>  Path to the YAML configuration file

Options:
      --out-dir <OUT_DIR>  Directory the `proto.path` directory is created in [default: " ++
  "`output.path` from the configuration, else the current directory]
  -h, --help               Print help
  -V, --version            Print version
"

end RelProto
