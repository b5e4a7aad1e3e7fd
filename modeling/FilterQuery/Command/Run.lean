import FilterQuery.Command.Arguments
import FilterQuery.Compile.Basic
import FilterQuery.Document.ExtendedJson
import FilterQuery.Document.Query
import FilterQuery.Sql.Json

/-!
# The compile command

Settings come from the flags, then the environment, then the configuration file, and last from
defaults. The command prints the predicate of a filter as JSON.

Configuration files may have many formats. Only JSON is described here. How the others are read, and
what is said about a file that cannot be read, are up to the surroundings.
-/

namespace FilterQuery.Command

/-- What surrounds a run: the variables of the environment, the files that can be read, and the
readers of formats. -/
structure Surroundings where
  lookupVariable : String → Option String
  readFile : String → Option String
  /-- The fields of a text in a format other than JSON. -/
  decode : (format text : String) → Option (List (String × JsonValue))
  /-- What the reader of a format says about a text that it cannot read. -/
  complaint : (format text : String) → String

/-- Why a configuration file gives no settings. -/
inductive ConfigFault where
  | unsupported (extension : String)
  | missing
  | malformed (complaint : String)
deriving DecidableEq, Repr

/-- The wording of a fault of the file at a path. -/
def ConfigFault.message (path : String) : ConfigFault → String
  | .unsupported extension => "Unsupported Config Type " ++ Text.quote extension
  | .missing => "open " ++ path ++ ": no such file or directory"
  | .malformed complaint => "While parsing config: " ++ complaint

/-- Why a run prints no predicate. -/
inductive CommandError where
  | arguments (error : ArgumentError)
  | config (path : String) (fault : ConfigFault)
  | unknownBackend (name : String)
  | compile (error : CompileError NoOperands)
  | encode (fault : Sql.JsonFault)
deriving DecidableEq

/-- The wording of an error. -/
def CommandError.message : CommandError → String
  | .arguments error => error.message
  | .config path fault => "read config " ++ path ++ ": " ++ fault.message path
  | .unknownBackend name => "unknown backend " ++ Text.quote name
  | .compile error => error.message NoOperands.message
  | .encode fault => "encode json: " ++ fault.message

/-- The variable of the environment for a flag. Empty variables count as unset. -/
def Surroundings.setting? (surroundings : Surroundings) (name : String) : Option String :=
  (surroundings.lookupVariable name).filter (· ≠ "")

/-- The path of the configuration file, if there is to be one. -/
def configPath? (surroundings : Surroundings) (values : FlagValues) : Option String :=
  (values.config <|> surroundings.setting? "AIPFILTER_CONFIG").filter (· ≠ "")

/-- The extension of the last part of a path, without the dot. -/
def extension (path : String) : String :=
  let name := path.toList.reverse.takeWhile (· != '/')
  if name.contains '.' then String.ofList (name.takeWhile (· != '.')).reverse else ""

/-- The extensions of configuration files. -/
def supportedExtensions : List String :=
  ["json", "toml", "yaml", "yml", "properties", "props", "prop", "hcl", "tfvars", "dotenv", "env",
    "ini"]

/-- The fields of a configuration file with their keys in lower case. -/
abbrev Config := List (String × JsonValue)

/-- The fields of a JSON text. A text of null has none. -/
def jsonFields? (text : String) : Option (List (String × JsonValue)) :=
  match JsonValue.read? text with
  | some (.object fields) => some fields
  | some .null => some []
  | _ => none

/-- The fields of a text in a format. -/
def Surroundings.fields? (surroundings : Surroundings) (format text : String) :
    Option (List (String × JsonValue)) :=
  if format = "json" then jsonFields? text else surroundings.decode format text

/-- The configuration at a path. Its format is the extension of the path. -/
def readConfig (surroundings : Surroundings) (path : String) : Except ConfigFault Config :=
  let format := extension path
  if supportedExtensions.contains format then
    match surroundings.readFile path with
    | none => .error .missing
    | some text =>
      match surroundings.fields? format text with
      | some fields => .ok (lowerKeys fields)
      | none => .error (.malformed (surroundings.complaint format text))
  else .error (.unsupported format)

/-- The configuration of a run, which is empty if there is to be no file. -/
def loadConfig (surroundings : Surroundings) (values : FlagValues) :
    Except CommandError Config :=
  match configPath? surroundings values with
  | none => .ok []
  | some path => (readConfig surroundings path).mapError (CommandError.config path)

/-- A configured value. A value of null counts as unset. -/
def Config.find? (config : Config) (key : String) : Option JsonValue :=
  match config.lookup key with
  | some .null => none
  | value => value

/-- What a run is set to. -/
structure Settings where
  backend : String
  columns : Columns
deriving DecidableEq, Repr

/-- The settings of a run. -/
def Settings.resolve (surroundings : Surroundings) (values : FlagValues) (config : Config) :
    Settings where
  backend :=
    (values.backend <|> surroundings.setting? "AIPFILTER_BACKEND" <|>
      (config.find? "backend").map settingText).getD "mongo"
  columns :=
    ((values.columns.map fun columns => Columns.ofText columns.text) <|>
      (surroundings.setting? "AIPFILTER_COLUMN").map Columns.ofJsonText <|>
      (config.find? "column").map Columns.ofSetting).getD []

/-- The predicate of a filter as query document, on one line. -/
def compileDocument (filter : String) : Except CommandError String :=
  match ((compileText Document.backend filter).run.run ()).1 with
  | .ok document => .ok (Document.extendedJson .relaxed document)
  | .error error => .error (.compile error)

/-- The predicate of a filter as clause, on one line. -/
def compileClause (columns : Columns) (filter : String) : Except CommandError String :=
  match ((compileText (Sql.backend ⟨columns, "p"⟩) filter).run.run 0).1 with
  | .ok clause => clause.json.mapError CommandError.encode
  | .error error => .error (.compile error)

/-- The predicate of a filter for the backend of the settings. -/
def compileWith (settings : Settings) (filter : String) : Except CommandError String :=
  match settings.backend with
  | "mongo" => compileDocument filter
  | "postgresql" => compileClause settings.columns filter
  | name => .error (.unknownBackend name)

/-- The description of the program. -/
def programHelp : String :=
  "aipfilter compiles AIP-160 filter expressions into MongoDB query documents or PostgreSQL " ++
  "WHERE clauses.\n\nUsage:\n  aipfilter [command]\n\nAvailable Commands:\n" ++
  "  compile     Compile a filter for a backend\n" ++
  "  completion  Generate the autocompletion script for the specified shell\n" ++
  "  help        Help about any command\n\nFlags:\n" ++
  "      --config string   Path to a configuration file\n" ++
  "  -h, --help            help for aipfilter\n" ++
  "  -v, --verbose         Log compilation at debug level\n\n" ++
  "Use \"aipfilter [command] --help\" for more information about a command.\n"

/-- The description of the compile command. -/
def compileHelp : String :=
  "Compile a filter for a backend\n\nUsage:\n  aipfilter compile <filter> [flags]\n\nExamples:\n" ++
  "  aipfilter compile 'age >= 18 AND tags:admin'\n" ++
  "  aipfilter compile --backend postgresql --column name=full_name 'name = abc*'\n\nFlags:\n" ++
  "      --backend string          Target backend: mongo or postgresql (default \"mongo\")\n" ++
  "      --column stringToString   Map a filter field to a PostgreSQL column, field=column " ++
  "(default [])\n" ++
  "  -h, --help                    help for compile\n\nGlobal Flags:\n" ++
  "      --config string   Path to a configuration file\n" ++
  "  -v, --verbose         Log compilation at debug level\n"

/-- What a run with some arguments prints. -/
def run (surroundings : Surroundings) (words : List String) : Except CommandError String :=
  match readRequest words with
  | .error error => .error (.arguments error)
  | .ok .describeProgram => .ok programHelp
  | .ok .describeCompile => .ok compileHelp
  | .ok (.compile values filter) => do
    let config ← loadConfig surroundings values
    let line ← compileWith (.resolve surroundings values config) filter
    pure (line ++ "\n")

end FilterQuery.Command
