import SeedGate.Config
import SeedGate.EnvFile
import SeedGate.FileTree
import SeedGate.Setting.Reading
import SeedGate.Setting.Wrapped
import SeedGate.Toml.Document

/-!
# Loading a configuration

A configuration comes from three layers: what is standard, a TOML file, and the
variables of the environment, each over the one before it. First an environment
file, the nearest `.env`, adds variables to the environment; so what it says counts
like a variable. The TOML file is the one that the variable `RANDOM_CONFIG_PATH`
names, or else `config/random.toml`, if there is such a file.

The limit is set by the variables whose names are `RANDOM_MAX_REQUEST_LEN` but for
blanks and case, the last of them winning (`Load.fromVariables`), or else by the top
level of the file (`Load.fromFile`).

Loading fails (`Load.Failure`) if what sets the limit is no limit, and also, whatever
the variables say, if the file makes no sense. It gives up for good (`Load.Panic`) over
an assignment that cannot be made, and over a variable whose value cannot even be read.
-/

namespace SeedGate

namespace Config

namespace Load

/-- Where a setting comes from. -/
inductive Origin where
  /-- The variables of the environment. -/
  | variables
  /-- A TOML file, its path as it is shown. -/
  | file (path : List Char)
  deriving DecidableEq, Repr

/-- The origin in words. -/
def Origin.words : Origin → String
  | .variables => "`RANDOM_` environment variable(s)"
  | .file path => String.ofList path ++ " TOML file"

/-- What the limit is called there. -/
def Origin.keyOfLimit : Origin → String
  | .variables => "MAX_REQUEST_LEN"
  | .file _ => "default.max_request_len"

/-- Why there is no configuration. -/
inductive Failure where
  /-- The TOML file is not text. -/
  | notText (path : List Char)
  /-- The TOML file is malformed, or marked. -/
  | malformed (path : List Char)
  /-- What the limit is set to is none. -/
  | misfit (misfit : Setting.Misfit) (origin : Origin)
  deriving DecidableEq, Repr

/-- The failure in words. -/
def Failure.message : Failure → String
  | .notText path =>
    "stream did not contain valid UTF-8\n in " ++ (Origin.file path).words
  | .malformed _ => "TOML parse error"
  | .misfit m origin =>
    m.message ++ " for key \"" ++ origin.keyOfLimit ++ "\" in " ++ origin.words

/-- Why loading gave up for good. -/
inductive Panic where
  /-- The environment file assigns a value that no variable can have. -/
  | unsettable (unsettable : EnvFile.Unsettable)
  /-- A text in the value of a variable was to be cut in the middle of a character. -/
  | cut (cut : Text.Cut)
  deriving DecidableEq, Repr

/-- The last words of a loading that gave up. -/
def Panic.message : Panic → String
  | .unsettable u => u.message
  | .cut c => c.message

/-! ## Variables -/

/-- What the names of variables that configure something begin with. -/
def variableStart : List Char := "RANDOM_".toList

/-- The name of the limit. -/
def limitName : List Char := "max_request_len".toList

/-- What would be configured by the variable that says where the TOML file is. -/
def pathName : List Char := "config_path".toList

/-- What a variable configures: the parts of its name between points, after what all
    such names begin with, in lower case and without blanks at the ends. -/
def configured? (name : List Char) : Option (List (List Char)) :=
  let trimmed := Text.trim name
  let start := trimmed.take variableStart.length
  let rest := trimmed.drop variableStart.length
  if Text.sameIgnoringCase start variableStart && !Text.sameIgnoringCase rest pathName then
    let parts := Text.split '.' (Text.trim rest)
    if parts.contains [] then none else some (parts.map (·.map Text.lowerAscii))
  else none

/-- What a variable sets the limit to, if it does. A name that goes on after a point makes
    it a map. The value is read whatever the variable configures. -/
def settingOf? (v : Environment.Variable) : Except Text.Cut (Option Setting) :=
  match configured? v.name with
  | none => .ok none
  | some parts =>
    (Setting.ofText v.value.shown).map fun setting =>
      match parts with
      | [name] => if name = limitName then some setting else none
      | name :: _ :: _ => if name = limitName then some .map else none
      | [] => none

/-- What the variables set the limit to; the last of them decides. -/
def fromVariables (env : Environment) : Except Text.Cut (Option Setting) :=
  (env.mapM settingOf?).map fun settings => (settings.filterMap id).getLast?

/-! ## The file -/

/-- The variable that says where the TOML file is. -/
def pathVariable : List Char := "RANDOM_CONFIG_PATH".toList

/-- Where the TOML file is unless a variable says so. -/
def standardPath : List Char := "config/random.toml".toList

/-- The TOML file to load in a directory, if there is one. -/
def file? (tree : FileTree) (directory : Place) (env : Environment) : Option FileTree.Found :=
  tree.nearest? directory ((env.read? pathVariable).getD standardPath)

/-- What a file sets the limit to, the path being the one to show. -/
def fromFile (path : List Char) (contents : Bytes) : Except Failure (Option Setting) :=
  match Utf8.decode? contents with
  | none => .error (.notText path)
  | some text =>
    match Toml.read text with
    | none => .error (.malformed path)
    | some table =>
      if table.isMarked then .error (.malformed path) else .ok (table.setting? limitName)

/-! ## Layers -/

/-- The configuration in which the limit is what it has been set to. -/
def ofSetting (setting : Setting) (origin : Origin) : Except Failure Config :=
  match setting.limit with
  | .ok limit => .ok ⟨limit⟩
  | .error m => .error (.misfit m origin)

/-- What a file sets the limit to, if there is a file and it does. -/
def fromFile? (tree : FileTree) (directory : Place) (env : Environment) :
    Except Failure (Option (Setting × Origin)) :=
  match file? tree directory env with
  | none => .ok none
  | some found =>
    let path := Path.shownFrom directory found.path
    (fromFile path found.contents).map (·.map (·, Origin.file path))

/-- The configuration in an environment to which the environment file has been
    added: what the variables say, or else the file, or else the standard. -/
def layered (tree : FileTree) (directory : Place) (env : Environment) :
    Except Panic (Except Failure Config) := do
  let inVariables? ← (fromVariables env).mapError .cut
  return do
    let inFile? ← fromFile? tree directory env
    match (inVariables?.map (·, Origin.variables)).or inFile? with
    | some (setting, origin) => ofSetting setting origin
    | none => .ok standard

/-- The name of environment files. -/
def envFileName : List Char := ".env".toList

/-- What comes of the nearest environment file. -/
def prepared (tree : FileTree) (directory : Place) (env : Environment) : EnvFile.Loaded :=
  match tree.nearest? directory envFileName with
  | some found => EnvFile.load found.contents env
  | none => ⟨env, none⟩

end Load

/-- What loading leads to. -/
structure Loaded where
  /-- The configuration, or why there is none; unless loading gave up. -/
  result : Except Load.Panic (Except Load.Failure Config)
  /-- The environment afterwards. -/
  environment : Environment

/-- Loads the configuration in a directory and an environment. -/
def load (tree : FileTree) (directory : Place) (env : Environment) : Loaded :=
  let prepared := Load.prepared tree directory env
  match prepared.unsettable? with
  | some unsettable => ⟨.error (.unsettable unsettable), prepared.environment⟩
  | none => ⟨Load.layered tree directory prepared.environment, prepared.environment⟩

end Config

end SeedGate
