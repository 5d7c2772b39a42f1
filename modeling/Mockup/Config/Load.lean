import Mockup.Config.Lenient
import Mockup.Text.Path
import Mockup.Toml.Document

/-!
# Loading a configuration

A configuration is laid together out of layers: a file for all environments, a file for the current
one, and variables of the environment.  A later layer counts for more.

* `Surroundings`: the files and the variables;
* `environmentName`: the name of the current environment;
* `Config.ofText`, `Config.load`, `Config.loadFile`: the configuration of a text, of a directory and
  of one file.
-/

namespace Mockup

/-- The files and the environment of a program. -/
structure Surroundings where
  files : String → Option String
  environ : List (String × String)

/-- The name of the current environment, in small letters. -/
def environmentName (environ : List (String × String)) : String :=
  let named := environ.lookup "PROTOTYPER_ENV" <|> environ.lookup "APP_ENV"
  Text.lower (named.getD "development")

/-! ### Variables -/

/-- The prefix, in small letters, of variables with settings. -/
def variablePrefix : String := "prototyper__"

/-- The text with a point for each pair of underscores. -/
def pointed : List Char → List Char
  | '_' :: '_' :: cs => '.' :: pointed cs
  | c :: cs => c :: pointed cs
  | [] => []

/-- The place that a variable names, if it holds a setting. -/
def variablePlace? (name : String) : Option String :=
  let cs := (Text.lower name).toList
  if variablePrefix.toList.isPrefixOf cs then
    some (String.ofList (pointed (cs.drop variablePrefix.length)))
  else none

/-- The setting that the value of a variable stands for. -/
def variableSetting (value : String) : Setting :=
  let word := Text.lower value
  if word = "true" then .bool true
  else if word = "false" then .bool false
  else match Decimal.integer? value with
    | some n => .int n
    | none => match Decimal.real? value with
      | some x => .real x
      | none => .text value

/-- The settings that variables hold. -/
def variableSettings (environ : List (String × String)) : List (String × Setting) :=
  environ.filterMap fun (name, value) =>
    (variablePlace? name).map (·, variableSetting value)

/-- The variables that a configuration may depend on, those that nothing is named after left out. -/
def knownVariables : List String :=
  ["PROTOTYPER_ENV", "APP_ENV"]
  ++ ["SCHEDULER", "SCHEDULER__MAX_CONCURRENCY", "SCHEDULER__TIMEOUT_MS",
      "SCHEDULER__RETRY_ATTEMPTS", "SCHEDULER__RETRY_BASE_DELAY_MS",
      "SCHEDULER__DEPENDENCY_FAILURE_POLICY", "EVENTS", "EVENTS__CHANNEL_CAPACITY", "EXECUTOR",
      "EXECUTOR__SIMULATED_LATENCY_MS", "EXECUTOR__SIMULATED_CONFIDENCE"].map ("PROTOTYPER__" ++ ·)

/-! ### Files -/

/-- The paths at which a file of settings may be found, first one first. -/
def settingsPaths (path : String) : List String :=
  [path, Path.withEnding ".toml" path]

/-- The text of a file of settings. -/
def Surroundings.settingsText? (s : Surroundings) (path : String) : Option String :=
  (settingsPaths path).findSome? s.files

/-- The path of a file in a directory. -/
def pathIn (directory file : String) : String :=
  if directory.isEmpty then file else directory ++ "/" ++ file

/-- The files of settings in a directory, first one first. -/
def settingsFiles (directory environment : String) : List String :=
  [pathIn directory "prototyper.toml",
   pathIn directory ("prototyper." ++ environment ++ ".toml")]

/-- The settings of a text. -/
def settingsOfText (text : String) : Except ConfigFault (List (String × Setting)) :=
  match Toml.parse text with
  | some settings => .ok settings
  | none => .error .unreadable

namespace Config

/-- The configuration that layers come to, the first layer being the lowest. -/
def ofLayers (layers : List (List (String × Setting))) : Except ConfigFault Config :=
  ofSettings (layers.foldl Setting.overlay (.table []))

/-- The configuration of a text. -/
def ofText (text : String) : Except ConfigFault Config := do
  ofLayers [← settingsOfText text]

/-- The configuration of a directory, in which any file may be missing. -/
def load (s : Surroundings) (directory : String) : Except ConfigFault Config := do
  let texts := (settingsFiles directory (environmentName s.environ)).filterMap s.settingsText?
  let layers ← texts.mapM settingsOfText
  ofLayers (layers ++ [variableSettings s.environ])

/-- The configuration of one file, which has to be there. -/
def loadFile (s : Surroundings) (path : String) : Except ConfigFault Config :=
  match s.settingsText? path with
  | none => .error .unreadable
  | some text => do
    ofLayers [← settingsOfText text, variableSettings s.environ]

end Config

end Mockup
