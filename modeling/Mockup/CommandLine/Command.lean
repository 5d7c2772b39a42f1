import Mockup.CommandLine.Arguments
import Mockup.Config.Load
import Mockup.Generation.Generator

/-!
# The command

* `Complaint`: a failure of the program, with its text;
* `neededFiles`: the files that a run may read;
* `execute`: a run of the program.
-/

namespace Mockup.CommandLine

/-- A failure of the program, with its cause if there is one. -/
structure Complaint where
  message : String
  cause : Option String := none
  deriving DecidableEq, Repr

def Complaint.text (c : Complaint) : String :=
  let cause := match c.cause with
    | some cause => "\n\nCaused by:\n    " ++ cause
    | none => ""
  "Error: " ++ c.message ++ cause

def Complaint.ofFailure (f : Failure) : Complaint :=
  match f with
  | .parse error => ⟨f.message, some error.message⟩
  | .review errors => ⟨"schema is invalid (" ++ toString errors.length ++ " error(s))", none⟩
  | .run fault => ⟨f.message, some fault.message⟩

/-- The text for `--help`. -/
def usageText : String :=
  "Generate a UI prototype from a DBML schema\n\n"
    ++ "Usage: prototyper [OPTIONS] <SCHEMA>\n\n"
    ++ "Arguments:\n  <SCHEMA>  DBML schema file\n\n"
    ++ "Options:\n"
    ++ "  -n, --name <NAME>                        Prototype name (defaults to the file stem)\n"
    ++ "  -d, --description <DESCRIPTION>          Prototype description\n"
    ++ "      --views <VIEWS>                      Comma-separated view kinds to generate "
    ++ "(list,detail,form,dashboard,master-detail)\n"
    ++ "      --max-concurrency <MAX_CONCURRENCY>  Override the scheduler concurrency cap\n"
    ++ "  -c, --config <CONFIG>                    Configuration file "
    ++ "(default: config/prototyper.toml if present)\n"
    ++ "  -h, --help                               Print help\n"
    ++ "  -V, --version                            Print version"

def versionText : String := "prototyper 0.1.0"

/-- The directory that is searched for files of settings. -/
def configDirectory : String := "config"

/-- The files that a run may look at. -/
def neededFiles (a : Arguments) (environ : List (String × String)) : List String :=
  let settings := match a.configPath with
    | some path => [path]
    | none => settingsFiles configDirectory (environmentName environ)
  a.schemaPath :: settings.flatMap settingsPaths

def configFor (s : Surroundings) (a : Arguments) : Except ConfigFault Config :=
  match a.configPath with
  | some path => Config.loadFile s path
  | none => Config.load s configDirectory

/-- The request of the arguments. -/
def requestFor (a : Arguments) (schemaText : String) : Request :=
  { schemaText
    name := a.name.getD ((Path.stem? a.schemaPath).getD "prototype")
    description := a.description
    preferences := { views := if a.views.isEmpty then none else some a.views }
    overrides := a.maxConcurrency.map fun n => { maxConcurrency := some n } }

/-- A run of the program: the mockup as it was stored, or a complaint. -/
def execute (s : Surroundings) (a : Arguments) (ticket : Ticket) :
    Except Complaint StoredMockup := do
  let config ← (configFor s a).mapError fun fault =>
    ⟨"failed to load configuration", some fault.message⟩
  let text ← match s.files a.schemaPath with
    | some text => .ok text
    | none => .error ⟨"failed to read " ++ a.schemaPath, some "No such file or directory"⟩
  let generator ← (Generator.builtin? config).mapError fun fault => ⟨fault.message, none⟩
  match (generator.run {} ticket (requestFor a text) {}).outcome with
  | .ok outcome => .ok outcome.stored
  | .error failure => .error (.ofFailure failure)

end Mockup.CommandLine
