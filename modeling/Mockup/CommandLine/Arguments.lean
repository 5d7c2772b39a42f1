import Mockup.Decimal.Reading
import Mockup.Text.Lines
import Mockup.View.Basic

/-!
# Arguments

The words after the name of the program: one path, and options before or after it.

* `Flag`: the options that take a value, with their names;
* `Arguments`: the arguments of a run;
* `Usage`: a run, a question about the program, or words that make no sense;
* `Usage.ofWords`: reads the words.
-/

namespace Mockup.CommandLine

/-- The options that take a value. -/
inductive Flag where
  | name
  | description
  | views
  | maxConcurrency
  | config
  deriving DecidableEq, Repr

namespace Flag

/-- The options by their long names. -/
def longNames : List (String × Flag) :=
  [("name", .name), ("description", .description), ("views", .views),
   ("max-concurrency", .maxConcurrency), ("config", .config)]

/-- The options by their letters. -/
def letters : List (Char × Flag) :=
  [('n', .name), ('d', .description), ('c', .config)]

end Flag

/-- The arguments of a run.  No kinds of views stand for all of them. -/
structure Arguments where
  schemaPath : String
  name : Option String := none
  description : Option String := none
  views : List ViewKind := []
  maxConcurrency : Option Nat := none
  configPath : Option String := none
  deriving DecidableEq, Repr

/-- A run with its arguments, a request for help or for the version, or a misuse. -/
inductive Usage where
  | run (a : Arguments)
  | help
  | version
  | wrong
  deriving DecidableEq, Repr

/-- The arguments read so far, and the path of the schema once it has been read. -/
structure Draft where
  path : Option String := none
  rest : Arguments := { schemaPath := "" }
  deriving DecidableEq, Repr

namespace Draft

/-- Sets a value that may be set once only. -/
def once {α : Type} (old : Option α) (new : Option α) : Option (Option α) :=
  match old, new with
  | none, some a => some (some a)
  | _, _ => none

def path? (s : String) : Option String :=
  if s.isEmpty then none else some s

/-- The kinds of views in a list with commas. -/
def views? (s : String) : Option (List ViewKind) :=
  (Text.pieces ',' s.toList).mapM fun word => ViewKind.ofText? (String.ofList word)

/-- The draft with a value for an option, if the value makes sense and the option may be set. -/
def set? (d : Draft) (flag : Flag) (value : String) : Option Draft := do
  let a := d.rest
  match flag with
  | .name => return { d with rest := { a with name := ← once a.name (some value) } }
  | .description =>
    return { d with rest := { a with description := ← once a.description (some value) } }
  | .views => return { d with rest := { a with views := a.views ++ (← views? value) } }
  | .maxConcurrency =>
    let n := Decimal.natural? UInt64.size value
    return { d with rest := { a with maxConcurrency := ← once a.maxConcurrency n } }
  | .config =>
    return { d with rest := { a with configPath := ← once a.configPath (path? value) } }

/-- The draft with the path, if there was none. -/
def setPath? (d : Draft) (path : String) : Option Draft := do
  return { d with path := ← once d.path (path? path) }

/-- The usage at the end of the words. -/
def usage (d : Draft) : Usage :=
  match d.path with
  | some path => .run { d.rest with schemaPath := path }
  | none => .wrong

end Draft

/-- The forms of a word: two dashes, an option with the value attached to it, a flag that is
answered at once, an unknown option, and all other words. -/
inductive Word where
  | stop
  | option (flag : Flag) (value : Option String)
  | question (answer : Usage)
  | unknown
  | plain
  deriving DecidableEq, Repr

namespace Word

/-- A word after two dashes: a name, and after an equals sign a value. -/
def long (cs : List Char) : Word :=
  let name := String.ofList (cs.takeWhile (· ≠ '='))
  let value := match cs.dropWhile (· ≠ '=') with
    | '=' :: value => some (String.ofList value)
    | _ => none
  match Flag.longNames.lookup name with
  | some flag => .option flag value
  | none =>
    if value.isSome then .unknown
    else if name = "help" then .question .help
    else if name = "version" then .question .version
    else .unknown

/-- A word after one dash: a letter, and then a value, before which an equals sign may stand. -/
def short (letter : Char) (cs : List Char) : Word :=
  match Flag.letters.lookup letter with
  | some flag => .option flag (match cs with
    | [] => none
    | '=' :: value => some (String.ofList value)
    | value => some (String.ofList value))
  | none =>
    if letter = 'h' then .question .help
    else if letter = 'V' then .question .version
    else .unknown

/-- The form of a word.  One dash alone is a plain word. -/
def ofText (s : String) : Word :=
  match s.toList with
  | ['-', '-'] => .stop
  | '-' :: '-' :: cs => long cs
  | '-' :: letter :: cs => short letter cs
  | _ => .plain

end Word

/-- The words after two dashes, which are paths. -/
def readPaths (d : Draft) : List String → Usage
  | [] => d.usage
  | word :: words => match d.setPath? word with
    | some d => readPaths d words
    | none => .wrong

/-- Reads the words.  An option takes the next word as its value if none is attached to it, unless
that word looks like an option. -/
def readWords (d : Draft) : List String → Usage
  | [] => d.usage
  | word :: words => match Word.ofText word with
    | .stop => readPaths d words
    | .question answer => answer
    | .unknown => .wrong
    | .plain => match d.setPath? word with
      | some d => readWords d words
      | none => .wrong
    | .option flag (some value) => match d.set? flag value with
      | some d => readWords d words
      | none => .wrong
    | .option flag none => match words with
      | [] => .wrong
      | value :: words =>
        if Word.ofText value = .plain then
          match d.set? flag value with
          | some d => readWords d words
          | none => .wrong
        else .wrong

/-- The usage of the words after the name of the program. -/
def Usage.ofWords (words : List String) : Usage :=
  readWords {} words

end Mockup.CommandLine
