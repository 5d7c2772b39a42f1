import Mockup.Request.Codec
import Mockup.Task.Basic
import Mockup.Text.Sorted
import Mockup.View.Codec

/-!
# Planning the work

The tasks that lead to a mockup: one for each wanted view, and one that joins the components and
therefore depends on all others.

* `viewTaskIds`: the names of the tasks for views, each name once;
* `taskFor`, `joiningTask`: the tasks themselves;
* `planTasks`: all tasks for the suggested views.
-/

namespace Mockup

def joiningTaskId : String := "integration_setup"

/-- Lists start first, then the views of single rows. -/
def priorityFor : ViewKind → Int
  | .list => 4
  | .detail => 3
  | .form => 3
  | .dashboard => 2
  | .masterDetail => 1

/-- The kind of a view as a part of a task's name. -/
def kindWord (kind : ViewKind) : String :=
  String.ofList (kind.name.toList.map fun c => if c = '-' then '_' else c)

/-- The name of the task for a view, which may occur more than once. -/
def baseTaskId (s : Suggestion) : String :=
  "view_" ++ s.table ++ "_" ++ kindWord s.kind

/-- The names with a number after each repeat, counted from two. -/
def numberRepeats (seen : List String) : List String → List String
  | [] => []
  | name :: names =>
    let earlier := seen.count name
    (if earlier = 0 then name else name ++ "_" ++ toString (earlier + 1))
      :: numberRepeats (name :: seen) names

def viewTaskIds (suggestions : List Suggestion) : List String :=
  numberRepeats [] (suggestions.map baseTaskId)

/-- The instructions for a worker on a view. -/
def viewPrompt (s : Suggestion) (p : Preferences) : String :=
  "Generate a " ++ s.kind.name ++ " view component named " ++ s.name ++ " for the `" ++ s.table
    ++ "` table.\n" ++ s.description
    ++ "\nLayout: " ++ s.layout.kind.title ++ " with " ++ toString s.layout.columns
    ++ " column(s). Components: " ++ ", ".intercalate (s.parts.map (·.id))
    ++ ".\nTheme: " ++ p.colorScheme.title ++ ", style: " ++ p.componentStyle ++ "."
    ++ (if p.includeValidation && s.kind == .form then
        "\nInclude client-side validation for required and length-limited fields." else "")
    ++ (if p.includeRelationships then "\nWire related-data bindings to their source tables."
      else "")
    ++ (if p.generateTests then "\nInclude a unit test for the component." else "")

def taskFor (p : Preferences) (id : String) (s : Suggestion) : Task :=
  { id
    kind := .component
    prompt := viewPrompt s p
    context := .object [("table", .text s.table), ("view_kind", .text s.kind.name),
      ("component_name", .text s.name), ("suggestion", s.toJson), ("preferences", p.toJson)]
    expectedOutput :=
      { format := "component", componentName := some s.name
        requiredFields := ["name", "table", "view_kind", "code"] }
    priority := priorityFor s.kind
    dependencies := [] }

/-- The entry for the component of a view in the context of the joining task. -/
def componentEntry (id : String) (s : Suggestion) : Json :=
  .object [("task_id", .text id), ("name", .text s.name), ("table", .text s.table),
    ("view_kind", .text s.kind.name)]

/-- The task that joins the components for these views. -/
def joiningTask (p : Preferences) (views : List (String × Suggestion)) : Task :=
  { id := joiningTaskId
    kind := .integration
    prompt := "Wire " ++ toString views.length
      ++ " generated component(s) into one application: routes, navigation and shared state."
    context := .object [("components", .list (views.map fun (id, s) => componentEntry id s)),
      ("preferences", p.toJson)]
    expectedOutput :=
      { format := "integration", componentName := none
        requiredFields := ["routes", "navigation", "code"] }
    priority := 1
    dependencies := Text.textSet (views.map (·.1)) }

def wantedViews (p : Preferences) (suggestions : List Suggestion) : List Suggestion :=
  suggestions.filter (p.includes ·.kind)

/-- The tasks for the wanted views, in the order of the views, and the one that joins the
components. -/
def planTasks (p : Preferences) (suggestions : List Suggestion) : List Task :=
  let wanted := wantedViews p suggestions
  let views := (viewTaskIds wanted).zip wanted
  views.map (fun (id, s) => taskFor p id s) ++ [joiningTask p views]

theorem length_numberRepeats (seen names : List String) :
    (numberRepeats seen names).length = names.length := by
  induction names generalizing seen with
  | nil => rfl
  | cons name names ih => simp [numberRepeats, ih]

theorem length_planTasks (p : Preferences) (suggestions : List Suggestion) :
    (planTasks p suggestions).length = (wantedViews p suggestions).length + 1 := by
  simp [planTasks, viewTaskIds, length_numberRepeats]

end Mockup
