import Mockup.Artifact.Generated
import Mockup.Task.Attempt

/-!
# Rendering

The output that the built-in worker hands back, made from nothing but the task.

* `componentFor`: the component for one view;
* `integrationFor`: the routes to the components that the task lists;
* `outputFor`: the one or the other, as data.
-/

namespace Mockup

/-- The value under a key, or the absent value. -/
def valueAt (key : String) (v : Json) : Json :=
  (v.member? key).getD .null

/-- A text that the context of a task has to hold. -/
def contextText (task : Task) (key : String) : Except AttemptError String :=
  match (valueAt key task.context).asText? with
  | some s => .ok s
  | none => .error
      (.permanent ("task " ++ task.id ++ " context is missing '" ++ key ++ "'"))

/-- The kind of view that the context of a task names. -/
def contextKind (task : Task) : Except AttemptError ViewKind := do
  let text ← contextText task "view_kind"
  match ViewKind.ofText? text with
  | some kind => .ok kind
  | none => .error (.permanent (ViewKind.unknownMessage text))

/-- The names of the parts of the view that the context describes; what has no name is left out. -/
def slotIds (context : Json) : List String :=
  let parts := (valueAt "components" (valueAt "suggestion" context)).asList?.getD []
  parts.filterMap fun part => (valueAt "id" part).asText?

def componentCode (name table : String) (kind : ViewKind) (slots : List String) : String :=
  "export function " ++ name ++ "(\x7b data \x7d) \x7b\n  return (\n    <View kind=\"" ++ kind.name
    ++ "\" source=\"" ++ table ++ "\">\n"
    ++ "\n".intercalate (slots.map fun id => "      <Slot id=\"" ++ id ++ "\" />")
    ++ "\n    </View>\n  );\n\x7d\n"

def testCode (name : String) : String :=
  "test('" ++ name ++ " renders', () => \x7b\n  render(<" ++ name
    ++ " data=\x7b[]\x7d />);\n\x7d);\n"

/-- The context asks for tests. -/
def wantsTests (context : Json) : Bool :=
  match valueAt "generate_tests" (valueAt "preferences" context) with
  | .bool b => b
  | _ => false

/-- The component for one view. -/
def componentFor (task : Task) : Except AttemptError ComponentCode := do
  let name ← contextText task "component_name"
  let table ← contextText task "table"
  let kind ← contextKind task
  return {
    name, table
    viewKind := kind
    code := componentCode name table kind (slotIds task.context)
    imports := ["View", "Slot"]
    tests := if wantsTests task.context then some (testCode name) else none }

/-- The table of a component that the context lists, and the route to it. -/
def routeOf? (entry : Json) : Option (String × Route) := do
  let name ← (valueAt "name" entry).asText?
  let table ← (valueAt "table" entry).asText?
  let view ← (valueAt "view_kind" entry).asText?
  return (table, ⟨"/" ++ table ++ "/" ++ view, name⟩)

/-- The texts without repeats, each where it is first. -/
def firstOccurrences (ss : List String) : List String :=
  ss.foldl (fun seen s => if s ∈ seen then seen else seen ++ [s]) []

def routesCode (routes : List Route) : String :=
  "export const routes = [\n"
    ++ "\n".intercalate (routes.map fun r =>
      "  \x7b path: '" ++ r.path ++ "', component: " ++ r.component ++ " \x7d,")
    ++ "\n];\n"

/-- The routes to the components that the context lists; what has no name, table or kind is left
out. -/
def integrationFor (task : Task) : Integration :=
  let entries := ((valueAt "components" task.context).asList?.getD []).filterMap routeOf?
  let routes := entries.map (·.2)
  { routes, navigation := firstOccurrences (entries.map (·.1)), code := routesCode routes }

/-- The output of a task. -/
def outputFor (task : Task) : Except AttemptError Json :=
  match task.kind with
  | .component => (componentFor task).map ComponentCode.toJson
  | .integration => .ok (integrationFor task).toJson

end Mockup
