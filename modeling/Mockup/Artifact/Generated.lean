import Mockup.Json.Record
import Mockup.View.Basic

/-!
# Generated components and routes

* `ComponentCode`: the code of one component;
* `Integration`: the routes that join all components;
* `toJson` and `reader` for both.
-/

namespace Mockup

open Json (Reader record)

/-- The code of the component for one view, with its imports and its tests. -/
structure ComponentCode where
  name : String
  table : String
  viewKind : ViewKind
  code : String
  imports : List String
  tests : Option String
  deriving DecidableEq, Repr

namespace ComponentCode

def toJson (c : ComponentCode) : Json :=
  .object [("name", .text c.name), ("table", .text c.table), ("view_kind", .text c.viewKind.name),
    ("code", .text c.code), ("imports", .texts c.imports), ("tests", .ofOption .text c.tests)]

def reader : Reader ComponentCode :=
  record "GeneratedComponent" ["name", "table", "view_kind", "code", "imports", "tests"] fun src =>
    ComponentCode.mk <$> src.required "name" .text <*> src.required "table" .text
      <*> src.required "view_kind" (.variant ViewKind.names) <*> src.required "code" .text
      <*> src.defaulted "imports" (.list .text) []
      <*> src.defaulted "tests" (.optional .text) none

end ComponentCode

/-- A path and the name of the component that is shown there. -/
structure Route where
  path : String
  component : String
  deriving DecidableEq, Repr

namespace Route

def toJson (r : Route) : Json :=
  .object [("path", .text r.path), ("component", .text r.component)]

def reader : Reader Route :=
  record "RouteEntry" ["path", "component"] fun src =>
    Route.mk <$> src.required "path" .text <*> src.required "component" .text

end Route

/-- The routes to all components, the entries of the menu, and the code for both. -/
structure Integration where
  routes : List Route
  navigation : List String
  code : String
  deriving DecidableEq, Repr

namespace Integration

def toJson (b : Integration) : Json :=
  .object [("routes", .list (b.routes.map Route.toJson)), ("navigation", .texts b.navigation),
    ("code", .text b.code)]

def reader : Reader Integration :=
  record "IntegrationBundle" ["routes", "navigation", "code"] fun src =>
    Integration.mk <$> src.required "routes" (.list Route.reader)
      <*> src.required "navigation" (.list .text) <*> src.required "code" .text

end Integration

end Mockup
