import Mockup.Json.Record
import Mockup.Request.Basic

/-!
# Requests as data

* `Request.toJson`, `Request.reader`: a request as a data value, and back; preferences and changes
  to the scheduling rules have defaults for what is absent.
-/

namespace Mockup

open Json (Reader record)

namespace Preferences

def toJson (p : Preferences) : Json :=
  .object [("include_views", .ofOption (fun ks => .texts (ks.map ViewKind.name)) p.views),
    ("theme_mode", .text p.colorScheme.name), ("component_style", .text p.componentStyle),
    ("include_validation", .bool p.includeValidation),
    ("include_relationships", .bool p.includeRelationships),
    ("generate_tests", .bool p.generateTests)]

def reader : Reader Preferences :=
  let d : Preferences := {}
  record "Preferences" ["include_views", "theme_mode", "component_style",
      "include_validation", "include_relationships", "generate_tests"] fun src =>
    Preferences.mk
      <$> src.defaulted "include_views" (.optional (.list (.variant ViewKind.names))) d.views
      <*> src.defaulted "theme_mode" (.variant ColorScheme.names) d.colorScheme
      <*> src.defaulted "component_style" .text d.componentStyle
      <*> src.defaulted "include_validation" .bool d.includeValidation
      <*> src.defaulted "include_relationships" .bool d.includeRelationships
      <*> src.defaulted "generate_tests" .bool d.generateTests

end Preferences

namespace Overrides

def toJson (o : Overrides) : Json :=
  .object [("max_concurrency", .ofOption .nat o.maxConcurrency),
    ("timeout_ms", .ofOption .nat o.timeout), ("retry_attempts", .ofOption .nat o.retryAttempts)]

def reader : Reader Overrides :=
  record "Overrides" ["max_concurrency", "timeout_ms", "retry_attempts"] fun src =>
    Overrides.mk <$> src.defaulted "max_concurrency" (.optional .size) none
      <*> src.defaulted "timeout_ms" (.optional .word64) none
      <*> src.defaulted "retry_attempts" (.optional .word32) none

end Overrides

namespace Request

def toJson (r : Request) : Json :=
  .object [("dbml_content", .text r.schemaText), ("name", .text r.name),
    ("description", .ofOption .text r.description), ("preferences", r.preferences.toJson),
    ("subagent_config", .ofOption Overrides.toJson r.overrides)]

def reader : Reader Request :=
  record "Request" ["dbml_content", "name", "description", "preferences",
      "subagent_config"] fun src =>
    Request.mk <$> src.required "dbml_content" .text <*> src.required "name" .text
      <*> src.optional "description" .text
      <*> src.defaulted "preferences" Preferences.reader {}
      <*> src.defaulted "subagent_config" (.optional Overrides.reader) none

end Request

end Mockup
