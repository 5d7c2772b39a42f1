import Mockup.Json.Record
import Mockup.Task.Basic

/-!
# Tasks and results as data

* `Task.toJson`: a task as a data value;
* `Settlement.toJson`, `Settlement.reader`: a result as a data value, and back.
-/

namespace Mockup

open Json (Reader record)

namespace WorkKind

def name : WorkKind → String
  | .component => "view_generation"
  | .integration => "integration_setup"

def names : List (String × WorkKind) :=
  [("view_generation", .component), ("integration_setup", .integration)]

end WorkKind

def OutputForm.toJson (e : OutputForm) : Json :=
  .object [("format", .text e.format), ("component_name", .ofOption .text e.componentName),
    ("required_fields", .texts e.requiredFields)]

def Task.toJson (t : Task) : Json :=
  .object [("id", .text t.id), ("kind", .text t.kind.name), ("prompt", .text t.prompt),
    ("context", t.context), ("expected_output", t.expectedOutput.toJson),
    ("priority", .int t.priority), ("dependencies", .texts t.dependencies)]

namespace WorkRecord

def toJson (m : WorkRecord) : Json :=
  .object [("processing_time_ms", .nat m.processingTime),
    ("confidence", .ofOption .real m.confidence), ("attempts", .nat m.attempts)]

def reader : Reader WorkRecord :=
  record "WorkRecord" ["processing_time_ms", "confidence", "attempts"] fun src =>
    WorkRecord.mk <$> src.required "processing_time_ms" .word64
      <*> src.optional "confidence" .real <*> src.required "attempts" .word32

end WorkRecord

namespace Settlement

def toJson (r : Settlement) : Json :=
  .object [("task_id", .text r.taskId), ("kind", .text r.kind.name), ("success", .bool r.success),
    ("output", .ofOption id r.output), ("error", .ofOption .text r.error),
    ("metadata", r.metadata.toJson)]

def reader : Reader Settlement :=
  record "Settlement" ["task_id", "kind", "success", "output", "error", "metadata"] fun src =>
    Settlement.mk <$> src.required "task_id" .text
      <*> src.required "kind" (.variant WorkKind.names) <*> src.required "success" .bool
      <*> src.optional "output" .any <*> src.optional "error" .text
      <*> src.required "metadata" WorkRecord.reader

end Settlement

end Mockup
