import Mockup.Artifact.Assemble
import Mockup.Schema.Codec

/-!
# Mockups as data

* `Merged.toJson`: merged results as a data value;
* `Artifact.toJson`: a finished mockup as a data value.
-/

namespace Mockup

def MissingOutput.toJson (f : MissingOutput) : Json :=
  .object [("task_id", .text f.taskId), ("error", .text f.error)]

namespace Merged

/-- The figures.  All that `merge` gives has an average; the average of any other value is null. -/
def statsJson (m : Merged) : Json :=
  .object [("total", .nat m.total), ("successful", .nat m.successful), ("failed", .nat m.failed),
    ("average_processing_time_ms", .ofOption .real (m.averageTime.toOption.getD none))]

def failuresJson (m : Merged) : Json :=
  .list (m.failures.map MissingOutput.toJson)

def integrationJson (m : Merged) : Json :=
  .ofOption Integration.toJson m.integration

def toJson (m : Merged) : Json :=
  .object [("components", .list (m.components.map ComponentCode.toJson)),
    ("integration", m.integrationJson), ("failures", m.failuresJson), ("stats", m.statsJson)]

end Merged

def Column.summaryJson (c : Column) : Json :=
  .object [("name", .text c.name), ("data_type", .text c.dataType),
    ("primary_key", .bool c.primaryKey),
    ("references", .ofOption (fun r => .text (r.table ++ "." ++ r.column)) c.references)]

def Table.summaryJson (t : Table) : Json :=
  .object [("name", .text t.name), ("columns", .list (t.columns.map Column.summaryJson))]

namespace Artifact

def schemaJson (a : Artifact) : Json :=
  .object [("dbml", .text a.schemaText), ("tables", .list (a.schema.tables.map Table.summaryJson))]

def themeJson (a : Artifact) : Json :=
  .object [("mode", .text a.colorScheme.name), ("component_style", .text a.componentStyle)]

/-- The components by key, the theme, and what has no field of its own under `custom`. -/
def configurationJson (a : Artifact) : Json :=
  .object [
    ("components", .object (a.components.map fun (key, c) => (key, c.toJson))),
    ("theme", a.themeJson),
    ("custom", .object [("integration", a.merged.integrationJson), ("stats", a.merged.statsJson),
      ("failures", a.merged.failuresJson), ("parsed_schema", a.schema.toJson)])]

def toJson (a : Artifact) : Json :=
  .object [("name", .text a.name), ("description", .text a.description),
    ("original_schema", a.schemaJson), ("configuration", a.configurationJson)]

end Artifact

end Mockup
