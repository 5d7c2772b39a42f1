import Mockup.Json.Basic
import Mockup.Progress.Tracker

/-!
# Reports as data

* `Report.toJson`: a report of progress as a data value.
-/

namespace Mockup

def Report.members (r : Report) : List (String × Json) :=
  [("stage", .text r.stage.name), ("percent", .nat r.percent), ("message", .text r.message),
   ("error", .ofOption .text r.error)]

def Report.toJson (r : Report) : Json :=
  .object r.members

end Mockup
