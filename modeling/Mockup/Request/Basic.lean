import Mockup.Config.Basic
import Mockup.View.Basic

/-!
# Requests

* `Preferences`: the kinds of views, their style and their features;
* `Overrides`: changes to the scheduling rules for one run, with `Overrides.apply`;
* `Request`: a schema text, a name and all of these.
-/

namespace Mockup

/-- Dark on light, light on dark, or the choice of the reader's device. -/
inductive ColorScheme where
  | light
  | dark
  | auto
  deriving DecidableEq, Repr

namespace ColorScheme

def name : ColorScheme → String
  | .light => "light"
  | .dark => "dark"
  | .auto => "auto"

/-- The name of the mode with a capital, as prompts give it. -/
def title : ColorScheme → String
  | .light => "Light"
  | .dark => "Dark"
  | .auto => "Auto"

def names : List (String × ColorScheme) :=
  [("light", .light), ("dark", .dark), ("auto", .auto)]

end ColorScheme

/-- The wishes of a user for the views.  Without a list of kinds all of them are wanted. -/
structure Preferences where
  views : Option (List ViewKind) := none
  colorScheme : ColorScheme := .light
  componentStyle : String := "modern"
  includeValidation : Bool := true
  includeRelationships : Bool := true
  generateTests : Bool := false
  deriving DecidableEq, Repr

/-- This kind of view is wanted. -/
def Preferences.includes (p : Preferences) (kind : ViewKind) : Bool :=
  p.views.all (·.contains kind)

/-- Changes to the scheduling rules for one run. -/
structure Overrides where
  maxConcurrency : Option Nat := none
  timeout : Option Nat := none
  retryAttempts : Option Nat := none
  deriving DecidableEq, Repr

/-- The rules with the changes made; all else stays. -/
def Overrides.apply (o : Overrides) (c : SchedulerRules) : SchedulerRules :=
  { c with
    maxConcurrency := o.maxConcurrency.getD c.maxConcurrency
    timeout := o.timeout.getD c.timeout
    retryAttempts := o.retryAttempts.getD c.retryAttempts }

/-- The request of a user. -/
structure Request where
  schemaText : String
  name : String
  description : Option String := none
  preferences : Preferences := {}
  overrides : Option Overrides := none
  deriving DecidableEq, Repr

/-- The scheduling rules of the request, from those that hold for all requests. -/
def Request.schedulerRules (r : Request) (base : SchedulerRules) : SchedulerRules :=
  match r.overrides with
  | some o => o.apply base
  | none => base

end Mockup
