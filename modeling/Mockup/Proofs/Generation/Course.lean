import Mockup.Proofs.Generation.Session
import Mockup.Proofs.Schedule.Classification
import Mockup.Proofs.Schedule.Outputs

/-!
# The courses that a run for a request can take

`Generator.run` follows one course.  Here workers are arbitrary, attempts end in any order, and
the run may be called off at any time, which is noticed at any of the places where the generator
looks.

* `Generator.Course`: the runs for a request that can happen;
* `Generator.course_run`: `Generator.run` is one of them;
* `Generator.conclude_cases`: the cases of a run once all tasks have settled;
* `Generator.Course.steps_eq`: the steps of a run, in order;
* `Generator.Course.of_ok`: the answer of a run that ends well;
* `Outcome.IsAssembled`: the answer is assembled from rendered outputs, with
  `Generator.Course.isAssembled` and `Generator.isAssembled_of_run`;
* `Generator.run_succeeds`: if nobody calls it off and the work on every task ends well, a run does.
-/

namespace Mockup

/-- The milestone with which a run ends that has this outcome. -/
def Generation.ClosedBy : Except Failure Outcome → Milestone → Prop
  | .ok _, closing => ∃ message, closing = .completed message
  | .error failure, closing => closing = .failed failure.message

namespace Generator

/-- The first steps of every run. -/
def openingSteps : List Step :=
  [entering .reading "Validating and parsing schema"]

/-- The steps of a run up to the end of its tasks. -/
def runningSteps (schema : Schema) (job : Schedule.Job) (run : Schedule.Run) : List Step :=
  openingSteps ++ planningSteps schema job
    ++ settlingSteps job.tasks.length 0 (Schedule.completions run.trace)

section Course

variable (g : Generator) (store : Store) (ticket : Ticket) (request : Request)
  (cancellation : Schedule.Cancellation)

/-- The possible runs for a request: the schema is refused, the run is called off before its tasks
are planned, the tasks are refused, they are not run to their end, or all of them settle. -/
inductive Course : Generation → Prop
  | unreadable {failure : Failure} (hschema : readSchema request.schemaText = .error failure) :
      Course (.failing store openingSteps none failure)
  | offReading {schema : Schema} (hschema : readSchema request.schemaText = .ok schema) :
      Course (.failing store openingSteps none (.run (.cancelled .reading)))
  | offPlanning {schema : Schema} (hschema : readSchema request.schemaText = .ok schema) :
      Course (.failing store
        (openingSteps ++ (planningSteps schema (g.jobFor request cancellation schema)).take 2) none
        (.run (.cancelled .planning)))
  | refused {schema : Schema} {refused : Schedule.RefusedRun}
      (hschema : readSchema request.schemaText = .ok schema)
      (hrun : Schedule.schedule (g.jobFor request cancellation schema) = .error refused) :
      Course (.failing store
        (openingSteps ++ planningSteps schema (g.jobFor request cancellation schema)) none
        (.run (.ofRefused refused)))
  | broken {schema : Schema} {ending : Schedule.Ending} {run : Schedule.Run} {fault : RunFault}
      (hschema : readSchema request.schemaText = .ok schema)
      (hrun : Schedule.Reached (g.jobFor request cancellation schema) ⟨.over ending, run⟩)
      (hresults : ending.results = .error fault) :
      Course (.failing store (runningSteps schema (g.jobFor request cancellation schema) run) run
        (.run fault))
  | settled {schema : Schema} {ending : Schedule.Ending} {run : Schedule.Run}
      {results : List Settlement} {cancelled : Bool}
      (hschema : readSchema request.schemaText = .ok schema)
      (hrun : Schedule.Reached (g.jobFor request cancellation schema) ⟨.over ending, run⟩)
      (hresults : ending.results = .ok results)
      (hlate : run.cancelled = true → cancelled = true) :
      Course (conclude store ticket request schema
        (runningSteps schema (g.jobFor request cancellation schema) run) { run with cancelled }
        results)

/-- The run for a request is one of those that can happen. -/
theorem course_run :
    g.Course store ticket request cancellation (g.run store ticket request cancellation) := by
  unfold Generator.run
  simp only
  split
  · next hschema => exact .unreadable hschema
  next schema hschema =>
  split
  · exact .offReading hschema
  unfold runFrom
  simp only
  split
  · next hrun => exact .refused hschema hrun
  next ending run hrun =>
  have hreached := Schedule.reached_of_schedule hrun
  split
  · next hresults => exact .broken hschema hreached hresults
  · next hresults => exact .settled hschema hreached hresults id

end Course

/-! ### Once all tasks have settled -/

/-- Once all tasks have settled, the run fails with the store as it was, or the mockup is put
together and stored. -/
theorem conclude_cases (store : Store) (ticket : Ticket) (request : Request) (schema : Schema)
    (steps : List Step) (run : Schedule.Run) (results : List Settlement) :
    (∃ fault, conclude store ticket request schema steps run results
      = .failing store (steps ++ [entering .merging "Validating generated output",
          entering .assembling "Assembling prototype"]) run (.run fault)) ∨
    ∃ artifact, assemble request schema (.ofList results) = .ok artifact ∧
      run.cancelled = false ∧
      conclude store ticket request schema steps run results
        = { steps := steps ++ [entering .merging "Validating generated output",
              entering .assembling "Assembling prototype"]
              ++ [.milestone (.completed (closingMessage (.ofList results)))]
            run
            outcome := .ok { suggestions := suggest schema, results, artifact
                             stored := (store.create ticket.id ticket.now artifact []).2 }
            store := (store.create ticket.id ticket.now artifact []).1 } := by
  unfold conclude
  simp only
  split
  · exact .inl ⟨_, rfl⟩
  · next artifact hartifact =>
    split
    · exact .inl ⟨_, rfl⟩
    · next hc => exact .inr ⟨artifact, hartifact, by simpa using hc, rfl⟩

/-- A run that ends well answers what the results come to. -/
theorem of_conclude_ok {store : Store} {ticket : Ticket} {request : Request} {schema : Schema}
    {steps : List Step} {run : Schedule.Run} {results : List Settlement} {o : Outcome}
    (h : (conclude store ticket request schema steps run results).outcome = .ok o) :
    o.results = results ∧ o.suggestions = suggest schema ∧
      assemble request schema (.ofList results) = .ok o.artifact ∧
      o.stored.artifact = o.artifact := by
  rcases conclude_cases store ticket request schema steps run results with
    ⟨fault, heq⟩ | ⟨artifact, hartifact, -, heq⟩
  · rw [heq] at h
    cases h
  · rw [heq] at h
    cases h
    exact ⟨rfl, rfl, hartifact, rfl⟩

theorem finished_of_results {ending : Schedule.Ending} {results : List Settlement}
    (h : ending.results = .ok results) : ending = .finished results := by
  cases ending with
  | finished results' =>
    cases h
    rfl
  | cancelled | stuck | silent => cases h

/-! ### What listeners can tell -/

namespace Course

variable {g : Generator} {store : Store} {ticket : Ticket} {request : Request}
  {cancellation : Schedule.Cancellation} {gen : Generation}

theorem enters_planningSteps (schema : Schema) (job : Schedule.Job) :
    ∀ step ∈ planningSteps schema job, step.Enters [.suggesting, .planning, .running] := by
  intro step hstep
  simp only [planningSteps, List.mem_cons, List.not_mem_nil, or_false] at hstep
  rcases hstep with rfl | rfl | rfl <;> exact ⟨_, _, rfl, by simp⟩

/-- The stages up to the run of the tasks are entered, tasks settle one after the other, the stages
after that are entered, and the run is closed as its outcome says. -/
theorem steps_eq (h : g.Course store ticket request cancellation gen) :
    ∃ planning finishing total closing,
      gen.steps = openingSteps ++ planning ++ settlingSteps total 0 gen.settled ++ finishing
        ++ [.milestone closing] ∧
      (∀ step ∈ planning, step.Enters [.suggesting, .planning, .running]) ∧
      (∀ step ∈ finishing, step.Enters [.merging, .assembling]) ∧
      Generation.ClosedBy gen.outcome closing := by
  cases h with
  | unreadable | offReading =>
    exact ⟨[], [], 0, _, rfl, by simp, by simp, rfl⟩
  | @offPlanning schema =>
    refine ⟨(planningSteps schema (g.jobFor request cancellation schema)).take 2, [], 0, _, ?_, ?_,
      by simp, rfl⟩
    · rfl
    · exact fun step hstep => enters_planningSteps _ _ step (List.mem_of_mem_take hstep)
  | @refused schema =>
    refine ⟨planningSteps schema (g.jobFor request cancellation schema), [], 0, _, ?_,
      enters_planningSteps _ _, by simp, rfl⟩
    rfl
  | @broken schema ending run =>
    refine ⟨planningSteps schema (g.jobFor request cancellation schema), [],
      (g.jobFor request cancellation schema).tasks.length, _, ?_, enters_planningSteps _ _, by simp,
      rfl⟩
    simp [Generation.failing, runningSteps, Generation.settled]
  | @settled schema ending run results cancelled =>
    have hfinishing : ∀ step ∈ [entering .merging "Validating generated output",
        entering .assembling "Assembling prototype"], step.Enters [.merging, .assembling] := by
      intro step hstep
      simp only [List.mem_cons, List.not_mem_nil, or_false] at hstep
      rcases hstep with rfl | rfl <;> exact ⟨_, _, rfl, by simp⟩
    rcases conclude_cases store ticket request schema
        (runningSteps schema (g.jobFor request cancellation schema) run) { run with cancelled }
        results with ⟨fault, heq⟩ | ⟨artifact, -, -, heq⟩ <;> rw [heq]
    · exact ⟨_, _, (g.jobFor request cancellation schema).tasks.length, _, rfl,
        enters_planningSteps _ _, hfinishing, rfl⟩
    · exact ⟨_, _, (g.jobFor request cancellation schema).tasks.length, _, rfl,
        enters_planningSteps _ _, hfinishing, _, rfl⟩

/-- Either no task was run, or what was seen was seen in a run of the planned tasks. -/
theorem run_cases (h : g.Course store ticket request cancellation gen) :
    gen.run = none ∨ ∃ schema m run, readSchema request.schemaText = .ok schema ∧
      Schedule.Reached (g.jobFor request cancellation schema) m ∧ gen.run = some run ∧
      run.trace = m.run.trace := by
  cases h with
  | unreadable | offReading | offPlanning | refused => exact .inl rfl
  | broken hschema hrun => exact .inr ⟨_, _, _, hschema, hrun, rfl, rfl⟩
  | @settled schema ending run results cancelled hschema hrun =>
    rcases conclude_cases store ticket request schema
        (runningSteps schema (g.jobFor request cancellation schema) run) { run with cancelled }
        results with ⟨fault, heq⟩ | ⟨artifact, -, -, heq⟩ <;> rw [heq]
    · exact .inr ⟨_, _, _, hschema, hrun, rfl, rfl⟩
    · exact .inr ⟨_, _, _, hschema, hrun, rfl, rfl⟩

/-- A run that ends well answers what the results of all planned tasks come to. -/
theorem of_ok {o : Outcome} (h : g.Course store ticket request cancellation gen)
    (hok : gen.outcome = .ok o) :
    ∃ schema run, readSchema request.schemaText = .ok schema ∧
      Schedule.Reached (g.jobFor request cancellation schema) ⟨.over (.finished o.results), run⟩ ∧
      o.suggestions = suggest schema ∧
      assemble request schema (.ofList o.results) = .ok o.artifact ∧
      o.stored.artifact = o.artifact := by
  cases h with
  | unreadable | offReading | offPlanning | refused | broken => cases hok
  | settled hschema hrun hresults =>
    obtain ⟨rfl, hsuggestions, hassemble⟩ := of_conclude_ok hok
    obtain rfl := finished_of_results hresults
    exact ⟨_, _, hschema, hrun, hsuggestions, hassemble⟩

end Course

/-- If the run that the generator follows ends well, so does the run of the tasks. -/
theorem of_run_ok {g : Generator} {store : Store} {ticket : Ticket} {request : Request}
    {cancellation : Schedule.Cancellation} {o : Outcome}
    (hok : (g.run store ticket request cancellation).outcome = .ok o) :
    ∃ schema run, readSchema request.schemaText = .ok schema ∧
      Schedule.schedule (g.jobFor request cancellation schema) = .ok (.finished o.results, run) ∧
      o.suggestions = suggest schema ∧
      assemble request schema (.ofList o.results) = .ok o.artifact ∧
      o.stored.artifact = o.artifact := by
  unfold Generator.run at hok
  simp only at hok
  split at hok
  · cases hok
  next schema hschema =>
  split at hok
  · cases hok
  unfold runFrom at hok
  simp only at hok
  split at hok
  · cases hok
  next ending run hrun =>
  split at hok
  · cases hok
  · next results hresults =>
    obtain ⟨rfl, hsuggestions, hassemble⟩ := of_conclude_ok hok
    obtain rfl := finished_of_results hresults
    exact ⟨schema, run, hschema, hrun, hsuggestions, hassemble⟩

/-! ### What is put together -/

end Generator

/-- The mockup bears the schema and what the results came to. -/
theorem of_assemble {request : Request} {schema : Schema} {merged : Merged} {artifact : Artifact}
    (h : assemble request schema merged = .ok artifact) :
    artifact.schema = schema ∧ artifact.merged = merged := by
  unfold assemble at h
  split at h
  · cases h
  · cases h
    exact ⟨rfl, rfl⟩

/-- The mockup is put together from the outputs that are rendered for the planned tasks. -/
structure Outcome.IsAssembled (p : Preferences) (schema : Schema) (o : Outcome) : Prop where
  suggestions_eq : o.suggestions = suggest schema
  schema_eq : o.artifact.schema = schema
  merged_eq : o.artifact.merged = .ofList o.results
  stored_eq : o.stored.artifact = o.artifact
  rendered : List.Forall₂ IsRendered (planTasks p (suggest schema)) o.results

namespace Generator

section Assembled

variable {g : Generator} {store : Store} {ticket : Ticket} {request : Request}
  {cancellation : Schedule.Cancellation} {gen : Generation} {o : Outcome}

/-- A run that ends well puts the outputs together, if they are the rendered ones. -/
theorem Course.isAssembled (h : g.Course store ticket request cancellation gen)
    (hok : gen.outcome = .ok o)
    (hrendered : ∀ t ∈ planTasks request.preferences o.suggestions, ∀ r ∈ o.results,
      r.taskId = t.id → r.success = true →
        ∃ output, outputFor t = .ok output ∧ r.output = some output) :
    ∃ schema, readSchema request.schemaText = .ok schema ∧
      o.IsAssembled request.preferences schema := by
  obtain ⟨schema, run, hread, hreached, hsuggestions, hartifact, hstored⟩ := h.of_ok hok
  obtain ⟨hschema, hmerged⟩ := of_assemble hartifact
  refine ⟨schema, hread, hsuggestions, hschema, hmerged, hstored, ?_⟩
  refine (hreached.complete_of_finished rfl).forall₂ fun i t r ht hr hreport => ?_
  refine ⟨hreport.1, hreport.2, hrendered t ?_ r (List.mem_of_getElem? hr) hreport.1⟩
  rw [hsuggestions]
  exact List.mem_of_getElem? ht

/-- The run that the generator follows does so, if its workers hand back nothing else. -/
theorem isAssembled_of_run (hw : Schedule.Renders g.worker)
    (hok : (g.run store ticket request cancellation).outcome = .ok o) :
    ∃ schema, readSchema request.schemaText = .ok schema ∧
      o.IsAssembled request.preferences schema := by
  obtain ⟨schema, run, hread, hrun, hsuggestions, hartifact, hstored⟩ := of_run_ok hok
  obtain ⟨hschema, hmerged⟩ := of_assemble hartifact
  exact ⟨schema, hread, hsuggestions, hschema, hmerged, hstored,
    Schedule.forall₂_isRendered hw hrun⟩

end Assembled

/-! ### Runs that end well -/

/-- If the schema can be read, the mockup has a name, nobody calls the run off and the work on every
task ends well, so does the run. -/
theorem run_succeeds {g : Generator} {request : Request} {schema : Schema}
    (hschema : readSchema request.schemaText = .ok schema)
    (hconfig : (request.schedulerRules g.config.scheduler).check = .ok ())
    (hname : isBlankText request.name = false)
    (hall : ∀ t ∈ planTasks request.preferences (suggest schema),
      Schedule.endsWell g.worker (request.schedulerRules g.config.scheduler) t = true)
    (store : Store) (ticket : Ticket) :
    ∃ o, (g.run store ticket request {}).outcome = .ok o ∧ o.suggestions = suggest schema ∧
      ∀ r ∈ o.results, r.success = true := by
  have hgraph := checkGraph_of_runnable
    (nodup_dependencies_planTasks request.preferences (suggest schema))
    (runnable_planTasks request.preferences (suggest schema))
  obtain ⟨results, run, hrun, hc, hsuccess⟩ :=
    @Schedule.succeeds_schedule (g.jobFor request {} schema) hconfig hgraph rfl hall
  simp only [Generator.run, hschema, Bool.false_eq_true, if_false, runFrom, hrun,
    Schedule.Ending.results, conclude, assemble, hname, hc]
  exact ⟨_, rfl, rfl, hsuccess⟩

/-- A generator whose worker renders every task at once. -/
def prompt : Generator := { config := {}, worker := Schedule.scriptedWorker {} }

/-- If the schema can be read and the mockup has a name, so the run of that generator ends. -/
theorem prompt_succeeds {request : Request} {schema : Schema}
    (hschema : readSchema request.schemaText = .ok schema)
    (hconfig : (request.schedulerRules {}).check = .ok ())
    (hname : isBlankText request.name = false) (store : Store) (ticket : Ticket) :
    ∃ o, (prompt.run store ticket request {}).outcome = .ok o ∧ o.suggestions = suggest schema ∧
      ∀ r ∈ o.results, r.success = true := by
  refine run_succeeds hschema hconfig hname (fun t ht => ?_) store ticket
  obtain ⟨product, hproduct⟩ := exists_productFor request.preferences (suggest schema) t ht
  obtain ⟨output, houtput⟩ := exists_outputFor hproduct
  exact Schedule.endsWell_emptyScript houtput _

end Generator

end Mockup
