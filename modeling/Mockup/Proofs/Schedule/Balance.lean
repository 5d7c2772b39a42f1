import Mockup.Proofs.Schedule.Course

/-!
# Balance

Whatever happens in a run, and in whatever order, the states of the tasks, the tasks in flight, the
results, the count of settled tasks and what was told about settled tasks are in balance, and there
are never more attempts at one time than the configuration allows.

* `settledPlaces`: the tasks about which it was told that they settled;
* `Run.Balanced`: the balance of a run;
* `balanced_reached`: every moment of every run is in balance, and so are the loop heads, the points
  of waiting and the end of the run that `schedule` follows.
-/

namespace Mockup.Schedule

/-- The tasks about which it was told that they settled, in order. -/
def settledPlaces (trace : List Event) : List Nat :=
  (settlements trace).map (·.1)

/-- Every task is in one state.  The tasks in flight are those that are executing, each once, and
neither these nor the attempts are ever more than allowed.  The settled tasks have one result and
one call of the observer each, and their number is counted. -/
structure Run.Balanced (job : Job) (run : Run) : Prop where
  existsUnique_state : ∀ i < job.tasks.length, ∃! s, run.board.states[i]? = some s
  mem_inFlight : ∀ i, i ∈ run.board.inFlight ↔ run.board.states[i]? = some .executing
  nodup_inFlight : run.board.inFlight.Nodup
  length_inFlight_le : run.board.inFlight.length ≤ job.config.maxConcurrency
  attempts_le : run.flights.countP Flight.isAttempting ≤ job.config.maxConcurrency
  peak_le : peak run.trace ≤ job.config.maxConcurrency
  result_iff : ∀ i,
    (∃ r, run.board.results[i]? = some (some r)) ↔ SettledAt run.board.states i
  settled_eq : run.board.settled = run.board.states.countP Standing.isSettled
  told_once : ∀ i, SettledAt run.board.states i → (settledPlaces run.trace).count i = 1
  told_result : ∀ i r, .settled i r ∈ run.trace → run.board.results[i]? = some (some r)
  not_told : ∀ i, ¬ SettledAt run.board.states i → (settledPlaces run.trace).count i = 0

theorem Run.Books.balanced {job : Job} {run : Run} (h : run.Books job []) :
    run.Balanced job := by
  have hresult : ∀ i, (∃ r, run.board.results[i]? = some (some r)) ↔ SettledAt run.board.states i :=
    fun i => by simpa using h.board.result_iff i
  have htold : ∀ i, i ∈ settledPlaces run.trace ↔ SettledAt run.board.states i := by
    intro i
    rw [← hresult i, settledPlaces, List.mem_map]
    constructor
    · rintro ⟨⟨j, r⟩, hr, rfl⟩
      exact ⟨r, (h.mem_settlements j r).1 hr⟩
    · rintro ⟨r, hr⟩
      exact ⟨(i, r), (h.mem_settlements i r).2 hr, rfl⟩
  refine ⟨?_, h.board.mem_inFlight, h.board.nodup_inFlight, h.length_inFlight_le, ?_, h.peak_le,
    hresult, ?_, ?_, ?_, ?_⟩
  · intro i hi
    have hlt : i < run.board.states.length := h.board.length_states ▸ hi
    exact ⟨_, List.getElem?_eq_getElem hlt, fun s hs => by simpa [hlt] using hs.symm⟩
  · have hle := List.countP_le_length (p := Flight.isAttempting) (l := run.flights)
    have hroom := h.length_flights_le
    omega
  · simpa using h.board.settled_add
  · exact fun i hi => List.count_eq_one_of_mem h.nodup_settlements ((htold i).2 hi)
  · exact fun i r hr => (h.mem_settlements i r).1 (mem_settlements_iff.2 hr)
  · exact fun i hi => List.count_eq_zero.2 fun hmem => hi ((htold i).1 hmem)

/-- Every moment of every run is in balance, whatever the workers do, in whatever order attempts end
and whenever the run is called off.  So are, in the run that `schedule` follows, every loop head,
every point at which the coordinator waits, and the end. -/
theorem balanced_reached (job : Job) :
    (∀ m, Reached job m → m.run.Balanced job) ∧
    (∀ run, Passes job run → run.Balanced job ∧
      ∀ run', run.dispatch job = .again run' → run'.Balanced job) ∧
    ∀ ending run, schedule job = .ok (ending, run) → run.Balanced job := by
  refine ⟨fun m hm => hm.books.balanced, fun run hrun => ?_, fun ending run hrun => ?_⟩
  · obtain ⟨point, hreached⟩ := hrun.reached
    exact ⟨hreached.books.balanced, fun run' hd => (hrun.reached_atWait hd).books.balanced⟩
  · exact (reached_of_schedule hrun).books.balanced

theorem balanced_reached_sample :
    (∃ m, Reached sample m ∧ m.run.board.inFlight = [0] ∧ m.run.Balanced sample) ∧
    ∃ ending run, schedule sample = .ok (ending, run) ∧
      run.board.states = [.completed, .failed, .skipped] ∧ run.Balanced sample := by
  have hreached : Reached sample (.ofDispatch ((Run.fresh sample).dispatch sample)) :=
    Reached.move .refl (.dispatch _)
  refine ⟨⟨_, hreached, by decide +kernel, (balanced_reached sample).1 _ hreached⟩, _, _,
    schedule_sample, states_sample, (balanced_reached sample).2.2 _ _ schedule_sample⟩

end Mockup.Schedule
