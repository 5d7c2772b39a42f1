import Mockup.Proofs.Artifact.Keys
import Mockup.Proofs.Generation.Course
import Mockup.Proofs.View.Names

/-!
# Nothing is lost on the way from the views to the mockup

* `Outcome.Conserves`: every wanted view is accounted for by one component or by one failure, and
  the figures say so;
* `Outcome.IsAssembled.conserves`: so it is when rendered outputs are put together;
* `Generator.every_view_accounted`: so it is in every run that ends well.
-/

namespace Mockup

/-- Every wanted view is accounted for by one component or by one failure: the component of a view
whose task ended well stands behind those of earlier views, and a task that did not end well has one
failure.  `existsUnique_iff` finds the component of a view by its table and its kind.  A component
names its table only, so that the views of two tables of one name cannot be told apart; such tables
are left out there, and only there. -/
structure Outcome.Conserves (p : Preferences) (o : Outcome) : Prop where
  total_eq : o.artifact.merged.total = o.results.length
  length_results : o.results.length = 1 + (o.suggestions.filter fun s => p.includes s.kind).length
  components_eq : o.artifact.components.map (·.2)
    = (completedViews (wantedViews p o.suggestions) o.results).map (componentOf p)
  nodup_keys : (o.artifact.components.map (·.1)).Nodup
  result_of_view : ∀ (i : Nat) s, (wantedViews p o.suggestions)[i]? = some s → ∃ id r,
    (viewTaskIds (wantedViews p o.suggestions))[i]? = some id ∧ o.results[i]? = some r ∧
      r.taskId = id
  of_success : ∀ (i : Nat) s r, (wantedViews p o.suggestions)[i]? = some s →
    o.results[i]? = some r → r.success = true →
      (∃ key, o.artifact.components[(o.results.take i).countP (·.success)]?
        = some (key, componentOf p s)) ∧
      (o.artifact.merged.failures.map (·.taskId)).count r.taskId = 0
  of_failure : ∀ r ∈ o.results, r.success = false →
    (o.artifact.merged.failures.map (·.taskId)).count r.taskId = 1
  existsUnique_iff : (o.artifact.schema.tables.map (·.name)).Nodup → ∀ (i : Nat) s r,
    (wantedViews p o.suggestions)[i]? = some s → o.results[i]? = some r →
      (r.success = true → ∃! e, e ∈ o.artifact.components ∧ e.2.table = s.table ∧
        e.2.viewKind = s.kind) ∧
      (r.success = false → ¬ ∃ e ∈ o.artifact.components, e.2.table = s.table ∧
        e.2.viewKind = s.kind)
  isSome_integration : ∃ last, o.results.getLast? = some last ∧ last.taskId = joiningTaskId ∧
    (o.artifact.merged.integration.isSome = true ↔ last.success = true)
  balance : o.artifact.merged.successful + o.artifact.merged.failed = o.artifact.merged.total
  failed_eq : o.artifact.merged.failed = o.artifact.merged.failures.length

/-! ### Names of results -/

theorem map_taskId {tasks : List Task} {results : List Settlement}
    (h : List.Forall₂ IsRendered tasks results) :
    results.map (·.taskId) = tasks.map (·.id) := by
  induction h with
  | nil => rfl
  | cons hr _ ih => rw [List.map_cons, List.map_cons, hr.taskId_eq, ih]

/-- If no two results bear one name, a task that ended well has no failure, and a task that did not
has one. -/
theorem count_failures {results : List Settlement} (hnodup : (results.map (·.taskId)).Nodup)
    {r : Settlement} (hr : r ∈ results) :
    ((results.filter (!·.success)).map (·.taskId)).count r.taskId
      = if r.success then 0 else 1 := by
  cases hsuccess : r.success with
  | true =>
    refine List.count_eq_zero.2 fun hmem => ?_
    obtain ⟨r', hr', heq⟩ := List.mem_map.1 hmem
    obtain ⟨hr', hfailed⟩ := List.mem_filter.1 hr'
    rw [List.inj_on_of_nodup_map hnodup hr' hr heq, hsuccess] at hfailed
    cases hfailed
  | false =>
    refine List.count_eq_one_of_mem (hnodup.sublist (List.filter_sublist.map _)) ?_
    exact List.mem_map.2 ⟨r, List.mem_filter.2 ⟨hr, by simp [hsuccess]⟩, rfl⟩

/-! ### One component for each view -/

/-- If tables have different names, no two wanted views are of one table and one kind. -/
theorem nodup_wantedViews (p : Preferences) {schema : Schema}
    (h : (schema.tables.map (·.name)).Nodup) :
    ((wantedViews p (suggest schema)).map fun s => (s.table, s.kind)).Nodup :=
  (nodup_suggest h).sublist (List.filter_sublist.map _)

section Components

variable {p : Preferences} {views : List Suggestion} {results : List Settlement}
  {components : List (String × ComponentCode)}

/-- If no two views are of one table and one kind, no two components are. -/
theorem nodup_components
    (hcomponents : components.map (·.2) = (completedViews views results).map (componentOf p))
    (hnodup : (views.map fun s => (s.table, s.kind)).Nodup) :
    (components.map fun e => (e.2.table, e.2.viewKind)).Nodup := by
  have hmap : components.map (fun e => (e.2.table, e.2.viewKind))
      = (completedViews views results).map fun s => (s.table, s.kind) := by
    have hboth := congrArg (List.map fun c : ComponentCode => (c.table, c.viewKind)) hcomponents
    rw [List.map_map, List.map_map] at hboth
    exact hboth
  rw [hmap]
  exact hnodup.sublist ((completedViews_sublist views results).map _)

/-- If no two views are of one table and one kind, there is one component of its table and its kind
for a view whose task ended well, and none for another. -/
theorem existsUnique_component
    (hcomponents : components.map (·.2) = (completedViews views results).map (componentOf p))
    (hnodup : (views.map fun s => (s.table, s.kind)).Nodup) {i : Nat} {s : Suggestion}
    {r : Settlement} (hs : views[i]? = some s) (hr : results[i]? = some r) :
    (r.success = true → ∃! e, e ∈ components ∧ e.2.table = s.table ∧ e.2.viewKind = s.kind) ∧
      (r.success = false → ¬ ∃ e ∈ components, e.2.table = s.table ∧ e.2.viewKind = s.kind) := by
  constructor
  · intro hsuccess
    have hmem : componentOf p s ∈ components.map (·.2) := by
      rw [hcomponents]
      exact List.mem_map.2 ⟨s, mem_completedViews.2 ⟨i, r, hs, hr, hsuccess⟩, rfl⟩
    obtain ⟨e, he, heq⟩ := List.mem_map.1 hmem
    refine ⟨e, ⟨he, by rw [heq]; rfl, by rw [heq]; rfl⟩, ?_⟩
    rintro e' ⟨he', htable, hkind⟩
    refine List.inj_on_of_nodup_map (nodup_components hcomponents hnodup) he' he ?_
    show (e'.2.table, e'.2.viewKind) = (e.2.table, e.2.viewKind)
    rw [htable, hkind, heq]
    rfl
  · rintro hfailed ⟨e, he, htable, hkind⟩
    have hmem : e.2 ∈ (completedViews views results).map (componentOf p) :=
      hcomponents ▸ List.mem_map.2 ⟨e, he, rfl⟩
    obtain ⟨s', hs', heq⟩ := List.mem_map.1 hmem
    obtain ⟨j, r', hj, hr', hsuccess⟩ := mem_completedViews.1 hs'
    -- a view of the same table and kind stands at the same place
    have hpair : (views.map fun s => (s.table, s.kind))[i]?
        = (views.map fun s => (s.table, s.kind))[j]? := by
      rw [List.getElem?_map, List.getElem?_map, hs, hj, Option.map_some, Option.map_some,
        ← htable, ← hkind, ← heq]
      rfl
    have hlt := (List.getElem?_eq_some_iff.1 hs).1
    obtain rfl := (List.getElem?_inj (by simpa using hlt) hnodup).1 hpair
    rw [hr] at hr'
    cases hr'
    rw [hfailed] at hsuccess
    cases hsuccess

end Components

/-! ### What is put together loses nothing -/

namespace Outcome.IsAssembled

variable {p : Preferences} {schema : Schema} {o : Outcome} (h : o.IsAssembled p schema)

include h

/-- The results bear the names of the tasks for the views, and then that of the last task. -/
theorem map_taskId_eq :
    o.results.map (·.taskId) = viewTaskIds (wantedViews p o.suggestions) ++ [joiningTaskId] := by
  rw [map_taskId h.rendered, planTasks_eq, List.map_append, map_id_viewTasks, h.suggestions_eq]
  rfl

theorem nodup_taskId : (o.results.map (·.taskId)).Nodup := by
  rw [map_taskId h.rendered]
  exact nodup_planTasks p (suggest schema)

/-- There is a component for every view whose task ended well, in the order of the views. -/
theorem components_eq : o.artifact.components.map (·.2)
    = (completedViews (wantedViews p o.suggestions) o.results).map (componentOf p) := by
  obtain ⟨rs, last, hresults, hviews, hcomponents, -, -⟩ := Merged.ofList_plan h.rendered
  rw [Artifact.components, map_snd_keyed, h.merged_eq, hcomponents, h.suggestions_eq, hresults,
    completedViews_append hviews.length_eq [last]]

/-- There is a failure of every task that did not end well. -/
theorem failures_eq : o.artifact.merged.failures.map (·.taskId)
    = (o.results.filter (!·.success)).map (·.taskId) := by
  obtain ⟨rs, last, -, -, -, -, hfailures⟩ := Merged.ofList_plan h.rendered
  rw [h.merged_eq, hfailures, List.map_map]
  rfl

/-- There are routes if the last task ended well. -/
theorem isSome_integration_iff : ∃ last, o.results.getLast? = some last ∧
    last.taskId = joiningTaskId ∧
      (o.artifact.merged.integration.isSome = true ↔ last.success = true) := by
  obtain ⟨rs, last, hresults, -, -, hintegration, -⟩ := Merged.ofList_plan h.rendered
  refine ⟨last, by rw [hresults, List.getLast?_concat], ?_, ?_⟩
  · have hlast := congrArg List.getLast? h.map_taskId_eq
    rw [hresults, List.map_append, List.map_singleton, List.getLast?_concat,
      List.getLast?_concat] at hlast
    exact Option.some.inj hlast
  · rw [h.merged_eq, hintegration]
    cases last.success <;> simp

/-- The result at the place of a view is that of the task for the view. -/
theorem result_of_view {i : Nat} {s : Suggestion}
    (hs : (wantedViews p o.suggestions)[i]? = some s) :
    ∃ id r, (viewTaskIds (wantedViews p o.suggestions))[i]? = some id ∧ o.results[i]? = some r ∧
      r.taskId = id := by
  have hi : i < (viewTaskIds (wantedViews p o.suggestions)).length := by
    rw [length_viewTaskIds]
    exact (List.getElem?_eq_some_iff.1 hs).1
  have hname : (o.results.map (·.taskId))[i]?
      = some (viewTaskIds (wantedViews p o.suggestions))[i] := by
    rw [h.map_taskId_eq, List.getElem?_append_left hi]
    exact List.getElem?_eq_getElem hi
  rw [List.getElem?_map] at hname
  obtain ⟨r, hr, htaskId⟩ := Option.map_eq_some_iff.1 hname
  exact ⟨_, r, List.getElem?_eq_getElem hi, hr, htaskId⟩

/-- The component for a view whose task ended well stands behind those for earlier views whose tasks
did. -/
theorem component_of_view {i : Nat} {s : Suggestion} {r : Settlement}
    (hs : (wantedViews p o.suggestions)[i]? = some s) (hr : o.results[i]? = some r)
    (hsuccess : r.success = true) :
    ∃ key, o.artifact.components[(o.results.take i).countP (·.success)]?
      = some (key, componentOf p s) := by
  have hplace : (o.artifact.components.map (·.2))[(o.results.take i).countP (·.success)]?
      = some (componentOf p s) := by
    rw [h.components_eq, List.getElem?_map, getElem?_completedViews hs hr hsuccess]
    rfl
  rw [List.getElem?_map] at hplace
  obtain ⟨⟨key, c⟩, he, rfl⟩ := Option.map_eq_some_iff.1 hplace
  exact ⟨key, he⟩

/-- A mockup that is put together from rendered outputs loses nothing. -/
theorem conserves : o.Conserves p where
  total_eq := by
    rw [h.merged_eq]
    exact Merged.total_ofList _
  length_results := by
    rw [← h.rendered.length_eq, length_planTasks, h.suggestions_eq, Nat.add_comm]
    rfl
  components_eq := h.components_eq
  nodup_keys := (nodup_keyed [] _).1
  result_of_view _ _ hs := h.result_of_view hs
  of_success i s r hs hr hsuccess := by
    refine ⟨h.component_of_view hs hr hsuccess, ?_⟩
    rw [h.failures_eq, count_failures h.nodup_taskId (List.mem_of_getElem? hr), if_pos hsuccess]
  of_failure r hr hfailed := by
    rw [h.failures_eq, count_failures h.nodup_taskId hr, hfailed]
    rfl
  existsUnique_iff htables i s r hs hr := by
    rw [h.schema_eq] at htables
    refine existsUnique_component h.components_eq ?_ hs hr
    rw [h.suggestions_eq]
    exact nodup_wantedViews p htables
  isSome_integration := h.isSome_integration_iff
  balance := rfl
  failed_eq := rfl

end Outcome.IsAssembled

namespace Generator

variable (g : Generator) (store : Store) (ticket : Ticket) (request : Request)
  (cancellation : Schedule.Cancellation)

/-- Take any schema, any preferences, any workers whose outputs are the rendered ones, however often
attempts fail or time out, either rule for failures, and any time at which somebody calls the run
off.  In every run that can happen and ends well, every wanted view is accounted for: by one
component if its task ended well, and else by one failure.  So it is in the run that the generator
follows.  Workers that follow a script hand back rendered outputs, and so does the built-in one. -/
theorem every_view_accounted :
    (∀ gen o, g.Course store ticket request cancellation gen → gen.outcome = .ok o →
      (∀ t ∈ planTasks request.preferences o.suggestions, ∀ r ∈ o.results, r.taskId = t.id →
        r.success = true → ∃ output, outputFor t = .ok output ∧ r.output = some output) →
      o.Conserves request.preferences) ∧
    (Schedule.Renders g.worker → ∀ o,
      (g.run store ticket request cancellation).outcome = .ok o →
      o.Conserves request.preferences) ∧
    (∀ script, Schedule.Renders (Schedule.scriptedWorker script)) ∧
    ∀ rules, Schedule.Renders (Schedule.builtinWorker rules) := by
  refine ⟨?_, ?_, Schedule.renders_scriptedWorker, Schedule.renders_builtinWorker⟩
  · intro gen o hgen hok hrendered
    obtain ⟨schema, -, hall⟩ := hgen.isAssembled hok hrendered
    exact hall.conserves
  · intro hw o hok
    obtain ⟨schema, -, hall⟩ := isAssembled_of_run hw hok
    exact hall.conserves

/-- A generator whose worker cannot join components. -/
def disjoint : Generator :=
  { config := {}
    worker := Schedule.scriptedWorker
      { failures := [⟨joiningTaskId, .permanent "no router", none⟩] } }

/-- A request for the list of one table, with tests. -/
def testedRequest : Request :=
  { schemaText := "Table users \x7b\n  id int\n\x7d", name := "Shop"
    preferences := { views := some [.list], generateTests := true } }

theorem every_view_accounted_testedRequest : ∃ o,
    (disjoint.run {} ⟨⟨7⟩, 3⟩ testedRequest {}).outcome = .ok o ∧
    o.Conserves testedRequest.preferences ∧ o.artifact.merged.total = 2 ∧
    o.artifact.components.map (·.1) = ["UsersList"] ∧
    o.artifact.merged.failures.map (·.taskId) = [joiningTaskId] ∧
    o.artifact.merged.integration = none := by
  have hsome : (disjoint.run {} ⟨⟨7⟩, 3⟩ testedRequest {}).outcome.toOption.any fun o =>
      o.artifact.merged.total == 2 && o.artifact.components.map (·.1) == ["UsersList"]
        && o.artifact.merged.failures.map (·.taskId) == [joiningTaskId]
        && o.artifact.merged.integration.isNone := by
    decide +kernel
  cases hok : (disjoint.run {} ⟨⟨7⟩, 3⟩ testedRequest {}).outcome with
  | error failure => simp [hok, Except.toOption] at hsome
  | ok o =>
    simp only [hok, Except.toOption, Option.any_some, Bool.and_eq_true, beq_iff_eq,
      Option.isNone_iff_eq_none] at hsome
    obtain ⟨⟨⟨htotal, hcomponents⟩, hfailures⟩, hintegration⟩ := hsome
    have hall := every_view_accounted disjoint {} ⟨⟨7⟩, 3⟩ testedRequest {}
    exact ⟨o, rfl, hall.2.1 (hall.2.2.1 _) o hok, htotal, hcomponents, hfailures, hintegration⟩

end Generator

end Mockup
