import Mockup.Artifact.Render
import Mockup.Proofs.Artifact.Merging
import Mockup.Proofs.Json.Members
import Mockup.Proofs.Task.Plan

/-!
# Rendered outputs through the merger

Views become contexts of tasks, contexts become outputs, and outputs become components again; the
composite of the three steps keeps every part of a view.

* `ComponentCode.reader_inverts`, `Integration.reader_inverts`: the readers of outputs invert the
  writers;
* `productFor`: the product of a task, which the merger takes from its output, by
  `IsRendered.productOf_eq`;
* `componentOf`, `integrationOf`: the products of the tasks, in terms of the views;
* `productFor_taskFor`, `productFor_joiningTask`: the products of planned tasks;
* `Merged.ofList_plan`: the merged results of all planned tasks when some tasks fail, with
  `Merged.ofList_succeeded` when none does;
* `rendered_plan_merges`: the outputs of all planned tasks are merged without a failure.
-/

namespace Mockup

open Json (Reader record)

/-! ### Reading outputs back -/

theorem ViewKind.lookup_names (k : ViewKind) : ViewKind.names.lookup k.name = some k := by
  cases k <;> decide +kernel

/-- A component is read back as it was written. -/
theorem ComponentCode.reader_inverts : ComponentCode.reader.Inverts ComponentCode.toJson := by
  intro c
  have hkind := Reader.variant_inverts ViewKind.lookup_names
  refine Json.record_object ?_
  rw [Json.Source.required_eq (a := c.name) Reader.text_inverts rfl,
    Json.Source.required_eq (a := c.table) Reader.text_inverts rfl,
    Json.Source.required_eq (a := c.viewKind) hkind rfl,
    Json.Source.required_eq (a := c.code) Reader.text_inverts rfl,
    Json.Source.defaulted_eq (a := c.imports) Reader.texts_inverts [] rfl,
    Json.Source.defaulted_eq (a := c.tests) Reader.optionalText_inverts none rfl]
  rfl

theorem Route.reader_inverts : Route.reader.Inverts Route.toJson := by
  intro r
  refine Json.record_object ?_
  rw [Json.Source.required_eq (a := r.path) Reader.text_inverts rfl,
    Json.Source.required_eq (a := r.component) Reader.text_inverts rfl]
  rfl

/-- Routes are read back as they were written. -/
theorem Integration.reader_inverts : Integration.reader.Inverts Integration.toJson := by
  intro b
  have hroutes := Reader.list_inverts Route.reader_inverts
  refine Json.record_object ?_
  rw [Json.Source.required_eq (a := b.routes) hroutes rfl,
    Json.Source.required_eq (a := b.navigation) Reader.texts_inverts rfl,
    Json.Source.required_eq (a := b.code) Reader.text_inverts rfl]
  rfl

/-! ### What a task leads to -/

/-- The product of a task whose context holds all that is needed. -/
def productFor (task : Task) : Except AttemptError Product :=
  match task.kind with
  | .component => (componentFor task).map .component
  | .integration => .ok (.integration (integrationFor task))

/-- The output of a task is read as what the task leads to. -/
theorem readOutput_outputFor {task : Task} {output : Json} (h : outputFor task = .ok output) :
    ∃ product, productFor task = .ok product ∧ readOutput task.kind output = .ok product := by
  unfold outputFor at h
  unfold productFor readOutput
  cases hkind : task.kind with
  | component =>
    simp only [hkind] at h
    cases hc : componentFor task with
    | error e =>
      rw [hc] at h
      cases h
    | ok c =>
      rw [hc] at h
      cases h
      refine ⟨.component c, rfl, ?_⟩
      show (ComponentCode.reader c.toJson).map Product.component = _
      rw [ComponentCode.reader_inverts c]
      rfl
  | integration =>
    simp only [hkind] at h
    cases h
    refine ⟨.integration (integrationFor task), rfl, ?_⟩
    show (Integration.reader (integrationFor task).toJson).map Product.integration = _
    rw [Integration.reader_inverts (integrationFor task)]
    rfl

/-- The result is one of the task, and if the task ended well it bears the output that is rendered
for it. -/
structure IsRendered (task : Task) (r : Settlement) : Prop where
  taskId_eq : r.taskId = task.id
  kind_eq : r.kind = task.kind
  output : r.success = true → ∃ output, outputFor task = .ok output ∧ r.output = some output

theorem IsRendered.succeeded {task : Task} {output : Json} (h : outputFor task = .ok output)
    (metadata : WorkRecord) : IsRendered task (.succeeded task output metadata) :=
  ⟨rfl, rfl, fun _ => ⟨output, h, rfl⟩⟩

/-- The merger takes from a rendered output what the task leads to. -/
theorem IsRendered.productOf_eq {task : Task} {r : Settlement} {product : Product}
    (h : IsRendered task r) (hsuccess : r.success = true)
    (hproduct : productFor task = .ok product) : productOf r = .ok product := by
  obtain ⟨output, houtput, hr⟩ := h.output hsuccess
  obtain ⟨product', hproduct', hread⟩ := readOutput_outputFor houtput
  obtain rfl : product' = product := Except.ok.inj (hproduct'.symm.trans hproduct)
  simp [productOf, hsuccess, hr, h.kind_eq, hread, Except.mapError]

/-! ### What the tasks for views lead to -/

/-- The component for a view. -/
def componentOf (p : Preferences) (s : Suggestion) : ComponentCode :=
  { name := s.name, table := s.table, viewKind := s.kind
    code := componentCode s.name s.table s.kind (s.parts.map (·.id))
    imports := ["View", "Slot"]
    tests := if p.generateTests then some (testCode s.name) else none }

/-- The route to the component for a view. -/
def routeTo (s : Suggestion) : Route :=
  ⟨"/" ++ s.table ++ "/" ++ s.kind.name, s.name⟩

/-- The routes to the components for views. -/
def integrationOf (views : List Suggestion) : Integration :=
  { routes := views.map routeTo, navigation := (views.map (·.table)).eraseDups
    code := routesCode (views.map routeTo) }

theorem valueAt_object {key : String} {ms : List (String × Json)} {v : Json}
    (h : ms.reverse.lookup key = some v) : valueAt key (.object ms) = v := by
  rw [valueAt, Json.member?_object, h, Option.getD_some]

section Views

variable (p : Preferences) (id : String) (s : Suggestion)

theorem slotIds_taskFor : slotIds (taskFor p id s).context = s.parts.map (·.id) := by
  have hid : ∀ part : Part, (valueAt "id" part.toJson).asText? = some part.id := by
    intro part
    rw [Part.toJson, valueAt_object (v := .text part.id) rfl]
    rfl
  unfold slotIds
  rw [taskFor, valueAt_object (v := s.toJson) rfl, Suggestion.toJson,
    valueAt_object (v := .list (s.parts.map Part.toJson)) rfl]
  simp only [Json.asList?, Option.getD_some, List.filterMap_map, Function.comp_def, hid,
    List.filterMap_eq_map']

theorem wantsTests_taskFor : wantsTests (taskFor p id s).context = p.generateTests := by
  unfold wantsTests
  rw [taskFor, valueAt_object (v := p.toJson) rfl, Preferences.toJson,
    valueAt_object (v := .bool p.generateTests) rfl]

theorem contextText_taskFor {key text : String}
    (h : valueAt key (taskFor p id s).context = .text text) :
    contextText (taskFor p id s) key = .ok text := by
  simp only [contextText, h, Json.asText?]

/-- The task for a view leads to the component for the view. -/
theorem componentFor_taskFor : componentFor (taskFor p id s) = .ok (componentOf p s) := by
  have hname : contextText (taskFor p id s) "component_name" = .ok s.name :=
    contextText_taskFor p id s (valueAt_object rfl)
  have htable : contextText (taskFor p id s) "table" = .ok s.table :=
    contextText_taskFor p id s (valueAt_object rfl)
  have hkind : contextKind (taskFor p id s) = .ok s.kind := by
    have htext : contextText (taskFor p id s) "view_kind" = .ok s.kind.name :=
      contextText_taskFor p id s (valueAt_object rfl)
    simp only [contextKind, htext, bind, Except.bind, ViewKind.ofText?_name]
  simp only [componentFor, hname, htable, hkind, slotIds_taskFor, wantsTests_taskFor, bind,
    Except.bind, pure, Except.pure, componentOf]

theorem productFor_taskFor : productFor (taskFor p id s) = .ok (.component (componentOf p s)) := by
  show (componentFor (taskFor p id s)).map Product.component = _
  rw [componentFor_taskFor]
  rfl

theorem routeOf?_componentEntry :
    routeOf? (componentEntry id s) = some (s.table, routeTo s) := by
  unfold routeOf? componentEntry
  rw [valueAt_object (v := .text s.name) rfl, valueAt_object (v := .text s.table) rfl,
    valueAt_object (v := .text s.kind.name) rfl]
  rfl

end Views

/-- Texts without repeats, each where it is first. -/
theorem firstOccurrences_eq (ss : List String) : firstOccurrences ss = ss.eraseDups := by
  have hfold : ∀ seen : List String,
      ss.foldl (fun seen s => if s ∈ seen then seen else seen ++ [s]) seen
        = seen ++ (ss.filter (· ∉ seen)).eraseDups := by
    induction ss with
    | nil => intro seen; simp
    | cons s ss ih =>
      intro seen
      rw [List.foldl_cons, ih]
      by_cases hs : s ∈ seen
      · simp [hs]
      · have hrest : ss.filter (· ∉ seen ++ [s])
            = (ss.filter (· ∉ seen)).filter fun t => !t == s := by
          rw [List.filter_filter]
          refine List.filter_congr fun t _ => ?_
          by_cases hts : t = s <;> simp [hts]
        simp only [hs, if_false, hrest, List.filter_cons, not_false_eq_true, decide_true, if_true,
          List.eraseDups_cons, List.append_assoc, List.singleton_append]
  rw [firstOccurrences, hfold []]
  simp

/-- The task that joins the components leads to the routes to them. -/
theorem integrationFor_joiningTask (p : Preferences) (views : List (String × Suggestion)) :
    integrationFor (joiningTask p views) = integrationOf (views.map (·.2)) := by
  have hentries : (views.map fun v => componentEntry v.1 v.2).filterMap routeOf?
      = views.map fun v => (v.2.table, routeTo v.2) := by
    simp only [List.filterMap_map, Function.comp_def, routeOf?_componentEntry,
      List.filterMap_eq_map']
  unfold integrationFor
  rw [joiningTask, valueAt_object (v := .list (views.map fun v => componentEntry v.1 v.2)) rfl]
  simp only [Json.asList?, Option.getD_some, hentries, List.map_map, firstOccurrences_eq,
    integrationOf]
  rfl

theorem productFor_joiningTask (p : Preferences) (views : List (String × Suggestion)) :
    productFor (joiningTask p views) = .ok (.integration (integrationOf (views.map (·.2)))) := by
  show Except.ok (Product.integration (integrationFor (joiningTask p views))) = _
  rw [integrationFor_joiningTask]

/-! ### Merging the results of the planned tasks -/

section Plan

variable {p : Preferences} {views : List Suggestion} {rs : List Settlement}

/-- The views whose tasks ended well, given the results of the tasks. -/
def completedViews (views : List Suggestion) (rs : List Settlement) : List Suggestion :=
  ((views.zip rs).filter (·.2.success)).map (·.1)

theorem completedViews_cons (s : Suggestion) (views : List Suggestion) (r : Settlement)
    (rs : List Settlement) : completedViews (s :: views) (r :: rs)
      = (if r.success then [s] else []) ++ completedViews views rs := by
  cases h : r.success <;> simp [completedViews, h]

/-- The view at place `i`, if its task ended well, stands behind as many as there are tasks before
`i` that ended well. -/
theorem getElem?_completedViews {views : List Suggestion} {rs : List Settlement} {i : Nat}
    {s : Suggestion} {r : Settlement} (hs : views[i]? = some s) (hr : rs[i]? = some r)
    (hsuccess : r.success = true) :
    (completedViews views rs)[(rs.take i).countP (·.success)]? = some s := by
  induction i generalizing views rs with
  | zero =>
    obtain ⟨views, rfl⟩ := List.head?_eq_some_iff.1 (List.head?_eq_getElem? ▸ hs)
    obtain ⟨rs, rfl⟩ := List.head?_eq_some_iff.1 (List.head?_eq_getElem? ▸ hr)
    simp [completedViews_cons, hsuccess]
  | succ i ih =>
    cases views with
    | nil => cases hs
    | cons s' views =>
      cases rs with
      | nil => cases hr
      | cons r' rs =>
        have hrest := ih hs hr
        cases h : r'.success <;> simp [completedViews_cons, h, hrest]

theorem mem_completedViews {views : List Suggestion} {rs : List Settlement} {s : Suggestion} :
    s ∈ completedViews views rs ↔
      ∃ (i : Nat) (r : Settlement),
        views[i]? = some s ∧ rs[i]? = some r ∧ r.success = true := by
  constructor
  · intro h
    obtain ⟨⟨s', r⟩, hmem, rfl⟩ := List.mem_map.1 h
    obtain ⟨hzip, hsuccess⟩ := List.mem_filter.1 hmem
    obtain ⟨i, hi⟩ := List.mem_iff_getElem?.1 hzip
    obtain ⟨hs, hr⟩ := List.getElem?_zip_eq_some.1 hi
    exact ⟨i, r, hs, hr, hsuccess⟩
  · rintro ⟨i, r, hs, hr, hsuccess⟩
    exact List.mem_of_getElem? (getElem?_completedViews hs hr hsuccess)

theorem completedViews_sublist (views : List Suggestion) (rs : List Settlement) :
    (completedViews views rs).Sublist views := by
  induction views generalizing rs with
  | nil => exact List.nil_sublist _
  | cons s views ih =>
    cases rs with
    | nil => exact List.nil_sublist _
    | cons r rs =>
      rw [completedViews_cons]
      split
      · exact (ih rs).cons_cons s
      · exact (ih rs).cons s

theorem completedViews_append {views : List Suggestion} {rs : List Settlement}
    (h : views.length = rs.length) (more : List Settlement) :
    completedViews views (rs ++ more) = completedViews views rs := by
  have hzip := @List.zip_append _ _ views [] rs more h
  rw [List.append_nil] at hzip
  rw [completedViews, hzip, List.zip_nil_left, List.append_nil]
  rfl

/-- The results are those of tasks for the views, one for each view and in their order. -/
abbrev AreRendered (p : Preferences) (views : List Suggestion) (rs : List Settlement) : Prop :=
  List.Forall₂ (fun s r => ∃ id, IsRendered (taskFor p id s) r) views rs

theorem AreRendered.component (h : AreRendered p views rs) :
    rs.filterMap Settlement.component? = (completedViews views rs).map (componentOf p) := by
  induction h with
  | nil => rfl
  | @cons s r views rs hr _ ih =>
    obtain ⟨id, hr⟩ := hr
    rw [completedViews_cons, List.map_append, ← ih, List.filterMap_cons]
    cases hsuccess : r.success with
    | true =>
      have hproduct := hr.productOf_eq hsuccess (productFor_taskFor p id s)
      simp [Settlement.component?, hproduct]
    | false => simp [Settlement.component?, productOf_failed hsuccess]

theorem AreRendered.integration (h : AreRendered p views rs) :
    rs.findSome? Settlement.integration? = none := by
  rw [List.findSome?_eq_none_iff]
  intro r hr
  obtain ⟨i, hi, rfl⟩ := List.mem_iff_getElem.1 hr
  have hlen := h.length_eq
  obtain ⟨id, hr⟩ := h.get (hlen ▸ hi) hi
  cases hsuccess : rs[i].success with
  | true =>
    have hproduct := hr.productOf_eq hsuccess (productFor_taskFor p id _)
    simp only [List.get_eq_getElem] at hproduct
    simp [Settlement.integration?, hproduct]
  | false => simp [Settlement.integration?, productOf_failed hsuccess]

end Plan

/-- Every planned task leads to something. -/
theorem exists_productFor (p : Preferences) (suggestions : List Suggestion) :
    ∀ t ∈ planTasks p suggestions, ∃ product, productFor t = .ok product := by
  intro t ht
  rw [planTasks_eq] at ht
  rcases List.mem_append.1 ht with ht | ht
  · obtain ⟨⟨id, s⟩, -, rfl⟩ := List.mem_map.1 ht
    exact ⟨_, productFor_taskFor p id s⟩
  · obtain rfl := List.mem_singleton.1 ht
    exact ⟨_, productFor_joiningTask p _⟩

theorem exists_outputFor {task : Task} {product : Product} (h : productFor task = .ok product) :
    ∃ output, outputFor task = .ok output := by
  unfold productFor at h
  unfold outputFor
  cases hkind : task.kind with
  | component =>
    simp only [hkind] at h
    cases hc : componentFor task with
    | error e =>
      rw [hc] at h
      cases h
    | ok c => exact ⟨c.toJson, rfl⟩
  | integration => exact ⟨(integrationFor task).toJson, rfl⟩

/-- The failure of a task that did not end well. -/
def Settlement.asMissing (r : Settlement) : MissingOutput :=
  ⟨r.taskId, r.error.getD "unknown error"⟩

/-- The tasks without an output are those that did not end well. -/
theorem filterMap_missing? {tasks : List Task} {rs : List Settlement}
    (h : List.Forall₂ IsRendered tasks rs) (hproduct : ∀ t ∈ tasks, ∃ q, productFor t = .ok q) :
    rs.filterMap Settlement.missing? = (rs.filter (!·.success)).map Settlement.asMissing := by
  induction h with
  | nil => rfl
  | @cons t r tasks rs hr _ ih =>
    obtain ⟨q, hq⟩ := hproduct t List.mem_cons_self
    have hrest := ih fun t ht => hproduct t (List.mem_cons_of_mem _ ht)
    rw [List.filterMap_cons, List.filter_cons, hrest]
    cases hsuccess : r.success with
    | true => simp [Settlement.missing?, hr.productOf_eq hsuccess hq]
    | false => simp [Settlement.missing?, productOf_failed hsuccess, Settlement.asMissing]

/-- The last result is that of the task that joins the components; the others are those of the tasks
for the views. -/
theorem exists_areRendered {p : Preferences} {suggestions : List Suggestion}
    {results : List Settlement} (h : List.Forall₂ IsRendered (planTasks p suggestions) results) :
    ∃ rs last, results = rs ++ [last] ∧ AreRendered p (wantedViews p suggestions) rs ∧
      IsRendered (lastTask p suggestions) last := by
  have hviews := List.forall₂_take (viewTasks p suggestions).length h
  have hrest := List.forall₂_drop (viewTasks p suggestions).length h
  rw [planTasks_eq, List.take_left] at hviews
  rw [planTasks_eq, List.drop_left] at hrest
  obtain ⟨last, others, hlast, hnone, hdrop⟩ := List.forall₂_cons_left_iff.1 hrest
  obtain rfl := List.forall₂_nil_left_iff.1 hnone
  have hsplit := List.take_append_drop (viewTasks p suggestions).length results
  rw [hdrop] at hsplit
  refine ⟨_, last, hsplit.symm, ?_, hlast⟩
  have htasks := viewTasks_forall₂ p suggestions
  refine List.forall₂_iff_get.2 ⟨htasks.length_eq.symm.trans hviews.length_eq, ?_⟩
  intro i hi hi'
  have hlt : i < (viewTasks p suggestions).length := htasks.length_eq ▸ hi
  have htask := htasks.get hlt hi
  exact ⟨_, htask ▸ hviews.get hlt hi'⟩

/-- The task that joins the components leads to the routes to those for the wanted views. -/
theorem productFor_lastTask (p : Preferences) (suggestions : List Suggestion) :
    productFor (lastTask p suggestions)
      = .ok (.integration (integrationOf (wantedViews p suggestions))) := by
  have hviews : ((viewTaskIds (wantedViews p suggestions)).zip
      (wantedViews p suggestions)).map (·.2) = wantedViews p suggestions :=
    List.map_snd_zip (Nat.le_of_eq (length_viewTaskIds _).symm)
  rw [lastTask, productFor_joiningTask, hviews]

/-- The results of all planned tasks give the components for the views whose tasks ended well, the
routes if the last task did, and one failure for every task that did not. -/
theorem Merged.ofList_plan {p : Preferences} {suggestions : List Suggestion}
    {results : List Settlement} (h : List.Forall₂ IsRendered (planTasks p suggestions) results) :
    ∃ rs last, results = rs ++ [last] ∧ AreRendered p (wantedViews p suggestions) rs ∧
      (ofList results).components
        = (completedViews (wantedViews p suggestions) rs).map (componentOf p) ∧
      (ofList results).integration
        = (if last.success then some (integrationOf (wantedViews p suggestions)) else none) ∧
      (ofList results).failures
        = (results.filter (!·.success)).map Settlement.asMissing := by
  have hfailures := (failures_ofList results).trans
    (filterMap_missing? h (exists_productFor p suggestions))
  obtain ⟨rs, last, rfl, hviews, hlast⟩ := exists_areRendered h
  refine ⟨rs, last, rfl, hviews, ?_, ?_, hfailures⟩
  · rw [components_ofList, List.filterMap_append, hviews.component]
    cases hsuccess : last.success with
    | true =>
      have hproduct := hlast.productOf_eq hsuccess (productFor_lastTask p suggestions)
      simp [Settlement.component?, hproduct]
    | false => simp [Settlement.component?, productOf_failed hsuccess]
  · rw [integration_ofList, List.findSome?_append, hviews.integration, Option.none_or,
      List.findSome?_singleton]
    cases hsuccess : last.success with
    | true =>
      have hproduct := hlast.productOf_eq hsuccess (productFor_lastTask p suggestions)
      simp [Settlement.integration?, hproduct]
    | false => simp [Settlement.integration?, productOf_failed hsuccess]

/-- The task ended well, with the output that is rendered for it. -/
def Succeeds (t : Task) (r : Settlement) : Prop :=
  ∃ output metadata, outputFor t = .ok output ∧ r = .succeeded t output metadata

theorem Succeeds.isRendered {t : Task} {r : Settlement} (h : Succeeds t r) : IsRendered t r := by
  obtain ⟨output, metadata, houtput, rfl⟩ := h
  exact .succeeded houtput metadata

theorem Succeeds.success {tasks : List Task} {results : List Settlement}
    (h : List.Forall₂ Succeeds tasks results) : ∀ r ∈ results, r.success = true := by
  induction h with
  | nil => simp
  | cons hr _ ih =>
    obtain ⟨output, metadata, -, rfl⟩ := hr
    intro r hmem
    rcases List.mem_cons.1 hmem with rfl | hmem
    · rfl
    · exact ih r hmem

theorem completedViews_eq {views : List Suggestion} {rs : List Settlement}
    (hlen : views.length = rs.length) (hsuccess : ∀ r ∈ rs, r.success = true) :
    completedViews views rs = views := by
  have hall : (views.zip rs).filter (·.2.success) = views.zip rs := by
    refine List.filter_eq_self.2 ?_
    rintro ⟨s, r⟩ hmem
    exact hsuccess r (List.of_mem_zip hmem).2
  rw [completedViews, hall, List.map_fst_zip (Nat.le_of_eq hlen)]

/-- If all planned tasks have ended well, there is a component for every wanted view, there are the
routes to them, and there is no failure. -/
theorem Merged.ofList_succeeded {p : Preferences} {suggestions : List Suggestion}
    {results : List Settlement} (h : List.Forall₂ IsRendered (planTasks p suggestions) results)
    (hsuccess : ∀ r ∈ results, r.success = true) :
    (ofList results).components = (wantedViews p suggestions).map (componentOf p) ∧
      (ofList results).integration = some (integrationOf (wantedViews p suggestions)) ∧
      (ofList results).failures = [] := by
  obtain ⟨rs, last, rfl, hviews, hcomponents, hintegration, hfailures⟩ := ofList_plan h
  refine ⟨?_, ?_, ?_⟩
  · have hfront : ∀ r ∈ rs, r.success = true := fun r hr => hsuccess r (List.mem_append_left _ hr)
    rw [hcomponents, completedViews_eq hviews.length_eq hfront]
  · rw [hintegration, if_pos (hsuccess last (by simp))]
  · rw [hfailures, List.map_eq_nil_iff, List.filter_eq_nil_iff]
    intro r hr
    simp [hsuccess r hr]

/-- Workers can render all planned tasks, whatever views are suggested and wanted.  When all tasks
have ended well and their outputs are merged, there is no failure; there is one component for each
wanted view, in the order of the views, with its name, its table and its kind, and with tests if
they are asked for; and there is one route for each of these views, in the same order, and one entry
of the menu for each table, where it is first. -/
theorem rendered_plan_merges (p : Preferences) (suggestions : List Suggestion) :
    (∀ t ∈ planTasks p suggestions, ∃ output, outputFor t = .ok output) ∧
    ∀ results, List.Forall₂ Succeeds (planTasks p suggestions) results →
      let wanted := suggestions.filter fun s => p.includes s.kind
      let merged := Merged.ofList results
      merged.failures = [] ∧ merged.successful = merged.total ∧
      merged.total = (planTasks p suggestions).length ∧
      merged.components.map (fun c => (c.name, c.table, c.viewKind))
        = wanted.map (fun s => (s.name, s.table, s.kind)) ∧
      (∀ c ∈ merged.components, c.tests.isSome = p.generateTests) ∧
      ∃ b, merged.integration = some b ∧
        b.routes = wanted.map (fun s => ⟨"/" ++ s.table ++ "/" ++ s.kind.name, s.name⟩) ∧
        b.navigation = (wanted.map (·.table)).eraseDups := by
  constructor
  · intro t ht
    obtain ⟨product, hproduct⟩ := exists_productFor p suggestions t ht
    exact exists_outputFor hproduct
  · intro results h wanted merged
    obtain ⟨hcomponents, hintegration, hfailures⟩ :=
      Merged.ofList_succeeded (h.imp fun _ _ => Succeeds.isRendered) (Succeeds.success h)
    have hnone : merged.failures = [] := hfailures
    refine ⟨hnone, ?_, ?_, ?_, ?_, _, hintegration, rfl, rfl⟩
    · simp only [Merged.total, Merged.failed, hnone, List.length_nil, Nat.add_zero]
    · exact (Merged.total_ofList _).trans h.length_eq.symm
    · rw [hcomponents, List.map_map]
      rfl
    · intro c hc
      rw [hcomponents] at hc
      obtain ⟨s, -, rfl⟩ := List.mem_map.1 hc
      unfold componentOf
      cases p.generateTests <;> rfl

/-- Two views of one table. -/
def sampleViews : List Suggestion :=
  [{ table := "users", kind := .list, name := "UsersList", description := "", parts := []
     layout := ⟨.stack, 1⟩ },
   { table := "users", kind := .masterDetail, name := "UsersMasterDetail", description := ""
     parts := [], layout := ⟨.split, 2⟩ }]

theorem exists_succeeds {tasks : List Task} (h : ∀ t ∈ tasks, ∃ output, outputFor t = .ok output) :
    ∃ results, List.Forall₂ Succeeds tasks results := by
  induction tasks with
  | nil => exact ⟨[], .nil⟩
  | cons t tasks ih =>
    obtain ⟨output, houtput⟩ := h t List.mem_cons_self
    obtain ⟨results, hresults⟩ := ih fun t ht => h t (List.mem_cons_of_mem _ ht)
    exact ⟨.succeeded t output ⟨0, none, 1⟩ :: results, .cons ⟨_, _, houtput, rfl⟩ hresults⟩

theorem rendered_plan_merges_sampleViews : ∃ results,
    List.Forall₂ Succeeds (planTasks {} sampleViews) results ∧
    (Merged.ofList results).total = 3 ∧
    (Merged.ofList results).components.map (fun c => (c.name, c.table, c.viewKind))
      = [("UsersList", "users", .list), ("UsersMasterDetail", "users", .masterDetail)] ∧
    ∃ b, (Merged.ofList results).integration = some b ∧ b.navigation = ["users"] ∧
      b.routes = [⟨"/users/list", "UsersList"⟩,
        ⟨"/users/master-detail", "UsersMasterDetail"⟩] := by
  obtain ⟨results, hresults⟩ := exists_succeeds (rendered_plan_merges {} sampleViews).1
  obtain ⟨-, -, htotal, hcomponents, -, b, hb, hroutes, hnavigation⟩ :=
    (rendered_plan_merges {} sampleViews).2 results hresults
  refine ⟨results, hresults, ?_, ?_, b, hb, ?_, ?_⟩
  · rw [htotal, length_planTasks]
    rfl
  · rw [hcomponents]
    rfl
  · rw [hnavigation]
    decide +kernel
  · rw [hroutes]
    decide +kernel

end Mockup
