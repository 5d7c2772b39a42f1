import Mockup.Proofs.Generation.Conservation

/-!
# Where routes lead

Routes name components by the names of their views, and components stand under keys.  Where views
share a name, only the component for the first of them stands under it.

* `first_of_name_iff`: the first view of the name of a view is the view itself just if no view
  before it bears the name;
* `Outcome.Routed`: the targets of the routes of a stored mockup, with `Outcome.IsAssembled.routed`;
* `Generator.every_route_leads`: so it is in every run in which the work on all tasks ends well;
* `Generator.route_astray_pair`: two tables whose lists share a name, and a route that leads to the
  other table.
-/

namespace Mockup

/-! ### Views that share a name -/

section Views

variable {views : List Suggestion} {s : Suggestion} {i : Nat}

/-- A view is the first of its name if no view before it bears the name. -/
theorem find?_name_eq (hs : views[i]? = some s) (hfirst : ∀ s' ∈ views.take i, s'.name ≠ s.name) :
    views.find? (·.name == s.name) = some s := by
  obtain ⟨hi, hat⟩ := List.getElem?_eq_some_iff.1 hs
  have hnone : (views.take i).find? (·.name == s.name) = none := by
    rw [List.find?_eq_none]
    intro s' hs'
    simpa using hfirst s' hs'
  have hsplit : views = views.take i ++ s :: views.drop (i + 1) := by
    rw [← hat, List.getElem_cons_drop, List.take_append_drop]
  rw [hsplit, List.find?_append, hnone, Option.none_or, List.find?_cons, beq_self_eq_true]

/-- If names differ, no view before another bears its name. -/
theorem name_ne_of_nodup (hnodup : (views.map (·.name)).Nodup) (hs : views[i]? = some s) :
    ∀ s' ∈ views.take i, s'.name ≠ s.name := by
  intro s' hs' hname
  obtain ⟨k, hk, rfl⟩ := List.mem_take_iff_getElem.1 hs'
  have hlt : k < views.length := Nat.lt_of_lt_of_le hk (Nat.min_le_right _ _)
  have hsame : (views.map (·.name))[k]? = (views.map (·.name))[i]? := by
    rw [List.getElem?_map, List.getElem?_map, hs, List.getElem?_eq_getElem hlt, Option.map_some,
      Option.map_some, hname]
  have hki := (List.getElem?_inj (by simpa using hlt) hnodup).1 hsame
  omega

/-- If no two views are of one table and one kind, the first view of the name is one of the table
and the kind of the view just if no view before it bears the name. -/
theorem first_of_name_iff (hnodup : (views.map fun s => (s.table, s.kind)).Nodup)
    (hs : views[i]? = some s) :
    (∃ s₀, views.find? (·.name == s.name) = some s₀ ∧ s₀.table = s.table ∧ s₀.kind = s.kind) ↔
      ∀ s' ∈ views.take i, s'.name ≠ s.name := by
  constructor
  · rintro ⟨s₀, hfind, htable, hkind⟩ s' hs' hname
    obtain ⟨-, j, hj, rfl, hbefore⟩ := List.find?_eq_some_iff_getElem.1 hfind
    -- the first view of the name stands where the view stands
    have hpair : (views.map fun s => (s.table, s.kind))[j]?
        = (views.map fun s => (s.table, s.kind))[i]? := by
      rw [List.getElem?_map, List.getElem?_map, hs, List.getElem?_eq_getElem hj, Option.map_some,
        Option.map_some, htable, hkind]
    obtain rfl := (List.getElem?_inj (by simpa using hj) hnodup).1 hpair
    obtain ⟨k, hk, rfl⟩ := List.mem_take_iff_getElem.1 hs'
    have hno := hbefore k (Nat.lt_of_lt_of_le hk (Nat.min_le_left _ _))
    simp [hname] at hno
  · intro hfirst
    exact ⟨s, find?_name_eq hs hfirst, rfl, rfl⟩

end Views

/-! ### Routes of a stored mockup -/

namespace Outcome

/-- There is one route for each wanted view, and it leads to the component for the first view of its
name. -/
structure Routed (p : Preferences) (o : Outcome) : Prop where
  integration_eq : o.stored.artifact.merged.integration
    = some (integrationOf (wantedViews p o.suggestions))
  leads_to_first : ∀ s ∈ wantedViews p o.suggestions, ∃ s₀,
    (wantedViews p o.suggestions).find? (·.name == s.name) = some s₀ ∧
      o.stored.artifact.components.lookup (routeTo s).component = some (componentOf p s₀)
  leads_iff : (o.stored.artifact.schema.tables.map (·.name)).Nodup → ∀ (i : Nat) s,
    (wantedViews p o.suggestions)[i]? = some s →
      ((∃ c, o.stored.artifact.components.lookup (routeTo s).component = some c ∧
        c.table = s.table ∧ c.viewKind = s.kind) ↔
          ∀ s' ∈ (wantedViews p o.suggestions).take i, s'.name ≠ s.name)
  leads : ((wantedViews p o.suggestions).map (·.name)).Nodup →
    ∀ b, o.stored.artifact.merged.integration = some b → ∀ route ∈ b.routes,
      ∃ s ∈ wantedViews p o.suggestions, route = routeTo s ∧
        o.stored.artifact.components.lookup route.component = some (componentOf p s)

/-- Under the name of a wanted view stands the component for the first wanted view of that name. -/
theorem lookup_name {p : Preferences} {schema : Schema} {a : Artifact}
    (h : a.merged.components = (wantedViews p (suggest schema)).map (componentOf p))
    {s : Suggestion} (hs : s ∈ wantedViews p (suggest schema)) :
    a.components.lookup s.name
      = ((wantedViews p (suggest schema)).find? (·.name == s.name)).map (componentOf p) := by
  -- no name of a view looks like a key with a number
  have hplain := underscore_notMem_name (List.mem_filter.1 hs).1
  rw [Artifact.components, h, lookup_keyed hplain _ List.not_mem_nil, List.find?_map]
  rfl

/-- If the work on all tasks has ended well with rendered outputs, the routes lead there. -/
theorem IsAssembled.routed {p : Preferences} {schema : Schema} {o : Outcome}
    (hall : o.IsAssembled p schema) (hsuccess : ∀ r ∈ o.results, r.success = true) :
    o.Routed p := by
  obtain ⟨hsuggestions, hschema, hmerged, hstored, h⟩ := hall
  obtain ⟨hcomponents, hintegration, -⟩ := Merged.ofList_succeeded h hsuccess
  rw [← hmerged, ← hstored] at hcomponents hintegration
  rw [← hstored] at hschema
  refine ⟨?_, ?_, ?_, ?_⟩ <;> rw [hsuggestions]
  · exact hintegration
  · intro s hs
    have hsome : ((wantedViews p (suggest schema)).find? (·.name == s.name)).isSome := by
      rw [List.find?_isSome]
      exact ⟨s, hs, beq_self_eq_true _⟩
    obtain ⟨s₀, hs₀⟩ := Option.isSome_iff_exists.1 hsome
    exact ⟨s₀, hs₀, by rw [routeTo, lookup_name hcomponents hs, hs₀, Option.map_some]⟩
  · intro htables i s hs
    rw [hschema] at htables
    rw [← first_of_name_iff (nodup_wantedViews p htables) hs, routeTo,
      lookup_name hcomponents (List.mem_of_getElem? hs)]
    constructor
    · rintro ⟨c, hc, htable, hkind⟩
      obtain ⟨s₀, hs₀, rfl⟩ := Option.map_eq_some_iff.1 hc
      exact ⟨s₀, hs₀, htable, hkind⟩
    · rintro ⟨s₀, hs₀, htable, hkind⟩
      exact ⟨componentOf p s₀, by rw [hs₀, Option.map_some], htable, hkind⟩
  · intro hnames b hb route hroute
    obtain rfl := Option.some.inj (hintegration.symm.trans hb)
    obtain ⟨s, hs, rfl⟩ := List.mem_map.1 hroute
    obtain ⟨i, hi⟩ := List.mem_iff_getElem?.1 hs
    refine ⟨s, hs, rfl, ?_⟩
    rw [routeTo, lookup_name hcomponents hs, find?_name_eq hi (name_ne_of_nodup hnames hi),
      Option.map_some]

end Outcome

namespace Generator

/-- Take any schema, any preferences, any workers whose outputs are the rendered ones, and any time
at which somebody calls the run off.  In every run that can happen, ends well and in which the work
on all tasks does, routes lead to the components of their names, and these are the components of
their tables and kinds as long as no two views bear one name.  So it is in the run that the
generator follows. -/
theorem every_route_leads (g : Generator) (store : Store) (ticket : Ticket) (request : Request)
    (cancellation : Schedule.Cancellation) :
    (∀ gen o, g.Course store ticket request cancellation gen → gen.outcome = .ok o →
      (∀ t ∈ planTasks request.preferences o.suggestions, ∀ r ∈ o.results, r.taskId = t.id →
        r.success = true → ∃ output, outputFor t = .ok output ∧ r.output = some output) →
      (∀ r ∈ o.results, r.success = true) → o.Routed request.preferences) ∧
    (Schedule.Renders g.worker → ∀ o,
      (g.run store ticket request cancellation).outcome = .ok o →
      (∀ r ∈ o.results, r.success = true) → o.Routed request.preferences) := by
  constructor
  · intro gen o hgen hok hrendered hsuccess
    obtain ⟨schema, -, hall⟩ := hgen.isAssembled hok hrendered
    exact hall.routed hsuccess
  · intro hw o hok hsuccess
    obtain ⟨schema, -, hall⟩ := isAssembled_of_run hw hok
    exact hall.routed hsuccess

/-- A table with one column. -/
def singleTable (name : String) : Table :=
  { name, columns := [{ name := "id", dataType := "int" }] }

/-- A schema of two such tables. -/
def pairSchema (first second : String) : Schema :=
  { tables := [singleTable first, singleTable second] }

/-- A request for the lists of the two tables. -/
def pairRequest (first second : String) : Request :=
  { schemaText := "Table " ++ first ++ " \x7b\n  id int\n\x7d\nTable " ++ second
      ++ " \x7b\n  id int\n\x7d"
    name := "Shop", preferences := { views := some [.list] } }

theorem wantedViews_pair (first second : String) :
    wantedViews (pairRequest first second).preferences (suggest (pairSchema first second))
      = [viewOf (pairSchema first second) (singleTable first) .list,
        viewOf (pairSchema first second) (singleTable second) .list] :=
  rfl

/-- The run for the lists of two tables ends well, once the tables have been read. -/
theorem pair_succeeds {first second : String}
    (hread : (readSchema (pairRequest first second).schemaText).toOption
      = some (pairSchema first second)) :
    readSchema (pairRequest first second).schemaText = .ok (pairSchema first second) ∧
      ∃ o, (prompt.run {} ⟨⟨7⟩, 3⟩ (pairRequest first second) {}).outcome = .ok o ∧
        o.suggestions = suggest (pairSchema first second) ∧ ∀ r ∈ o.results, r.success = true := by
  have hschema : readSchema (pairRequest first second).schemaText
      = .ok (pairSchema first second) := by
    cases hschema : readSchema (pairRequest first second).schemaText with
    | error failure => simp [hschema, Except.toOption] at hread
    | ok schema =>
      rw [hschema] at hread
      cases hread
      rfl
  have hconfig : SchedulerRules.check {} = .ok () := by decide
  have hname : isBlankText "Shop" = false := by decide +kernel
  exact ⟨hschema, prompt_succeeds hschema hconfig hname {} ⟨⟨7⟩, 3⟩⟩

theorem every_route_leads_pair : ∃ o,
    (prompt.run {} ⟨⟨7⟩, 3⟩ (pairRequest "users" "posts") {}).outcome = .ok o ∧
    (∀ r ∈ o.results, r.success = true) ∧ o.Routed (pairRequest "users" "posts").preferences ∧
    ∃ c, o.stored.artifact.components.lookup "PostsList" = some c ∧ c.table = "posts" := by
  obtain ⟨-, o, hok, hsuggestions, hsuccess⟩ := @pair_succeeds "users" "posts" (by decide +kernel)
  have hrouted := (every_route_leads prompt {} ⟨⟨7⟩, 3⟩ (pairRequest "users" "posts") {}).2
    (Schedule.renders_scriptedWorker {}) o hok hsuccess
  have hleads := hrouted.leads
  rw [hrouted.integration_eq, hsuggestions, wantedViews_pair] at hleads
  obtain ⟨s, hs, hroute, hlookup⟩ := hleads (by decide +kernel) _ rfl ⟨"/posts/list", "PostsList"⟩
    (by decide +kernel)
  refine ⟨o, hok, hsuccess, hrouted, _, hlookup, ?_⟩
  simp only [List.mem_cons, List.not_mem_nil, or_false] at hs
  rcases hs with rfl | rfl
  · exact absurd hroute (by decide +kernel)
  · rfl

/-- The route to the list of the second table leads to the list of the first, since both lists bear
one name. -/
theorem route_astray_pair : ∃ o,
    (prompt.run {} ⟨⟨7⟩, 3⟩ (pairRequest "aB" "a_b") {}).outcome = .ok o ∧
    (o.stored.artifact.schema.tables.map (·.name)).Nodup ∧ (∀ r ∈ o.results, r.success = true) ∧
    ∃ b c, o.stored.artifact.merged.integration = some b ∧ ⟨"/a_b/list", "ABList"⟩ ∈ b.routes ∧
      o.stored.artifact.components.lookup "ABList" = some c ∧ c.table = "aB" := by
  obtain ⟨hread, o, hok, hsuggestions, hsuccess⟩ := @pair_succeeds "aB" "a_b" (by decide +kernel)
  obtain ⟨schema, hschema, hall⟩ := isAssembled_of_run (Schedule.renders_scriptedWorker {}) hok
  obtain rfl := Except.ok.inj (hread.symm.trans hschema)
  have hrouted := hall.routed hsuccess
  have hleads := hrouted.leads_to_first
  have hroutes := hrouted.integration_eq
  rw [hsuggestions, wantedViews_pair] at hleads hroutes
  obtain ⟨s₀, hfind, hlookup⟩ := hleads _ (List.mem_cons_of_mem _ List.mem_cons_self)
  rw [List.find?_cons_of_pos (by decide +kernel)] at hfind
  cases hfind
  refine ⟨o, hok, ?_, hsuccess, _, _, hroutes, by decide +kernel, hlookup, rfl⟩
  rw [hall.stored_eq, hall.schema_eq]
  decide

end Generator

end Mockup
