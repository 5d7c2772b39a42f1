import Mathlib.Data.List.DropRight
import Mockup.Proofs.Task.Verdict
import Mockup.Task.Plan

/-!
# The planned tasks are a graph that can be run

* `countedName`: a name with the number that tells it from earlier ones;
* `EndsPlain`: names that do not end in a digit, with `countedName_inj`: among them, a counted
  name tells both the name and the number;
* `nodup_numberRepeats`: numbering makes names differ;
* `planTasks_graph`: the planned tasks have different names, the last of them depends on all others,
  and the graph passes the check.
-/

namespace Mockup

/-! ### Sets of texts -/

theorem pairwise_insertText {s : String} {ts : List String} (h : ts.Pairwise (· < ·)) :
    (Text.insertText s ts).Pairwise (· < ·) := by
  induction ts with
  | nil => simp [Text.insertText]
  | cons t ts ih =>
    obtain ⟨hlt, hrest⟩ := List.pairwise_cons.1 h
    unfold Text.insertText
    split
    · next hst =>
      refine List.pairwise_cons.2 ⟨fun u hu => ?_, h⟩
      rcases List.mem_cons.1 hu with rfl | hu
      · exact hst
      · exact String.lt_trans hst (hlt u hu)
    · next hst =>
      split
      · exact h
      · next hne =>
        refine List.pairwise_cons.2 ⟨fun u hu => ?_, ih hrest⟩
        rcases Text.mem_insertText.1 hu with rfl | hu
        · exact String.not_le.1 fun hle => hne (String.le_antisymm hle (String.not_lt.1 hst))
        · exact hlt u hu

/-- No member of a set stands in it twice. -/
theorem nodup_textSet (ss : List String) : (Text.textSet ss).Nodup := by
  have hsorted : (Text.textSet ss).Pairwise (· < ·) := by
    induction ss with
    | nil => exact List.Pairwise.nil
    | cons s ss ih => exact pairwise_insertText ih
  refine hsorted.imp ?_
  rintro a _ hlt rfl
  exact String.lt_irrefl a hlt

/-! ### Counted names -/

/-- The name of something before which `earlier` others of the same name stood. -/
def countedName (name : String) (earlier : Nat) : String :=
  if earlier = 0 then name else name ++ "_" ++ toString (earlier + 1)

/-- The text ends in a character that is no digit. -/
def EndsPlain (cs : List Char) : Prop :=
  ∃ front c, cs = front ++ [c] ∧ c.isDigit = false

theorem EndsPlain.append {cs : List Char} (h : EndsPlain cs) (front : List Char) :
    EndsPlain (front ++ cs) := by
  obtain ⟨mid, c, rfl, hc⟩ := h
  exact ⟨front ++ mid, c, by simp, hc⟩

/-- The text without the digits at its end. -/
theorem EndsPlain.rdropWhile_append {cs digits : List Char} (h : EndsPlain cs)
    (hdigits : ∀ d ∈ digits, d.isDigit = true) : (cs ++ digits).rdropWhile Char.isDigit = cs := by
  induction digits using List.reverseRecOn with
  | nil =>
    obtain ⟨front, c, rfl, hc⟩ := h
    rw [List.append_nil, List.rdropWhile_concat_neg _ _ _ (by simp [hc])]
  | append_singleton digits d ih =>
    rw [← List.append_assoc, List.rdropWhile_concat_pos _ _ _ (hdigits d (by simp))]
    exact ih fun d hd => hdigits d (by simp [hd])

/-- The digits at the end of a text can be told from what stands before them. -/
theorem EndsPlain.append_inj {cs cs' digits digits' : List Char} (h : EndsPlain cs)
    (h' : EndsPlain cs') (hdigits : ∀ d ∈ digits, d.isDigit = true)
    (hdigits' : ∀ d ∈ digits', d.isDigit = true) (heq : cs ++ digits = cs' ++ digits') :
    cs = cs' ∧ digits = digits' := by
  have hcs : cs = cs' := by
    rw [← h.rdropWhile_append hdigits, heq, h'.rdropWhile_append hdigits']
  subst hcs
  exact ⟨rfl, List.append_cancel_left heq⟩

/-- A counted name is a text that ends in no digit, and digits. -/
theorem toList_countedName (name : String) (earlier : Nat) :
    (countedName name earlier).toList =
      (if earlier = 0 then name.toList else name.toList ++ ['_']) ++
        if earlier = 0 then [] else Nat.toDigits 10 (earlier + 1) := by
  unfold countedName
  split
  · simp
  · simp only [String.toList_append, Nat.toString_eq_repr, Nat.toList_repr]
    rfl

/-- A counted name tells both the name and the number. -/
theorem countedName_inj {name name' : String} {earlier earlier' : Nat} (h : EndsPlain name.toList)
    (h' : EndsPlain name'.toList) (heq : countedName name earlier = countedName name' earlier') :
    name = name' ∧ earlier = earlier' := by
  have hstem : ∀ {n : String} (k : Nat), EndsPlain n.toList →
      EndsPlain (if k = 0 then n.toList else n.toList ++ ['_']) := by
    intro n k hn
    split
    · exact hn
    · exact ⟨n.toList, '_', rfl, rfl⟩
  have hdigits : ∀ k, ∀ d ∈ (if k = 0 then [] else Nat.toDigits 10 (k + 1)), d.isDigit = true := by
    intro k d hd
    split at hd
    · cases hd
    · exact Nat.isDigit_of_mem_toDigits (by decide) (by decide) hd
  have hlist := congrArg String.toList heq
  rw [toList_countedName, toList_countedName] at hlist
  obtain ⟨hname, hnumber⟩ := (hstem earlier h).append_inj (hstem earlier' h') (hdigits earlier)
    (hdigits earlier') hlist
  have hne : ∀ k, Nat.toDigits 10 (k + 1) ≠ [] := fun k => Nat.toDigits_ne_nil
  by_cases hk : earlier = 0 <;> by_cases hk' : earlier' = 0
  · rw [if_pos hk, if_pos hk'] at hname
    exact ⟨String.toList_inj.1 hname, hk.trans hk'.symm⟩
  · rw [if_pos hk, if_neg hk'] at hnumber
    exact absurd hnumber.symm (hne earlier')
  · rw [if_neg hk, if_pos hk'] at hnumber
    exact absurd hnumber (hne earlier)
  · rw [if_neg hk, if_neg hk'] at hname hnumber
    have hvalue : earlier + 1 = earlier' + 1 := by
      simpa using congrArg (Nat.ofDigitChars 10 · 0) hnumber
    exact ⟨String.toList_inj.1 (List.append_cancel_right hname), Nat.succ.inj hvalue⟩

theorem numberRepeats_cons (seen : List String) (name : String) (names : List String) :
    numberRepeats seen (name :: names)
      = countedName name (seen.count name) :: numberRepeats (name :: seen) names := rfl

/-- A name that was given is a counted one, the number being that of the names before it. -/
theorem exists_of_mem_numberRepeats {seen names : List String} {x : String}
    (h : x ∈ numberRepeats seen names) :
    ∃ name ∈ names, ∃ k, seen.count name ≤ k ∧ x = countedName name k := by
  induction names generalizing seen with
  | nil => cases h
  | cons name names ih =>
    rw [numberRepeats_cons] at h
    rcases List.mem_cons.1 h with rfl | h
    · exact ⟨name, List.mem_cons_self, _, Nat.le_refl _, rfl⟩
    · obtain ⟨name', hmem, k, hk, rfl⟩ := ih h
      exact ⟨name', List.mem_cons_of_mem _ hmem, k,
        Nat.le_trans (List.count_le_count_cons) hk, rfl⟩

/-- Names that end in no digit differ once repeats are numbered. -/
theorem nodup_numberRepeats {seen names : List String}
    (hplain : ∀ name ∈ names, EndsPlain name.toList) : (numberRepeats seen names).Nodup := by
  induction names generalizing seen with
  | nil => exact List.nodup_nil
  | cons name names ih =>
    rw [numberRepeats_cons, List.nodup_cons]
    refine ⟨fun hmem => ?_, ih fun n hn => hplain n (List.mem_cons_of_mem _ hn)⟩
    obtain ⟨name', hmem, k, hk, heq⟩ := exists_of_mem_numberRepeats hmem
    obtain ⟨rfl, rfl⟩ := countedName_inj (hplain name List.mem_cons_self)
      (hplain name' (List.mem_cons_of_mem _ hmem)) heq
    rw [List.count_cons_self] at hk
    exact absurd hk (Nat.not_succ_le_self _)

/-! ### The names of the tasks -/

theorem endsPlain_baseTaskId (s : Suggestion) : EndsPlain (baseTaskId s).toList := by
  have hkind : EndsPlain (kindWord s.kind).toList := by
    cases s.kind
    · exact ⟨"lis".toList, 't', by decide, by decide⟩
    · exact ⟨"detai".toList, 'l', by decide, by decide⟩
    · exact ⟨"for".toList, 'm', by decide, by decide⟩
    · exact ⟨"dashboar".toList, 'd', by decide, by decide⟩
    · exact ⟨"master_detai".toList, 'l', by decide, by decide⟩
  simp only [baseTaskId, String.toList_append]
  exact hkind.append _

/-- The tasks for views have different names. -/
theorem nodup_viewTaskIds (suggestions : List Suggestion) : (viewTaskIds suggestions).Nodup := by
  refine nodup_numberRepeats fun name hname => ?_
  obtain ⟨s, -, rfl⟩ := List.mem_map.1 hname
  exact endsPlain_baseTaskId s

/-- No task for a view has the name of the task that joins the components. -/
theorem joiningTaskId_notMem_viewTaskIds (suggestions : List Suggestion) :
    joiningTaskId ∉ viewTaskIds suggestions := by
  intro hmem
  obtain ⟨name, hname, k, -, heq⟩ := exists_of_mem_numberRepeats hmem
  obtain ⟨s, -, rfl⟩ := List.mem_map.1 hname
  have hhead : (countedName (baseTaskId s) k).toList.head? = some 'v' := by
    rw [toList_countedName]
    split <;> simp [baseTaskId]
  rw [← heq] at hhead
  exact absurd hhead (by decide)

/-! ### The graph -/

section Graph

variable (p : Preferences) (suggestions : List Suggestion)

/-- The tasks for the wanted views. -/
def viewTasks : List Task :=
  ((viewTaskIds (wantedViews p suggestions)).zip (wantedViews p suggestions)).map
    fun (id, s) => taskFor p id s

/-- The task that joins the components for the wanted views. -/
def lastTask : Task :=
  joiningTask p ((viewTaskIds (wantedViews p suggestions)).zip (wantedViews p suggestions))

theorem planTasks_eq :
    planTasks p suggestions = viewTasks p suggestions ++ [lastTask p suggestions] :=
  rfl

theorem length_viewTaskIds (views : List Suggestion) :
    (viewTaskIds views).length = views.length := by
  simp [viewTaskIds, length_numberRepeats]

theorem map_id_viewTasks :
    (viewTasks p suggestions).map (·.id) = viewTaskIds (wantedViews p suggestions) := by
  rw [viewTasks, List.map_map]
  exact List.map_fst_zip (Nat.le_of_eq (length_viewTaskIds _))

theorem mem_dependencies_lastTask (d : String) :
    d ∈ (lastTask p suggestions).dependencies ↔ d ∈ (viewTasks p suggestions).map (·.id) := by
  rw [map_id_viewTasks, lastTask, joiningTask, Text.mem_textSet,
    List.map_fst_zip (Nat.le_of_eq (length_viewTaskIds _))]

/-- There is one task for each wanted view, in the order of the views. -/
theorem viewTasks_forall₂ :
    List.Forall₂ (fun t s => t = taskFor p t.id s) (viewTasks p suggestions)
      (wantedViews p suggestions) := by
  have hzip : ∀ (ids : List String) (views : List Suggestion), ids.length = views.length →
      List.Forall₂ (fun t s => t = taskFor p t.id s)
        ((ids.zip views).map fun (id, s) => taskFor p id s) views := by
    intro ids views hlen
    induction ids generalizing views with
    | nil =>
      obtain rfl := List.length_eq_zero_iff.1 hlen.symm
      exact .nil
    | cons id ids ih =>
      obtain ⟨s, views, rfl⟩ := List.exists_cons_of_length_eq_add_one hlen.symm
      exact .cons rfl (ih views (Nat.succ.inj hlen))
  exact hzip _ _ (length_viewTaskIds _)

theorem of_mem_viewTasks {t : Task} (ht : t ∈ viewTasks p suggestions) :
    t.kind = .component ∧ t.dependencies = [] := by
  obtain ⟨v, -, rfl⟩ := List.mem_map.1 ht
  exact ⟨rfl, rfl⟩

theorem nodup_planTasks : ((planTasks p suggestions).map (·.id)).Nodup := by
  rw [planTasks_eq, List.map_append, map_id_viewTasks, List.map_singleton, List.nodup_append]
  refine ⟨nodup_viewTaskIds _, List.nodup_singleton _, fun id hid id' hid' heq => ?_⟩
  obtain rfl : id' = joiningTaskId := by simpa [lastTask, joiningTask] using hid'
  exact joiningTaskId_notMem_viewTaskIds _ (heq ▸ hid)

theorem runnable_planTasks : Runnable (planTasks p suggestions) where
  nodup := nodup_planTasks p suggestions
  known := by
    intro t ht d hd
    rw [planTasks_eq] at ht ⊢
    rcases List.mem_append.1 ht with ht | ht
    · rw [(of_mem_viewTasks p suggestions ht).2] at hd
      cases hd
    · obtain rfl := List.mem_singleton.1 ht
      rw [List.map_append, List.mem_append]
      exact .inl ((mem_dependencies_lastTask p suggestions d).1 hd)
  ordered := by
    refine ⟨_, List.Perm.refl _, ?_⟩
    -- The order of the plan will do: the views need nothing, and the last task only needs them.
    have hviews : InOrder (viewTasks p suggestions) := by
      intro pre t post heq d hd
      rw [(of_mem_viewTasks p suggestions (by simp [heq])).2] at hd
      cases hd
    exact hviews.concat fun d hd => (mem_dependencies_lastTask p suggestions d).1 hd

theorem nodup_dependencies_planTasks : ∀ t ∈ planTasks p suggestions, t.dependencies.Nodup := by
  intro t ht
  rw [planTasks_eq] at ht
  rcases List.mem_append.1 ht with ht | ht
  · rw [(of_mem_viewTasks p suggestions ht).2]
    exact List.nodup_nil
  · obtain rfl := List.mem_singleton.1 ht
    exact nodup_textSet _

/-- Whatever views are suggested and wanted, the names of the planned tasks differ; there is one
task without dependencies for each wanted view, in the order of the views, and after them one task
that depends on exactly these; and the tasks pass the check. -/
theorem planTasks_graph :
    ((planTasks p suggestions).map (·.id)).Nodup ∧
    (∃ views last, planTasks p suggestions = views ++ [last] ∧
      List.Forall₂ (fun t s => t = taskFor p t.id s) views
        (suggestions.filter fun s => p.includes s.kind) ∧
      (∀ t ∈ views, t.kind = .component ∧ t.dependencies = []) ∧
      last.kind = .integration ∧ last.dependencies.Nodup ∧
      ∀ d, d ∈ last.dependencies ↔ d ∈ views.map (·.id)) ∧
    checkGraph (planTasks p suggestions) = .ok () := by
  refine ⟨nodup_planTasks p suggestions, ⟨viewTasks p suggestions, lastTask p suggestions,
    planTasks_eq p suggestions, viewTasks_forall₂ p suggestions,
    fun t ht => of_mem_viewTasks p suggestions ht, rfl, nodup_textSet _,
    mem_dependencies_lastTask p suggestions⟩, ?_⟩
  exact checkGraph_of_runnable (nodup_dependencies_planTasks p suggestions)
    (runnable_planTasks p suggestions)

end Graph

end Mockup
