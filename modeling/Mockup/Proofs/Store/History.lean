import Mathlib.Algebra.Group.Nat.Defs
import Mathlib.Data.List.Induction
import Mathlib.Data.List.Nodup
import Mockup.Store.Basic

/-!
# The history of a store

A store is asked for one change after the other, and answers each.  What it holds is what the log of
these changes and answers tells.

* `Store.Distinct`: no two items are kept under one name;
* `Store.get?_insert`, `Store.get?_map_apply`: the item under a name after a change;
* `Patch.Makes`, `Store.Updates`: the outcome of an update, with `Store.Distinct.updates`;
* `Change`, `Deed`, `History`: changes of a store, with its answers;
* `latest?`: the item that the last successful change under a name left;
* `Records`: an item agrees with a log;
* `History.Sound`: the store agrees with the log, with `History.Sound.add`;
* `history_recorded`: so it does after any row of changes.
-/

namespace Mockup

/-! ### Items under their names -/

/-- No two items are kept under one name. -/
def Store.Distinct (s : Store) : Prop :=
  (s.items.map (·.id)).Nodup

namespace Store

variable {s : Store} {id : StoreId} {item : StoredMockup}

theorem mem_of_get? (h : s.get? id = some item) : item ∈ s.items ∧ item.id = id :=
  ⟨List.mem_of_find?_eq_some h, by simpa using List.find?_some h⟩

theorem get?_eq_none_iff : s.get? id = none ↔ ∀ item ∈ s.items, item.id ≠ id := by
  simp [get?, List.find?_eq_none]

/-- Items of other names are found as if the others were not there. -/
theorem find?_filter_id {items : List StoredMockup} {id id' : StoreId} (h : id ≠ id') :
    (items.filter (·.id ≠ id)).find? (·.id == id') = items.find? (·.id == id') := by
  rw [List.find?_filter]
  congr 1
  funext i
  by_cases hi : i.id = id'
  · simp [hi, Ne.symm h]
  · simp [hi]

/-- An item that is put in is found under its name, and the others as before. -/
theorem get?_insert (s : Store) (item : StoredMockup) (id : StoreId) :
    (s.insert item).get? id = if item.id = id then some item else s.get? id := by
  simp only [get?, insert, List.find?_append]
  split
  · next hid =>
    have hnone : (s.items.filter (·.id ≠ item.id)).find? (·.id == id) = none := by
      simp [List.find?_eq_none, hid]
    rw [hnone]
    simp [hid]
  · next hid =>
    rw [find?_filter_id hid]
    simp [hid]

/-- The items of a store are found where they were when some of them are patched. -/
theorem get?_map_apply (s : Store) (p : Patch) (now : Nat) (id id' : StoreId) :
    (⟨s.items.map fun i => if i.id = id then p.apply now i else i⟩ : Store).get? id'
      = (s.get? id').map fun i => if i.id = id then p.apply now i else i := by
  simp only [get?, List.find?_map]
  congr 2
  funext i
  simp only [Function.comp_apply]
  split <;> rfl

theorem Distinct.insert (h : s.Distinct) (item : StoredMockup) : (s.insert item).Distinct := by
  simp only [Distinct, Store.insert, List.map_append, List.map_singleton]
  refine List.nodup_append.2 ⟨h.sublist (List.filter_sublist.map _), List.nodup_singleton _, ?_⟩
  rintro a ha b hb rfl
  obtain ⟨i, hi, rfl⟩ := List.mem_map.1 ha
  simp at hi hb
  exact hi.2 hb

theorem Distinct.map_apply (h : s.Distinct) (p : Patch) (now : Nat) (id : StoreId) :
    (⟨s.items.map fun i => if i.id = id then p.apply now i else i⟩ : Store).Distinct := by
  have hids : (s.items.map fun i => if i.id = id then p.apply now i else i).map (·.id)
      = s.items.map (·.id) := by
    rw [List.map_map]
    refine List.map_congr_left fun i _ => ?_
    simp only [Function.comp_apply]
    split <;> rfl
  rw [Distinct, hids]
  exact h

end Store

/-! ### What an update does -/

/-- A field takes the value that it is given, or keeps the one that it has. -/
inductive Takes {α : Type} : (given : Option α) → (old new : α) → Prop
  | kept (old : α) : Takes none old old
  | set (old new : α) : Takes (some new) old new

theorem takes_getD {α : Type} (given : Option α) (old : α) : Takes given old (given.getD old) := by
  cases given with
  | none => exact .kept old
  | some new => exact .set old new

/-- The item after a patch is the next version, changed as the patch says, and in all else as it
was.  A new name or description is also that of the mockup. -/
structure Patch.Makes (p : Patch) (now : Nat) (item next : StoredMockup) : Prop where
  name : Takes p.name item.name next.name
  artifact_name : Takes p.name item.artifact.name next.artifact.name
  description : Takes p.description item.description next.description
  artifact_description : Takes p.description item.artifact.description next.artifact.description
  status : Takes p.status item.status next.status
  tags : Takes p.tags item.tags next.tags
  eq_with : next = { item with
    name := next.name
    description := next.description
    status := next.status
    tags := next.tags
    artifact := { item.artifact with
      name := next.artifact.name
      description := next.artifact.description }
    version := item.version + 1
    updatedAt := now }

theorem Patch.makes_apply (p : Patch) (now : Nat) (item : StoredMockup) :
    p.Makes now item (p.apply now item) where
  name := takes_getD _ _
  artifact_name := takes_getD _ _
  description := takes_getD _ _
  artifact_description := takes_getD _ _
  status := takes_getD _ _
  tags := takes_getD _ _
  eq_with := rfl

/-- The patch gives a blank name. -/
def Patch.Blanks (p : Patch) : Prop :=
  ∃ name, p.name = some name ∧ isBlankText name = true

/-- The store after an update, and its answer.  The refusals come in this order. -/
inductive Store.Updates (s : Store) (id : StoreId) (now : Nat) (p : Patch) :
    Store → Except StoreFault StoredMockup → Prop
  | emptyPatch (hempty : p = {}) : Updates s id now p s (.error .emptyPatch)
  | blankName (hsome : p ≠ {}) (hblank : p.Blanks) : Updates s id now p s (.error .blankName)
  | notFound (hsome : p ≠ {}) (hname : ¬ p.Blanks) (hid : ∀ item ∈ s.items, item.id ≠ id) :
      Updates s id now p s (.error (.notFound id))
  | changed (hsome : p ≠ {}) (hname : ¬ p.Blanks) {pre post : List StoredMockup}
      {item next : StoredMockup} (hitems : s.items = pre ++ item :: post) (hid : item.id = id)
      (hother : ∀ other ∈ pre ++ post, other.id ≠ id) (hnext : p.Makes now item next) :
      Updates s id now p ⟨pre ++ next :: post⟩ (.ok next)

theorem Patch.isEmpty_iff {p : Patch} : p.isEmpty = true ↔ p = {} := by
  obtain ⟨name, description, status, tags⟩ := p
  simp [isEmpty, and_assoc]

theorem Patch.any_isBlankText_iff {p : Patch} : p.name.any isBlankText = true ↔ p.Blanks := by
  simp [Blanks, Option.any_eq_true]

namespace Store

variable {s s' : Store} {id : StoreId} {now : Nat} {p : Patch} {item : StoredMockup}

theorem update_of_emptyPatch (s : Store) (id : StoreId) (now : Nat) (h : p = {}) :
    s.update id now p = .error .emptyPatch := by
  simp [update, checkPatch, Patch.isEmpty_iff.2 h, bind, Except.bind]

theorem update_of_blankName (s : Store) (id : StoreId) (now : Nat) (h : p ≠ {}) (hb : p.Blanks) :
    s.update id now p = .error .blankName := by
  simp [update, checkPatch, Patch.isEmpty_iff.not.2 h, Patch.any_isBlankText_iff.2 hb, bind,
    Except.bind]

theorem update_of_named (s : Store) (id : StoreId) (now : Nat) (h : p ≠ {}) (hb : ¬ p.Blanks) :
    s.update id now p = match s.get? id with
      | none => .error (.notFound id)
      | some item =>
        .ok (⟨s.items.map fun i => if i.id = id then p.apply now i else i⟩, p.apply now item) := by
  simp only [update, checkPatch, Patch.isEmpty_iff.not.2 h, Patch.any_isBlankText_iff.not.2 hb]
  rfl

/-- An update that succeeds patches the items of that name. -/
theorem of_update_eq_ok (h : s.update id now p = .ok (s', item)) : ∃ old, s.get? id = some old ∧
    item = p.apply now old ∧
    s' = ⟨s.items.map fun i => if i.id = id then p.apply now i else i⟩ := by
  by_cases hempty : p = {}
  · rw [update_of_emptyPatch s id now hempty] at h
    cases h
  by_cases hblank : p.Blanks
  · rw [update_of_blankName s id now hempty hblank] at h
    cases h
  rw [update_of_named s id now hempty hblank] at h
  cases hget : s.get? id with
  | none => rw [hget] at h; cases h
  | some old => rw [hget] at h; cases h; exact ⟨old, rfl, rfl, rfl⟩

end Store

/-! ### Changes and answers -/

/-- The operations that change a store. -/
inductive Change where
  | create (id : StoreId) (now : Nat) (artifact : Artifact) (tags : List String)
  | update (id : StoreId) (now : Nat) (patch : Patch)

namespace Change

/-- The name of the item that is put in or changed. -/
def id : Change → StoreId
  | .create id _ _ _ | .update id _ _ => id

/-- The name under which an item is put in. -/
def created? : Change → Option StoreId
  | .create id _ _ _ => some id
  | .update _ _ _ => none

/-- The operation is an update. -/
def isUpdate : Change → Bool
  | .create _ _ _ _ => false
  | .update _ _ _ => true

end Change

/-- The store after a change, and the answer. -/
def Store.perform (s : Store) : Change → Store × Except StoreFault StoredMockup
  | .create id now artifact tags =>
    ((s.create id now artifact tags).1, .ok (s.create id now artifact tags).2)
  | .update id now p => match s.update id now p with
    | .ok (next, item) => (next, .ok item)
    | .error fault => (s, .error fault)

/-- If no two items are kept under one name, an update changes one item or nothing. -/
theorem Store.Distinct.updates {s : Store} (h : s.Distinct) (id : StoreId) (now : Nat) (p : Patch) :
    s.Updates id now p (s.perform (.update id now p)).1 (s.perform (.update id now p)).2 := by
  by_cases hempty : p = {}
  · simp only [perform, update_of_emptyPatch s id now hempty]
    exact .emptyPatch hempty
  by_cases hblank : p.Blanks
  · simp only [perform, update_of_blankName s id now hempty hblank]
    exact .blankName hempty hblank
  simp only [perform, update_of_named s id now hempty hblank]
  cases hget : s.get? id with
  | none => exact .notFound hempty hblank (get?_eq_none_iff.1 hget)
  | some item =>
    obtain ⟨hmem, rfl⟩ := mem_of_get? hget
    obtain ⟨pre, post, hitems⟩ := List.append_of_mem hmem
    have hother : ∀ other ∈ pre ++ post, other.id ≠ item.id := by
      rw [Distinct, hitems, (List.perm_middle.map _).nodup_iff, List.map_cons,
        List.nodup_cons] at h
      exact fun other hother heq => h.1 (heq ▸ List.mem_map_of_mem hother)
    -- the items around the one that is patched stay as they are
    have hkept : ∀ l : List StoredMockup, (∀ other ∈ l, other.id ≠ item.id) →
        l.map (fun i => if i.id = item.id then p.apply now i else i) = l := by
      intro l hl
      conv_rhs => rw [← List.map_id l]
      exact List.map_congr_left fun i hi => if_neg (hl i hi)
    rw [hitems, List.map_append, List.map_cons, if_pos rfl,
      hkept pre fun o ho => hother o (List.mem_append_left _ ho),
      hkept post fun o ho => hother o (List.mem_append_right _ ho)]
    exact .changed hempty hblank hitems rfl hother (p.makes_apply now item)

/-- A change, and the answer. -/
structure Deed where
  change : Change
  answer : Except StoreFault StoredMockup

namespace Deed

/-- The item that the change left. -/
def item? (d : Deed) : Option StoredMockup :=
  d.answer.toOption

/-- The operation is a successful update of the item of that name. -/
def updates (id : StoreId) : Deed → Bool
  | ⟨.update id' _ _, .ok _⟩ => id' == id
  | ⟨.update _ _ _, .error _⟩ | ⟨.create _ _ _ _, _⟩ => false

end Deed

/-- A store, and all that was asked of it. -/
structure History where
  store : Store := {}
  log : List Deed := []

namespace History

/-- The history with one more change. -/
def add (h : History) (c : Change) : History where
  store := (h.store.perform c).1
  log := h.log ++ [⟨c, (h.store.perform c).2⟩]

/-- The history of these changes, which begins with an empty store. -/
def ofList (changes : List Change) : History :=
  changes.foldl add {}

theorem ofList_concat (changes : List Change) (c : Change) :
    ofList (changes ++ [c]) = (ofList changes).add c := by
  simp [ofList]

theorem map_change_log (changes : List Change) :
    (ofList changes).log.map (·.change) = changes := by
  induction changes using List.reverseRecOn with
  | nil => rfl
  | append_singleton changes c ih => simp [ofList_concat, add, ih]

end History

/-! ### What a log tells -/

/-- The item that the last successful change under a name left. -/
def latest? (log : List Deed) (id : StoreId) : Option StoredMockup :=
  ((log.filter (·.change.id == id)).filterMap Deed.item?).getLast?

theorem latest?_concat (log : List Deed) (d : Deed) (id : StoreId) :
    latest? (log ++ [d]) id
      = if d.change.id = id then d.item?.or (latest? log id) else latest? log id := by
  unfold latest?
  by_cases hid : d.change.id = id
  · cases hitem : d.item? <;> simp [hid, hitem, List.filter_append]
  · simp [hid, List.filter_append]

/-- The names under which items were put in. -/
def createdIds (log : List Deed) : List StoreId :=
  log.filterMap (·.change.created?)

/-- The item agrees with the log: it was put in under its name, each successful update made one
version more, and the mockup has changed in name and description only. -/
structure Records (log : List Deed) (item : StoredMockup) : Prop where
  name_eq : item.name = item.artifact.name
  description_eq : item.description = item.artifact.description
  version_eq : item.version = 1 + log.countP (Deed.updates item.id)
  created : ∃ artifact tags, .create item.id item.createdAt artifact tags ∈ log.map (·.change) ∧
    item.artifact = { artifact with
      name := item.artifact.name, description := item.artifact.description }

namespace Records

variable {log : List Deed} {item : StoredMockup} {d : Deed}

theorem mem_createdIds (h : Records log item) : item.id ∈ createdIds log := by
  obtain ⟨artifact, tags, hmem, -⟩ := h.created
  obtain ⟨d, hd, hchange⟩ := List.mem_map.1 hmem
  exact List.mem_filterMap.2 ⟨d, hd, by rw [hchange]; rfl⟩

/-- A change of another item tells nothing of this one. -/
theorem concat (h : Records log item) (hd : d.updates item.id = false) :
    Records (log ++ [d]) item where
  name_eq := h.name_eq
  description_eq := h.description_eq
  version_eq := by simpa [List.countP_append, hd] using h.version_eq
  created := by
    obtain ⟨artifact, tags, hmem, heq⟩ := h.created
    exact ⟨artifact, tags, by rw [List.map_append]; exact List.mem_append_left _ hmem, heq⟩

theorem apply (h : Records log item) (p : Patch) (now : Nat) (hd : d.updates item.id = true) :
    Records (log ++ [d]) (p.apply now item) where
  name_eq := by simp [Patch.apply, h.name_eq]
  description_eq := by simp [Patch.apply, h.description_eq]
  version_eq := by
    have hversion := h.version_eq
    simp only [Patch.apply, List.countP_append, List.countP_singleton, hd, if_true]
    omega
  created := by
    obtain ⟨artifact, tags, hmem, heq⟩ := h.created
    refine ⟨artifact, tags, by rw [List.map_append]; exact List.mem_append_left _ hmem, ?_⟩
    simp only [Patch.apply]
    rw [heq]

end Records

/-! ### The store agrees with the log -/

/-- The store agrees with the log. -/
structure History.Sound (h : History) : Prop where
  distinct : h.store.Distinct
  records : ∀ item ∈ h.store.items, Records h.log item
  created_of_updates : ∀ d ∈ h.log, ∀ id, d.updates id = true → id ∈ createdIds h.log
  get?_eq : ∀ id, h.store.get? id = latest? h.log id

namespace History.Sound

variable {h : History}

theorem fresh : Sound {} where
  distinct := List.nodup_nil
  records := by simp
  created_of_updates := by simp
  get?_eq _ := rfl

/-- Only items that were put in are updated, if the last update is one of such an item, too. -/
theorem created_concat (hs : h.Sound) {d : Deed}
    (hd : ∀ id, d.updates id = true → id ∈ createdIds h.log) :
    ∀ d' ∈ h.log ++ [d], ∀ id, d'.updates id = true → id ∈ createdIds (h.log ++ [d]) := by
  intro d' hd' id hupdates
  rw [createdIds, List.filterMap_append]
  refine List.mem_append_left _ ?_
  rcases List.mem_append.1 hd' with hd' | hd'
  · exact hs.created_of_updates d' hd' id hupdates
  · obtain rfl := List.mem_singleton.1 hd'
    exact hd id hupdates

theorem add_create (hs : h.Sound) {id : StoreId} (hid : id ∉ createdIds h.log) (now : Nat)
    (artifact : Artifact) (tags : List String) : (h.add (.create id now artifact tags)).Sound := by
  have hnone : h.log.countP (Deed.updates id) = 0 := by
    refine List.countP_eq_zero.2 fun d hd hupdates => hid ?_
    exact hs.created_of_updates d hd id hupdates
  refine ⟨hs.distinct.insert _, fun item hitem => ?_, ?_, fun id' => ?_⟩
  · rcases List.mem_append.1 hitem with hitem | hitem
    · exact (hs.records item (List.mem_filter.1 hitem).1).concat rfl
    · obtain rfl := List.mem_singleton.1 hitem
      refine ⟨rfl, rfl, ?_, artifact, tags, by simp [add], rfl⟩
      simp [add, List.countP_append, hnone, Deed.updates]
  · exact hs.created_concat (by simp [Deed.updates])
  · show (h.store.insert _).get? id' = _
    rw [Store.get?_insert, add, latest?_concat, hs.get?_eq]
    rfl

/-- An update that is refused changes nothing, and nothing is told but that. -/
theorem add_refused (hs : h.Sound) {id : StoreId} {now : Nat} {p : Patch} {fault : StoreFault}
    (hup : h.store.update id now p = .error fault) : (h.add (.update id now p)).Sound := by
  have hadd : h.add (.update id now p)
      = ⟨h.store, h.log ++ [⟨.update id now p, .error fault⟩]⟩ := by
    simp only [add, Store.perform, hup]
  rw [hadd]
  refine ⟨hs.distinct, fun item hitem => (hs.records item hitem).concat rfl,
    hs.created_concat (by simp [Deed.updates]), fun id' => ?_⟩
  rw [latest?_concat, hs.get?_eq]
  split <;> rfl

/-- An update that succeeds changes one item, and the change is told. -/
theorem add_patched (hs : h.Sound) {id : StoreId} {now : Nat} {p : Patch} {next : Store}
    {item : StoredMockup} (hup : h.store.update id now p = .ok (next, item)) :
    (h.add (.update id now p)).Sound := by
  obtain ⟨old, hold, rfl, rfl⟩ := Store.of_update_eq_ok hup
  obtain ⟨hmem, hid⟩ := Store.mem_of_get? hold
  have hadd : h.add (.update id now p)
      = ⟨⟨h.store.items.map fun i => if i.id = id then p.apply now i else i⟩,
        h.log ++ [⟨.update id now p, .ok (p.apply now old)⟩]⟩ := by
    simp only [add, Store.perform, hup]
  rw [hadd]
  refine ⟨hs.distinct.map_apply p now id, fun item hitem => ?_, ?_, fun id' => ?_⟩
  · obtain ⟨i, hi, rfl⟩ := List.mem_map.1 hitem
    split
    · next heq => exact (hs.records i hi).apply p now (by simp [Deed.updates, heq])
    · next hne => exact (hs.records i hi).concat (by simp [Deed.updates, Ne.symm hne])
  · refine hs.created_concat fun id' hupdates => ?_
    obtain rfl : id = id' := by simpa [Deed.updates] using hupdates
    exact hid ▸ (hs.records old hmem).mem_createdIds
  · rw [Store.get?_map_apply, latest?_concat]
    show _ = if id = id' then some (p.apply now old) else latest? h.log id'
    by_cases heq : id = id'
    · subst heq
      simp [hold, hid]
    · rw [if_neg heq, ← hs.get?_eq]
      cases hget : h.store.get? id' with
      | none => rfl
      | some i =>
        have hi : i.id ≠ id := (Store.mem_of_get? hget).2.trans_ne (Ne.symm heq)
        simp [hi]

/-- A store that agrees with its log still does after one more change, if items are put in under new
names. -/
theorem add (hs : h.Sound) (c : Change) (hid : ∀ id, c.created? = some id → id ∉ createdIds h.log) :
    (h.add c).Sound := by
  cases c with
  | create id now artifact tags => exact hs.add_create (hid id rfl) now artifact tags
  | update id now p =>
    cases hup : h.store.update id now p with
    | error fault => exact hs.add_refused hup
    | ok answer => exact hs.add_patched hup

theorem ofList {changes : List Change} (hids : (changes.filterMap Change.created?).Nodup) :
    (History.ofList changes).Sound := by
  induction changes using List.reverseRecOn with
  | nil => exact fresh
  | append_singleton changes c ih =>
    rw [List.filterMap_append, List.nodup_append] at hids
    rw [ofList_concat]
    refine (ih hids.1).add c fun id hid hmem => ?_
    have hcreated : createdIds (History.ofList changes).log
        = changes.filterMap Change.created? := by
      conv_rhs => rw [← map_change_log changes, List.filterMap_map]
      rfl
    exact hids.2.2 id (hcreated ▸ hmem) id (by simp [hid]) rfl

end History.Sound

/-- Take any row of changes in which items are put in under different names and fewer than
`2 ^ 32 - 1` updates are asked for, whether they succeed or not.  Then every item has the name and
the description of its mockup, one version more than there were successful updates of it, which is a
number of 32 bits, the name and the time under which it was put in, and a mockup that differs from
the one that was put in by name and description at most.  Under every name stands what the last
successful change left.  And one more update changes what its patch says in one item, with the
version and the time of change; or it is refused because the patch is empty, because it gives a
blank name, or because there is no such item, and changes nothing. -/
theorem history_recorded (changes : List Change)
    (hids : (changes.filterMap Change.created?).Nodup)
    (hfew : changes.countP Change.isUpdate < 2 ^ 32 - 1) :
    (History.ofList changes).log.map (·.change) = changes ∧
    (∀ item ∈ (History.ofList changes).store.items,
      Records (History.ofList changes).log item ∧ item.version < 2 ^ 32) ∧
    (∀ id, (History.ofList changes).store.get? id = latest? (History.ofList changes).log id) ∧
    ∀ id now p, ∃ answer,
      (History.ofList (changes ++ [.update id now p])).log
        = (History.ofList changes).log ++ [⟨.update id now p, answer⟩] ∧
      (History.ofList changes).store.Updates id now p
        (History.ofList (changes ++ [.update id now p])).store answer := by
  have hsound := History.Sound.ofList hids
  refine ⟨History.map_change_log changes, fun item hitem => ⟨hsound.records item hitem, ?_⟩,
    hsound.get?_eq, fun id now p => ?_⟩
  · -- no item was updated more often than updates were asked for
    have hle : (History.ofList changes).log.countP (Deed.updates item.id)
        ≤ changes.countP Change.isUpdate := by
      conv_rhs => rw [← History.map_change_log changes, List.countP_map]
      refine List.countP_mono_left fun d _ hd => ?_
      obtain ⟨_ | _, _ | _⟩ := d <;> simp_all [Deed.updates, Change.isUpdate]
    have hversion := (hsound.records item hitem).version_eq
    omega
  · refine ⟨((History.ofList changes).store.perform (.update id now p)).2, ?_, ?_⟩
    · rw [History.ofList_concat]
      rfl
    · rw [History.ofList_concat]
      exact hsound.distinct.updates id now p

/-- A mockup of that name. -/
def sampleArtifact (name : String) : Artifact :=
  { name, description := "A draft", schemaText := "", schema := {}, colorScheme := .light,
    componentStyle := "modern", merged := {} }

/-- Two items are put in and updated, and some updates are refused. -/
def sampleChanges : List Change :=
  [.update ⟨1⟩ 0 { name := some "Early" },
   .create ⟨1⟩ 1 (sampleArtifact "Shop") ["web"],
   .create ⟨2⟩ 2 (sampleArtifact "Depot") [],
   .update ⟨1⟩ 3 { name := some "Store", status := some .published },
   .update ⟨1⟩ 4 {},
   .update ⟨2⟩ 5 { name := some " " },
   .update ⟨1⟩ 6 { description := some "All goods" }]

theorem history_recorded_sampleChanges :
    (sampleChanges.filterMap Change.created?).Nodup ∧
    sampleChanges.countP Change.isUpdate < 2 ^ 32 - 1 ∧
    (History.ofList sampleChanges).store.items.map (fun item => (item.name, item.version))
      = [("Store", 3), ("Depot", 1)] ∧
    (∀ item ∈ (History.ofList sampleChanges).store.items,
      Records (History.ofList sampleChanges).log item ∧ item.version < 2 ^ 32) ∧
    ∀ id, (History.ofList sampleChanges).store.get? id
      = latest? (History.ofList sampleChanges).log id := by
  have hids : (sampleChanges.filterMap Change.created?).Nodup := by decide
  have hfew : sampleChanges.countP Change.isUpdate < 2 ^ 32 - 1 := by decide
  have hall := history_recorded sampleChanges hids hfew
  exact ⟨hids, hfew, by decide +kernel, hall.2.1, hall.2.2.1⟩

end Mockup
