import Mathlib.Data.String.Basic
import Mockup.Proofs.Store.History
import Mockup.Store.Query

/-!
# Listings and their pages

The wanted items of a store have one order, which depends on nothing but the items.  A query shows a
slice of them and the offset of the next slice.

* `Filters.Admits`: the condition of the filters on an item, with `Filters.holds_iff`;
* `Query.Before`: the order of the wanted items, with `Query.before_of_precedes`;
* `Listing`: the wanted items in that order, with `Listing.eq` and `Store.Distinct.listing_select`;
* `Page.Shows`: a page is a slice of a listing, with `Listing.shows_query`;
* `Walk`: from page to page, with `Listing.exists_walk`;
* `query_lists`: every page shows its part of the one listing, and the pages show all of it.
-/

namespace Mockup

/-! ### Which items are wanted -/

theorem Text.occursIn_iff {part text : List Char} :
    occursIn part text = true ↔ part <:+: text := by
  induction text with
  | nil => simp [occursIn]
  | cons c cs ih =>
    rw [List.infix_cons_iff, ← ih, ← List.isPrefixOf_iff_prefix, occursIn, Bool.or_eq_true]

/-- The item is wanted: it has all that is asked for. -/
structure Filters.Admits (f : Filters) (item : StoredMockup) : Prop where
  name : ∀ part, f.nameContains = some part →
    (Text.lower part).toList <:+: (Text.lower item.name).toList
  status : ∀ status, f.status = some status → item.status = status
  tag : ∀ tag, f.tag = some tag → tag ∈ item.tags
  table : ∀ name, f.table = some name → ∃ t ∈ item.artifact.schema.tables, t.name = name

theorem Filters.holds_iff {f : Filters} {item : StoredMockup} :
    f.holds item = true ↔ f.Admits item := by
  simp only [holds, Bool.and_eq_true, Option.all_eq_true, Text.occursIn_iff, beq_iff_eq,
    List.contains_iff_mem, Artifact.tableNames, List.mem_map]
  constructor
  · rintro ⟨⟨⟨hname, hstatus⟩, htag⟩, htable⟩
    exact ⟨hname, hstatus, htag, htable⟩
  · rintro ⟨hname, hstatus, htag, htable⟩
    exact ⟨⟨⟨hname, hstatus⟩, htag⟩, htable⟩

/-! ### In which order they stand -/

/-- One item comes before another: by the field, or by the name under which it is kept if the field
is the same. -/
def StoredMockup.Before {α : Type} [LT α] (field : StoredMockup → α) (a b : StoredMockup) : Prop :=
  field a < field b ∨ field a = field b ∧ a.id.value < b.id.value

/-- One item comes before another from the least on. -/
def SortKey.Before : SortKey → StoredMockup → StoredMockup → Prop
  | .createdAt => StoredMockup.Before (·.createdAt)
  | .updatedAt => StoredMockup.Before (·.updatedAt)
  | .name => StoredMockup.Before (·.name)

/-- One item comes before another in the direction that is asked for. -/
def Query.Before (q : Query) (a b : StoredMockup) : Prop :=
  match q.order with
  | .rising => q.sort.Before a b
  | .falling => q.sort.Before b a

/-- The other direction. -/
def Order.opposite : Order → Order
  | .rising => .falling
  | .falling => .rising

theorem SortKey.compare_eq_lt_iff {k : SortKey} {a b : StoredMockup} :
    k.compare a b = .lt ↔ k.Before a b := by
  cases k <;> simp only [SortKey.compare, SortKey.Before, StoredMockup.Before, Ordering.then_eq_lt,
    compare_lt_iff_lt, compare_eq_iff_eq]

/-- To compare items is to compare the field, and then the names under which they are kept. -/
instance SortKey.transCmp_compare (k : SortKey) : Std.TransCmp k.compare := by
  have hid : Std.TransCmp fun a b : StoredMockup => Ord.compare a.id.value b.id.value :=
    inferInstanceAs (Std.TransCmp (compareOn fun a : StoredMockup => a.id.value))
  cases k with
  | createdAt =>
    exact inferInstanceAs (Std.TransCmp (compareLex
      (compareOn fun a : StoredMockup => a.createdAt) (compareOn fun a => a.id.value)))
  | updatedAt =>
    exact inferInstanceAs (Std.TransCmp (compareLex
      (compareOn fun a : StoredMockup => a.updatedAt) (compareOn fun a => a.id.value)))
  | name =>
    exact inferInstanceAs (Std.TransCmp (compareLex
      (compareOn fun a : StoredMockup => a.name) (compareOn fun a => a.id.value)))

theorem SortKey.Before.asymm {k : SortKey} {a b : StoredMockup} (h : k.Before a b) :
    ¬ k.Before b a := by
  have hswap : k.compare b a = (k.compare a b).swap := Std.OrientedCmp.eq_swap
  rw [← SortKey.compare_eq_lt_iff] at *
  rw [hswap, h]
  decide

namespace Query

variable {q : Query} {a b c : StoredMockup}

theorem precedes_trans (a b c : StoredMockup) (hab : q.precedes a b = true)
    (hbc : q.precedes b c = true) : q.precedes a c = true := by
  unfold precedes at *
  cases horder : q.order <;> simp only [horder] at hab hbc ⊢
  · exact Std.TransCmp.isLE_trans hab hbc
  · exact Std.TransCmp.isLE_trans hbc hab

theorem precedes_total (q : Query) (a b : StoredMockup) :
    (q.precedes a b || q.precedes b a) = true := by
  have hswap : q.sort.compare a b = (q.sort.compare b a).swap := Std.OrientedCmp.eq_swap
  unfold precedes
  cases q.order <;> simp only [hswap] <;> cases q.sort.compare b a <;> rfl

/-- Of items under different names, the one that may stand first comes first. -/
theorem before_of_precedes (h : q.precedes a b = true) (hid : a.id ≠ b.id) : q.Before a b := by
  have hne : ∀ {a b : StoredMockup}, a.id ≠ b.id → q.sort.compare a b ≠ .eq := fun hid heq =>
    hid (congrArg StoreId.mk (compare_eq_iff_eq.1 (Ordering.then_eq_eq.1 heq).2))
  have hlt : ∀ {a b : StoredMockup}, a.id ≠ b.id → (q.sort.compare a b).isLE = true →
      q.sort.Before a b := by
    intro a b hid hle
    rw [← SortKey.compare_eq_lt_iff]
    cases hc : q.sort.compare a b with
    | lt => rfl
    | eq => exact absurd hc (hne hid)
    | gt => rw [hc] at hle; cases hle
  unfold precedes at h
  unfold Before
  cases horder : q.order <;> simp only [horder] at h ⊢
  · exact hlt hid h
  · exact hlt hid.symm h

theorem Before.asymm (h : q.Before a b) : ¬ q.Before b a := by
  unfold Before at *
  cases horder : q.order <;> simp only [horder] at h ⊢ <;> exact SortKey.Before.asymm h

end Query

/-! ### The listing -/

/-- The wanted items of a store, in order. -/
structure Listing (s : Store) (q : Query) (l : List StoredMockup) : Prop where
  mem_iff : ∀ item, item ∈ l ↔ item ∈ s.items ∧ q.filters.Admits item
  sorted : l.Pairwise q.Before

namespace Listing

variable {s : Store} {q : Query} {l l' : List StoredMockup}

theorem nodup (h : Listing s q l) : l.Nodup :=
  h.sorted.imp fun hab heq => by
    subst heq
    exact hab.asymm hab

/-- There is only one such listing. -/
theorem eq (h : Listing s q l) (h' : Listing s q l') : l = l' := by
  have hperm : l.Perm l' := (List.perm_ext_iff_of_nodup h.nodup h'.nodup).2 fun item =>
    (h.mem_iff item).trans (h'.mem_iff item).symm
  exact hperm.eq_of_pairwise (fun _ _ _ _ hab hba => absurd hba hab.asymm) h.sorted h'.sorted

/-- The order in which a store holds its items does not matter. -/
theorem of_perm {s' : Store} (h : Listing s q l) (hperm : s'.items.Perm s.items) :
    Listing s' q l where
  mem_iff item := by rw [h.mem_iff, hperm.mem_iff]
  sorted := h.sorted

/-- In the other direction stands the listing from its end. -/
theorem reverse (h : Listing s q l) : Listing s { q with order := q.order.opposite } l.reverse where
  mem_iff item := by rw [List.mem_reverse, h.mem_iff]
  sorted := by
    rw [List.pairwise_reverse]
    refine h.sorted.imp fun {a b} hab => ?_
    unfold Query.Before at *
    cases horder : q.order <;> simpa only [horder, Order.opposite] using hab

end Listing

theorem Store.Distinct.listing_select {s : Store} (h : s.Distinct) (q : Query) :
    Listing s q (s.select q) where
  mem_iff item := by simp [select, Filters.holds_iff]
  sorted := by
    have hperm : (s.select q).Perm (s.items.filter q.filters.holds) := List.mergeSort_perm _ _
    have hids : ((s.select q).map (·.id)).Nodup :=
      (hperm.map _).nodup_iff.2 (h.sublist (List.filter_sublist.map _))
    have hsorted : (s.select q).Pairwise fun a b => q.precedes a b = true :=
      List.pairwise_mergeSort Query.precedes_trans (Query.precedes_total q) _
    exact hsorted.imp₂ (fun _ _ => Query.before_of_precedes) (List.pairwise_map.1 hids)

/-! ### Pages -/

/-- The page is the slice of the listing, with its length and the offset of the next slice. -/
structure Page.Shows (page : Page) (found : List StoredMockup) (offset limit : Nat) : Prop where
  items_eq : page.items = (found.drop offset).take limit
  total_eq : page.total = found.length
  hasMore_iff : page.hasMore = true ↔ found.drop (offset + limit) ≠ []
  nextOffset_eq : page.nextOffset
    = if page.hasMore then some (offset + page.items.length) else none

/-- The pages from a place on: from each of them one goes to the place that it names. -/
inductive Walk (s : Store) (q : Query) : Nat → List (List StoredMockup) → Prop
  | last {offset : Nat} (h : (s.query { q with offset }).nextOffset = none) :
      Walk s q offset [(s.query { q with offset }).items]
  | next {offset next : Nat} {rest : List (List StoredMockup)}
      (h : (s.query { q with offset }).nextOffset = some next) (hrest : Walk s q next rest) :
      Walk s q offset ((s.query { q with offset }).items :: rest)

/-- There is only one way through the pages. -/
theorem Walk.eq {s : Store} {q : Query} {offset : Nat} {pages pages' : List (List StoredMockup)}
    (h : Walk s q offset pages) (h' : Walk s q offset pages') : pages = pages' := by
  induction h generalizing pages' with
  | last hlast =>
    cases h' with
    | last => rfl
    | next hnext => rw [hlast] at hnext; cases hnext
  | next hnext _ ih =>
    cases h' with
    | last hlast => rw [hnext] at hlast; cases hlast
    | next hnext' hrest' =>
      rw [hnext] at hnext'
      cases hnext'
      rw [ih hrest']

namespace Store

variable {s : Store} {q : Query}

theorem length_query (s : Store) (q : Query) :
    (s.query q).items.length = min q.limit ((s.select q).length - q.offset) := by
  simp only [query, List.length_take, List.length_drop]

/-- A page names a place just if there are items behind it. -/
theorem nextOffset_eq_some_iff {next : Nat} : (s.query q).nextOffset = some next ↔
    q.offset + q.limit < (s.select q).length ∧ next = q.offset + q.limit := by
  have hlen := length_query s q
  simp only [query, List.length_take, List.length_drop] at hlen ⊢
  split
  · simp only [Option.some.injEq]
    omega
  · simp only [reduceCtorEq, false_iff]
    omega

theorem shows_query (s : Store) (q : Query) :
    (s.query q).Shows (s.select q) q.offset q.limit where
  items_eq := rfl
  total_eq := rfl
  hasMore_iff := by
    rw [ne_eq, List.drop_eq_nil_iff, Nat.not_le, Page.hasMore, Option.isSome_iff_exists]
    simp [nextOffset_eq_some_iff]
  nextOffset_eq := by
    simp only [query, Page.hasMore]
    split <;> rfl

/-- From every place on the pages show what is left of the listing, and come to an end. -/
theorem exists_walk (hlimit : 0 < q.limit) (offset : Nat) :
    ∃ pages, Walk s q offset pages ∧ pages.flatten = (s.select q).drop offset := by
  -- every page takes the place nearer to the end of the listing
  induction hleft : (s.select q).length - offset using Nat.strongRecOn generalizing offset with
  | ind left ih =>
    have hitems : (s.query { q with offset }).items
        = ((s.select q).drop offset).take q.limit := rfl
    cases hnext : (s.query { q with offset }).nextOffset with
    | none =>
      refine ⟨_, .last hnext, ?_⟩
      have hend : ¬ offset + q.limit < (s.select q).length := fun hlt => by
        rw [(nextOffset_eq_some_iff (q := { q with offset })).2 ⟨hlt, rfl⟩] at hnext
        cases hnext
      rw [List.flatten_singleton, hitems, List.take_of_length_le]
      rw [List.length_drop]
      omega
    | some next =>
      obtain ⟨hlt, rfl⟩ := (nextOffset_eq_some_iff (q := { q with offset })).1 hnext
      change offset + q.limit < (s.select q).length at hlt
      obtain ⟨rest, hrest, hflatten⟩ := ih _ (by omega) (offset + q.limit) rfl
      refine ⟨_, .next hnext hrest, ?_⟩
      rw [List.flatten_cons, hflatten, hitems, ← List.drop_drop, List.take_append_drop]

end Store

/-- Take a store that keeps no two items under one name, and any query that asks for at least one
item.  The wanted items have one listing.  The page shows its part of the listing, says how long
that is and where the next part begins if there is one; with numbers of 64 bits nothing overflows.
In the other direction the listing is the same from its end, and the page does not depend on the
order in which the store holds its items.  From the start on the pages lead to an end, and show the
whole listing. -/
theorem query_lists (s : Store) (hids : s.Distinct) (q : Query) (hlimit : 0 < q.limit) :
    ∃ found, Listing s q found ∧ (∀ l, Listing s q l → l = found) ∧
      (s.query q).Shows found q.offset q.limit ∧
      (q.offset ≤ maxWord64 → s.size ≤ maxWord64 →
        q.offset + (s.query q).items.length ≤ maxWord64 ∧ (s.query q).total ≤ maxWord64) ∧
      (∀ l, Listing s { q with order := q.order.opposite } l ↔ l = found.reverse) ∧
      (∀ s' : Store, s'.items.Perm s.items → s'.query q = s.query q) ∧
      ∃ pages, Walk s q 0 pages ∧ (∀ pages', Walk s q 0 pages' → pages' = pages) ∧
        pages.flatten = found := by
  have hlisting := hids.listing_select q
  refine ⟨s.select q, hlisting, fun l hl => hl.eq hlisting, s.shows_query q,
    fun hoffset hsize => ?_, fun l => ⟨fun hl => hl.eq hlisting.reverse, ?_⟩,
    fun s' hperm => ?_, ?_⟩
  · have hle : (s.select q).length ≤ s.size := by
      rw [Store.select, List.length_mergeSort]
      exact List.length_filter_le _ _
    have hlen := s.length_query q
    refine ⟨?_, Nat.le_trans hle hsize⟩
    omega
  · rintro rfl
    exact hlisting.reverse
  · have hids' : s'.Distinct := (hperm.map _).nodup_iff.2 hids
    have hsame : s'.select q = s.select q :=
      (hids'.listing_select q).eq (hlisting.of_perm hperm)
    simp only [Store.query, hsame]
  · obtain ⟨pages, hwalk, hflatten⟩ := Store.exists_walk (s := s) hlimit 0
    exact ⟨pages, hwalk, fun pages' hwalk' => hwalk'.eq hwalk, hflatten⟩

/-- An item of that name. -/
def sampleItem (id : Nat) (name : String) : StoredMockup :=
  { id := ⟨id⟩, name, description := "A draft", status := .draft, tags := [],
    artifact := sampleArtifact name, version := 1, createdAt := id, updatedAt := id }

/-- Four items, two of which have one name. -/
def sampleStore : Store where
  items := [sampleItem 3 "Shop", sampleItem 1 "Depot", sampleItem 4 "Yard", sampleItem 2 "Shop"]

/-- The items with an O in their names, two at a time, from the last name on. -/
def sampleQuery : Query :=
  { filters := { nameContains := some "O" }, sort := .name, order := .falling, limit := 2 }

theorem query_lists_sampleStore : sampleStore.Distinct ∧ 0 < sampleQuery.limit ∧
    ∃ found, Listing sampleStore sampleQuery found ∧ found.map (·.id.value) = [3, 2, 1] ∧
      (sampleStore.query sampleQuery).Shows found 0 2 ∧
      (sampleStore.query sampleQuery).nextOffset = some 2 ∧
      ∃ pages, Walk sampleStore sampleQuery 0 pages ∧ pages.flatten = found := by
  have hids : sampleStore.Distinct := by unfold Store.Distinct; decide
  obtain ⟨found, hfound, hunique, hshows, -, -, -, pages, hwalk, -, hflatten⟩ :=
    query_lists sampleStore hids sampleQuery (by decide)
  have hwanted : sampleStore.items.filter sampleQuery.filters.holds
      = [sampleItem 3 "Shop", sampleItem 1 "Depot", sampleItem 2 "Shop"] := by decide +kernel
  have hselect : sampleStore.select sampleQuery
      = [sampleItem 3 "Shop", sampleItem 2 "Shop", sampleItem 1 "Depot"] := by
    have hfirst : sampleQuery.precedes (sampleItem 3 "Shop") (sampleItem 1 "Depot") = true := by
      decide +kernel
    have hsame : sampleQuery.precedes (sampleItem 3 "Shop") (sampleItem 2 "Shop") = true := by
      decide +kernel
    have hlast : sampleQuery.precedes (sampleItem 1 "Depot") (sampleItem 2 "Shop") = false := by
      decide +kernel
    rw [Store.select, hwanted]
    simp [List.mergeSort, List.MergeSort.Internal.splitInTwo, hfirst, hsame, hlast]
  obtain rfl : found = _ := (hunique _ (hids.listing_select sampleQuery)).symm.trans hselect
  refine ⟨hids, by decide, _, hfound, rfl, hshows, ?_, pages, hwalk, hflatten⟩
  rw [Store.nextOffset_eq_some_iff, hselect]
  decide

end Mockup
