import Mathlib.Data.Prod.Lex
import Mathlib.Data.String.Basic
import Mockup.View.Suggest

/-!
# The columns that stand for a row

* `Precedes`: which of two names comes first, a linear order on names;
* `Table.Arranged`: the names of a table's columns in that order;
* `leadColumns_first_six`: the columns that stand for a row are the first six of them, whatever the
  order of the columns in the table, and a new column moves none of the others.
-/

namespace Mockup

/-! ### The order of names -/

/-- The first name comes before the second one or is that name: it has a place further to the front
among the preferred names, behind which all other names share one place, or it has the same place
and is not behind the other in alphabetical order. -/
def Precedes (a b : String) : Prop :=
  nameRank a < nameRank b ∨ nameRank a = nameRank b ∧ a ≤ b

instance (a b : String) : Decidable (Precedes a b) :=
  inferInstanceAs (Decidable (_ ∨ _))

theorem comesFirst_iff {a b : String} : comesFirst a b = true ↔ Precedes a b := by
  simp only [comesFirst, Precedes, Bool.or_eq_true, Bool.and_eq_true, decide_eq_true_eq, beq_iff_eq,
    Bool.not_eq_true', decide_eq_false_iff_not, not_lt]

section Order

variable {a b c : String}

/-- Names are in order as the pairs of their place and themselves are. -/
theorem precedes_iff_toLex_le : Precedes a b ↔ toLex (nameRank a, a) ≤ toLex (nameRank b, b) := by
  rw [Prod.Lex.toLex_le_toLex, Precedes]

theorem Precedes.trans (hab : Precedes a b) (hbc : Precedes b c) : Precedes a c := by
  rw [precedes_iff_toLex_le] at *
  exact hab.trans hbc

theorem Precedes.antisymm (hab : Precedes a b) (hba : Precedes b a) : a = b := by
  rw [precedes_iff_toLex_le] at *
  exact (Prod.mk.inj (toLex_inj.1 (hab.antisymm hba))).2

theorem precedes_total (a b : String) : Precedes a b ∨ Precedes b a := by
  rw [precedes_iff_toLex_le, precedes_iff_toLex_le]
  exact le_total _ _

theorem nameRank_le (h : Precedes a b) : nameRank a ≤ nameRank b := by
  rcases h with hlt | ⟨heq, -⟩
  · exact hlt.le
  · exact heq.le

theorem mem_preferredNames_iff : a ∈ preferredNames ↔ nameRank a < preferredNames.length :=
  List.idxOf_lt_length_iff.symm

end Order

/-! ### Names in order -/

theorem arrange_perm (names : List String) : (arrange names).Perm names :=
  List.mergeSort_perm _ _

theorem pairwise_arrange (names : List String) : (arrange names).Pairwise Precedes := by
  have hsorted : (arrange names).Pairwise fun a b => comesFirst a b = true := by
    refine List.pairwise_mergeSort ?_ ?_ names
    · intro a b c hab hbc
      rw [comesFirst_iff] at *
      exact hab.trans hbc
    · intro a b
      rw [Bool.or_eq_true, comesFirst_iff, comesFirst_iff]
      exact precedes_total a b
  exact hsorted.imp comesFirst_iff.1

/-- Names can be put in order in one way only. -/
theorem eq_arrange {names sorted : List String} (hperm : sorted.Perm names)
    (hsorted : sorted.Pairwise Precedes) : sorted = arrange names :=
  (hperm.trans (arrange_perm names).symm).eq_of_pairwise
    (fun _ _ _ _ hab hba => hab.antisymm hba) hsorted (pairwise_arrange names)

theorem arrange_congr {names names' : List String} (h : names.Perm names') :
    arrange names = arrange names' :=
  eq_arrange ((arrange_perm names).trans h) (pairwise_arrange names)

/-- Without the name that was added, names are in order as before. -/
theorem erase_arrange_cons (name : String) (names : List String) :
    (arrange (name :: names)).erase name = arrange names := by
  refine eq_arrange ?_ ((pairwise_arrange _).sublist List.erase_sublist)
  have hperm := (arrange_perm (name :: names)).erase name
  rwa [List.erase_cons_head] at hperm

/-! ### The columns of a table -/

/-- The names of the table's columns, each as often as there are columns of that name, in order. -/
structure Table.Arranged (t : Table) (names : List String) : Prop where
  perm : names.Perm (t.columns.map (·.name))
  sorted : names.Pairwise Precedes

theorem arranged_arrange (t : Table) : t.Arranged (arrange (t.columns.map (·.name))) where
  perm := arrange_perm _
  sorted := pairwise_arrange _

theorem leadColumns_eq_of_perm {t u : Table} (h : u.columns.Perm t.columns) :
    leadColumns u = leadColumns t := by
  rw [leadColumns, arrange_congr (h.map (·.name)), leadColumns]

/-- A list in order begins with its preferred names. -/
theorem exists_preferred_append {names : List String} (h : names.Pairwise Precedes) :
    ∃ front back, names = front ++ back ∧ (∀ name ∈ front, name ∈ preferredNames) ∧
      ∀ name ∈ back, name ∉ preferredNames := by
  induction names with
  | nil => exact ⟨[], [], rfl, by simp, by simp⟩
  | cons name names ih =>
    obtain ⟨hname, hnames⟩ := List.pairwise_cons.1 h
    by_cases hmem : name ∈ preferredNames
    · obtain ⟨front, back, rfl, hfront, hback⟩ := ih hnames
      exact ⟨name :: front, back, rfl, List.forall_mem_cons.2 ⟨hmem, hfront⟩, hback⟩
    · -- what stands behind a name that is not preferred has no place further to the front
      refine ⟨[], name :: names, rfl, by simp,
        List.forall_mem_cons.2 ⟨hmem, fun other hother => ?_⟩⟩
      have hle := nameRank_le (hname other hother)
      rw [mem_preferredNames_iff] at *
      omega

/-- Without its name, the lead columns of a table with one more column are the first ones of those
that the table had. -/
theorem erase_leadColumns_isPrefix {t u : Table} {c : Column}
    (h : u.columns.Perm (c :: t.columns)) : (leadColumns u).erase c.name <+: leadColumns t := by
  have hall : arrange (u.columns.map (·.name)) = arrange (c.name :: t.columns.map (·.name)) :=
    arrange_congr (h.map (·.name))
  have hfront : (leadColumns u).erase c.name <+: arrange (t.columns.map (·.name)) := by
    rw [leadColumns, hall, ← erase_arrange_cons c.name (t.columns.map (·.name))]
    refine List.IsPrefix.erase c.name ?_
    exact List.take_prefix 6 _
  have hlength : ((leadColumns u).erase c.name).length ≤ 6 :=
    List.erase_sublist.length_le.trans (List.length_take_le 6 _)
  exact List.prefix_take_iff.2 ⟨hfront, hlength⟩

/-- The names of a table's columns can be put in order in one way, and the lead columns are the
first six, or all if there are fewer.  So they do not depend on the order in which the table has its
columns; the preferred names among them stand before the others; and a table with one more column,
wherever it stands, has its name in some place among the first ones of the same names. -/
theorem leadColumns_first_six (t : Table) :
    (∃ names, t.Arranged names ∧ (∀ other, t.Arranged other → other = names) ∧
      leadColumns t = names.take 6) ∧
    (∀ u : Table, u.columns.Perm t.columns → leadColumns u = leadColumns t) ∧
    (∃ front back, leadColumns t = front ++ back ∧ (∀ name ∈ front, name ∈ preferredNames) ∧
      ∀ name ∈ back, name ∉ preferredNames) ∧
    ∀ (u : Table) (c : Column), u.columns.Perm (c :: t.columns) →
      (leadColumns u).erase c.name <+: leadColumns t := by
  refine ⟨⟨_, arranged_arrange t, ?_, rfl⟩, fun u => leadColumns_eq_of_perm, ?_, ?_⟩
  · exact fun other hother => eq_arrange hother.perm hother.sorted
  · exact exists_preferred_append ((pairwise_arrange _).sublist (List.take_sublist 6 _))
  · exact fun u c => erase_leadColumns_isPrefix

/-- A table of people with more columns than stand for a row. -/
def peopleTable : Table :=
  { name := "people"
    columns := ["zeta", "alpha", "email", "name", "status", "beta", "gamma"].map fun name =>
      { name, dataType := "varchar" } }

theorem leadColumns_first_six_people :
    leadColumns peopleTable = ["name", "email", "status", "alpha", "beta", "gamma"] ∧
    leadColumns { peopleTable with columns := peopleTable.columns.reverse }
      = leadColumns peopleTable ∧
    (leadColumns { peopleTable with
        columns := peopleTable.columns ++ [{ name := "title", dataType := "text" }] }).erase "title"
      <+: leadColumns peopleTable := by
  obtain ⟨⟨names, -, hunique, htake⟩, hperm, -, hmore⟩ := leadColumns_first_six peopleTable
  have hnames : peopleTable.Arranged
      ["name", "email", "status", "alpha", "beta", "gamma", "zeta"] := ⟨by decide, by decide⟩
  refine ⟨?_, hperm _ (List.reverse_perm _),
    hmore _ { name := "title", dataType := "text" } (List.perm_append_singleton _ _)⟩
  rw [htake, ← hunique _ hnames]
  rfl

end Mockup
