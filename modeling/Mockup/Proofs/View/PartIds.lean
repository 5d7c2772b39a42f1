import Mathlib.Data.List.Forall2
import Mockup.Proofs.View.Related

/-!
# The ids of parts

A part of a view has an id made of the slug of the table, the kind of the view and the slug of the
name of its place, and a slug does not keep all of a name.

* `Text.LookAlike`: names that a slug does not tell apart, with `Text.slug_eq_iff`;
* `nodup_ids_iff`: the ids of a view differ just if the names of its places do not look alike;
* `nodup_ids_iff_of_mem_viewsOf`: which names decide whether they do;
* `ids_meet_twins`: a form with two fields of one id.
-/

namespace Mockup

/-! ### Slugs -/

namespace Text

/-- The characters leave one trace in slugs: they are letters or numerals that are equal up to the
case of the letters A to Z, or both are neither. -/
def SameInSlug (c d : Char) : Prop :=
  isAlphanumeric c = isAlphanumeric d ∧ (isAlphanumeric c = true → c.toLower = d.toLower)

/-- The names agree character by character, as far as slugs show. -/
def LookAlike (a b : String) : Prop := List.Forall₂ SameInSlug a.toList b.toList

theorem isAlphanumeric_dash : isAlphanumeric '-' = false := by decide +kernel

theorem toLower_ne_dash {c : Char} (h : isAlphanumeric c = true) : c.toLower ≠ '-' := by
  unfold Char.toLower
  split
  · next hcapital =>
    intro heq
    -- the dash is not the distance between the cases away from any capital letter
    have hval : c.val + 0x20 = 0x2D := by simpa using congrArg Char.val heq
    have hle : 0x41 ≤ c.val.toNat := UInt32.le_iff_toNat_le.1 hcapital.1
    have hle' : c.val.toNat ≤ 0x5A := UInt32.le_iff_toNat_le.1 hcapital.2
    have hnat := congrArg UInt32.toNat hval
    rw [UInt32.toNat_add] at hnat
    simp only [UInt32.toNat_ofNat] at hnat
    omega
  · rintro rfl
    rw [isAlphanumeric_dash] at h
    cases h

theorem slugChar_eq_iff {c d : Char} : slugChar c = slugChar d ↔ SameInSlug c d := by
  unfold slugChar SameInSlug
  cases hc : isAlphanumeric c <;> cases hd : isAlphanumeric d
  · simp
  · simpa using (toLower_ne_dash hd).symm
  · simpa using toLower_ne_dash hc
  · simp

/-- Names have one slug just if they look alike. -/
theorem slug_eq_iff {a b : String} : slug a = slug b ↔ LookAlike a b := by
  have hchars : a.toList.map slugChar = b.toList.map slugChar ↔ LookAlike a b := by
    rw [← List.forall₂_eq_eq_eq, List.forall₂_map_left_iff, List.forall₂_map_right_iff]
    simp only [slugChar_eq_iff]
    rfl
  rw [← hchars, slug, slug]
  exact String.ofList_inj

theorem slug_append (a b : String) : slug (a ++ b) = slug a ++ slug b := by
  rw [slug, String.toList_append, List.map_append, String.ofList_append]
  rfl

/-- A common beginning does not tell names apart. -/
theorem slug_append_left_inj {front a b : String} :
    slug (front ++ a) = slug (front ++ b) ↔ slug a = slug b := by
  rw [slug_append, slug_append, String.append_right_inj]

/-- A name has not the slug of names with a beginning whose slug its own does not begin with. -/
theorem slug_ne_append {a front b : String} (h : ¬ (slug front).toList <+: (slug a).toList) :
    slug a ≠ slug (front ++ b) := by
  intro heq
  rw [heq, slug_append, String.toList_append] at h
  exact h (List.prefix_append _ _)

end Text

/-! ### The ids of a view -/

section Ids

variable {s : Schema} {t : Table} {kind : ViewKind}

theorem partId_eq_iff {table : String} {a b : String} :
    partId table kind a = partId table kind b ↔ Text.slug a = Text.slug b := by
  rw [partId, partId, String.append_right_inj]

/-- The ids of a view differ just if the slugs of its places do. -/
theorem nodup_ids_iff :
    ((viewOf s t kind).parts.map (·.id)).Nodup ↔
      ((panels s t kind).map (·.part)).Pairwise fun a b => Text.slug a ≠ Text.slug b := by
  have hids : (viewOf s t kind).parts.map (·.id)
      = ((panels s t kind).map (·.part)).map (partId t.name kind) := by
    rw [viewOf, List.map_map, List.map_map]
    rfl
  rw [hids, List.Nodup, List.pairwise_map]
  exact List.Pairwise.iff fun a b => not_congr partId_eq_iff

theorem map_part_listPanels (s : Schema) (t : Table) :
    (listPanels s t).map (·.part)
      = (if (searchColumns t).isEmpty then [] else ["search"])
        ++ (if (listFilters t).isEmpty then [] else ["filters"]) ++ ["table"] := by
  simp only [listPanels, List.map_append]
  cases (searchColumns t).isEmpty <;> cases (listFilters t).isEmpty <;> rfl

theorem map_part_detailPanels (s : Schema) (t : Table) :
    (detailPanels s t).map (·.part)
      = ["header", "info"]
        ++ ((relatedTables s.relationships t.name).take 3).map ("related-" ++ ·) := by
  rw [detailPanels, List.map_append, ← map_fst_linkedTables, ← List.map_take, List.map_map]
  congr 1
  refine List.ext_getElem? fun i => ?_
  rw [List.getElem?_map, List.getElem?_mapIdx, List.getElem?_map, Option.map_map]
  rfl

theorem map_part_formPanels (s : Schema) (t : Table) :
    (formPanels s t).map (·.part)
      = (formColumns t).map (fun c => "field-" ++ c.name) ++ ["actions"] := by
  rw [formPanels, List.map_append, List.map_map]
  rfl

/-- Places that are named after something behind a common beginning. -/
theorem pairwise_front {front : String} {names : List String} :
    (names.map (front ++ ·)).Pairwise (fun a b => Text.slug a ≠ Text.slug b) ↔
      names.Pairwise fun a b => ¬ Text.LookAlike a b := by
  rw [List.pairwise_map]
  refine List.Pairwise.iff fun a b => ?_
  rw [Ne, Text.slug_append_left_inj, Text.slug_eq_iff]

theorem nodup_ids_list (s : Schema) (t : Table) :
    ((viewOf s t .list).parts.map (·.id)).Nodup := by
  rw [nodup_ids_iff, panels, map_part_listPanels]
  cases (searchColumns t).isEmpty <;> cases (listFilters t).isEmpty <;> decide +kernel

theorem nodup_ids_dashboard (s : Schema) (t : Table) :
    ((viewOf s t .dashboard).parts.map (·.id)).Nodup := by
  have hplaces : ["stats", "trend"].Pairwise fun a b => Text.slug a ≠ Text.slug b := by
    decide +kernel
  exact nodup_ids_iff.2 hplaces

theorem nodup_ids_masterDetail (s : Schema) (t : Table) :
    ((viewOf s t .masterDetail).parts.map (·.id)).Nodup := by
  have hplaces : ["master", "tabs"].Pairwise fun a b => Text.slug a ≠ Text.slug b := by
    decide +kernel
  exact nodup_ids_iff.2 hplaces

theorem nodup_ids_detail_iff : ((viewOf s t .detail).parts.map (·.id)).Nodup ↔
    ((relatedTables s.relationships t.name).take 3).Pairwise fun a b => ¬ Text.LookAlike a b := by
  rw [nodup_ids_iff, panels, map_part_detailPanels, List.pairwise_append, pairwise_front]
  refine ⟨fun h => h.2.1, fun h => ⟨by decide +kernel, h, ?_⟩⟩
  -- the first two places do not begin like a section
  intro place hplace place' hsection
  obtain ⟨other, -, rfl⟩ := List.mem_map.1 hsection
  refine Text.slug_ne_append ?_
  revert place
  decide +kernel

theorem nodup_ids_form_iff : ((viewOf s t .form).parts.map (·.id)).Nodup ↔
    (formColumns t).Pairwise fun c d => ¬ Text.LookAlike c.name d.name := by
  have hnames : (formColumns t).map (fun c => "field-" ++ c.name)
      = ((formColumns t).map (·.name)).map ("field-" ++ ·) := by
    rw [List.map_map]
    rfl
  rw [nodup_ids_iff, panels, map_part_formPanels, hnames, List.pairwise_append, pairwise_front,
    List.pairwise_map]
  refine ⟨fun h => h.1, fun h => ⟨h, List.pairwise_singleton _ _, ?_⟩⟩
  intro field hfield place hplace
  obtain ⟨name, -, rfl⟩ := List.mem_map.1 hfield
  obtain rfl := List.mem_singleton.1 hplace
  exact (Text.slug_ne_append (by decide +kernel)).symm

end Ids

/-- The names after which places of the view are named do not look alike: those of the columns that
a form asks for, and those of the tables that have sections below a row. -/
def Suggestion.NamesApart (s : Schema) (t : Table) (v : Suggestion) : Prop :=
  match v.kind with
  | .detail =>
    ((relatedTables s.relationships t.name).take 3).Pairwise fun a b => ¬ Text.LookAlike a b
  | .form => (formColumns t).Pairwise fun c d => ¬ Text.LookAlike c.name d.name
  | .list | .dashboard | .masterDetail => True

/-- The ids of the parts of a view differ just if the names in them do not look alike. -/
theorem nodup_ids_iff_of_mem_viewsOf {s : Schema} {t : Table} {v : Suggestion}
    (h : v ∈ viewsOf s t) : (v.parts.map (·.id)).Nodup ↔ v.NamesApart s t := by
  obtain ⟨kind, -, rfl⟩ := mem_viewsOf h
  cases kind with
  | list => exact iff_of_true (nodup_ids_list s t) trivial
  | detail => exact nodup_ids_detail_iff
  | form => exact nodup_ids_form_iff
  | dashboard => exact iff_of_true (nodup_ids_dashboard s t) trivial
  | masterDetail => exact iff_of_true (nodup_ids_masterDetail s t) trivial

theorem nodup_ids_iff_of_mem_viewsOf_orders :
    viewOf ordersSchema ordersTable .form ∈ viewsOf ordersSchema ordersTable ∧
    (viewOf ordersSchema ordersTable .form).parts.map (·.id)
      = ["orders-form-field-buyer", "orders-form-field-repeats", "orders-form-field-placed",
        "orders-form-actions"] ∧
    (viewOf ordersSchema ordersTable .form).NamesApart ordersSchema ordersTable := by
  have hmem : viewOf ordersSchema ordersTable .form ∈ viewsOf ordersSchema ordersTable :=
    List.mem_map_of_mem (by decide +kernel)
  have hids : (viewOf ordersSchema ordersTable .form).parts.map (·.id)
      = ["orders-form-field-buyer", "orders-form-field-repeats", "orders-form-field-placed",
        "orders-form-actions"] := by decide +kernel
  refine ⟨hmem, hids, (nodup_ids_iff_of_mem_viewsOf hmem).1 ?_⟩
  rw [hids]
  decide

/-- A table with two columns whose names differ in the case of a letter. -/
def twinTable : Table :=
  { name := "t"
    columns := [{ name := "aB", dataType := "int" }, { name := "ab", dataType := "int" }] }

/-- A schema of this table alone. -/
def twinSchema : Schema := { tables := [twinTable] }

/-- Tables and columns have different names, and still two fields of a form have one id. -/
theorem ids_meet_twins :
    (twinSchema.tables.map (·.name)).Nodup ∧
    (∀ t ∈ twinSchema.tables, (t.columns.map (·.name)).Nodup) ∧
    ∃ v ∈ suggest twinSchema,
      v.parts.map (·.id) = ["t-form-field-ab", "t-form-field-ab", "t-form-actions"] ∧
      ¬ (v.parts.map (·.id)).Nodup := by
  have hids : (viewOf twinSchema twinTable .form).parts.map (·.id)
      = ["t-form-field-ab", "t-form-field-ab", "t-form-actions"] := by decide +kernel
  refine ⟨by decide, by decide, viewOf twinSchema twinTable .form, ?_, hids, ?_⟩
  · exact List.mem_flatMap.2 ⟨twinTable, List.mem_singleton_self _,
      List.mem_map_of_mem (by decide +kernel)⟩
  · rw [hids]
    decide

end Mockup
