import Mathlib.Data.List.Forall2
import Mathlib.Data.List.TakeWhile
import Mockup.Proofs.Text.CaseMaps
import Mockup.Proofs.View.Inputs
import Mockup.Proofs.View.LeadColumns

/-!
# Forms

A form asks for the columns of a table that are no primary keys, one field for each, and the widget
of a field, its options and its step come from different sources.

* `member?_options` and its siblings: the properties of a field;
* `ColumnRef.ShownBy`: the label of the rows that a column refers to;
* `Part.IsFieldOf`, `form_asks_columns`: the fields of a form;
* `Column.IsOfEnum`, `enum_field_select_iff`: the fields for columns whose type is an enumeration,
  with `enum_fields_astray`, where they are no plain selects.
-/

namespace Mockup

/-! ### The properties of a field -/

section Properties

variable {α : Type} (key k : String) (f : α → Json) (o : Option α)

theorem reverse_memberOf : (memberOf key f o).reverse = memberOf key f o := by
  cases o <;> rfl

theorem lookup_memberOf : (memberOf key f o).lookup k = if k = key then o.map f else none := by
  cases o with
  | none => simp [memberOf]
  | some a => rw [memberOf, Json.lookup_cons_pair, Option.map_some, List.lookup_nil]

end Properties

namespace FormField

variable (f : FormField)

theorem member?_fieldType : f.props.member? "fieldType" = some (.text f.inputKind.name) := by
  simp [props, Json.member?_object, reverse_memberOf, List.lookup_append, lookup_memberOf,
    Json.lookup_cons_pair]

theorem member?_required : f.props.member? "required" = some (.bool f.required) := by
  simp [props, Json.member?_object, reverse_memberOf, List.lookup_append, lookup_memberOf]

theorem member?_step : f.props.member? "step" = f.step.map .real := by
  simp [props, Json.member?_object, reverse_memberOf, List.lookup_append, lookup_memberOf,
    Json.lookup_cons_pair]

theorem member?_options : f.props.member? "options" = f.options.map Options.toJson := by
  simp [props, Json.member?_object, reverse_memberOf, List.lookup_append, lookup_memberOf,
    Json.lookup_cons_pair]

theorem fieldType_eq_select_iff :
    f.props.member? "fieldType" = some (.text "select") ↔ f.inputKind = .select := by
  rw [member?_fieldType, Option.some.injEq, Json.text.injEq]
  cases f.inputKind <;> decide

end FormField

/-! ### What there is to choose from -/

section Options

variable {s : Schema} {c : Column}

theorem isSome_enumOf?_iff : (enumOf? s c).isSome ↔
    ∃ e ∈ s.enums, Text.sameIgnoringCase e.name c.typeName = true :=
  List.find?_isSome

theorem isSome_optionsOf?_iff :
    (optionsOf? s c).isSome ↔ c.references.isSome ∨ (enumOf? s c).isSome := by
  unfold optionsOf?
  cases c.references <;> simp

/-- A field is a select just if there is something to choose from. -/
theorem inputKind_formFieldOf_iff :
    (formFieldOf s c).inputKind = .select ↔ (optionsOf? s c).isSome := by
  rw [formFieldOf, isSome_optionsOf?_iff, ← Column.inputKind_eq_select_iff]
  cases henum : enumOf? s c <;> simp

theorem inputKind_formFieldOf_of_none (h : optionsOf? s c = none) :
    (formFieldOf s c).inputKind = c.inputKind := by
  have hnone : (enumOf? s c).isSome = false := by
    rw [Bool.eq_false_iff]
    intro henum
    have hsome := isSome_optionsOf?_iff.2 (.inr henum)
    rw [h] at hsome
    cases hsome
  rw [formFieldOf, hnone, if_neg Bool.false_ne_true]

end Options

/-- The table is the first one of that name. -/
def Schema.HasFirst (s : Schema) (name : String) (t : Table) : Prop :=
  ∃ before after, s.tables = before ++ t :: after ∧ t.name = name ∧ ∀ u ∈ before, u.name ≠ name

theorem Schema.table?_eq_some_iff {s : Schema} {name : String} {t : Table} :
    s.table? name = some t ↔ s.HasFirst name t := by
  rw [Schema.table?, List.find?_eq_some_iff_append, HasFirst]
  simp only [beq_iff_eq, Bool.not_eq_true', beq_eq_false_iff_ne]
  constructor
  · rintro ⟨hname, before, after, hsplit, hbefore⟩
    exact ⟨before, after, hsplit, hname, hbefore⟩
  · rintro ⟨before, after, hsplit, hname, hbefore⟩
    exact ⟨hname, before, after, hsplit, hbefore⟩

theorem head?_leadColumns_eq_none_iff {t : Table} :
    (leadColumns t).head? = none ↔ t.columns = [] := by
  rw [List.head?_eq_none_iff, leadColumns, List.take_eq_nil_iff, arrange,
    ← List.length_eq_zero_iff, List.length_mergeSort]
  simp

/-- The column by which a row is shown that a column refers to. -/
inductive ColumnRef.ShownBy (s : Schema) (target : ColumnRef) : String → Prop where
  | lead (t : Table) (label : String) (first : s.HasFirst target.table t)
      (head : (leadColumns t).head? = some label) : target.ShownBy s label
  | bare (none : ∀ t, s.HasFirst target.table t → t.columns = []) : target.ShownBy s target.column

theorem optionsOf?_of_some {s : Schema} {c : Column} {target : ColumnRef}
    (h : c.references = some target) : ∃ label, target.ShownBy s label ∧
      optionsOf? s c = some (.rows target.table target.column label) := by
  unfold optionsOf?
  rw [h]
  dsimp only
  cases hlabel : (s.table? target.table).bind fun t => (leadColumns t).head? with
  | some label =>
    obtain ⟨t, hfirst, hhead⟩ := Option.bind_eq_some_iff.1 hlabel
    exact ⟨label, .lead t label (Schema.table?_eq_some_iff.1 hfirst) hhead, rfl⟩
  | none =>
    refine ⟨target.column, .bare fun t hfirst => ?_, rfl⟩
    rw [Schema.table?_eq_some_iff.2 hfirst] at hlabel
    exact head?_leadColumns_eq_none_iff.1 hlabel

/-! ### The fields of a form -/

/-- The part is the field of a form for the column. -/
structure Part.IsFieldOf (s : Schema) (t : Table) (c : Column) (p : Part) : Prop where
  type : p.type = .formField
  binding : p.binding = some (.ofFields t.name [c.name])
  required : p.props.member? "required" = some (.bool c.notNull)
  select : p.props.member? "fieldType" = some (.text "select") ↔
    (p.props.member? "options").isSome
  options : (p.props.member? "options").isSome ↔
    c.references.isSome ∨ ∃ e ∈ s.enums, Text.sameIgnoringCase e.name c.typeName = true
  widget : p.props.member? "options" = none →
    p.props.member? "fieldType" = some (.text c.fieldChoice.inputKind.name)
  reference : ∀ target, c.references = some target → ∃ options label,
    p.props.member? "options" = some options ∧
    options.member? "source" = some (.text target.table) ∧
    options.member? "valueField" = some (.text target.column) ∧
    options.member? "labelField" = some (.text label) ∧ target.ShownBy s label

/-- The part of a form for a column. -/
def fieldPart (s : Schema) (t : Table) (c : Column) : Part :=
  Panel.toPart t.name .form
    ⟨"field-" ++ c.name, .formField (formFieldOf s c), some (.ofFields t.name [c.name])⟩

/-- The buttons below a form. -/
def actionsPart (t : Table) : Part :=
  Panel.toPart t.name .form ⟨"actions", .formActions, none⟩

theorem parts_form (s : Schema) (t : Table) : (viewOf s t .form).parts =
    (t.columns.filter (!·.primaryKey)).map (fieldPart s t) ++ [actionsPart t] := by
  rw [viewOf, panels, formPanels, List.map_append, List.map_map]
  rfl

section FieldPart

variable (s : Schema) (t : Table) (c : Column)

theorem member?_options_fieldPart : (fieldPart s t c).props.member? "options"
    = (optionsOf? s c).map Options.toJson :=
  FormField.member?_options (formFieldOf s c)

theorem fieldPart_select_iff :
    (fieldPart s t c).props.member? "fieldType" = some (.text "select") ↔
      (optionsOf? s c).isSome :=
  (FormField.fieldType_eq_select_iff (formFieldOf s c)).trans inputKind_formFieldOf_iff

end FieldPart

theorem isFieldOf_fieldPart {s : Schema} {t : Table} {c : Column} (h : c.primaryKey = false) :
    (fieldPart s t c).IsFieldOf s t c := by
  have hprops : (fieldPart s t c).props = (formFieldOf s c).props := rfl
  constructor
  · rfl
  · rfl
  · rw [hprops, FormField.member?_required, formFieldOf, Column.needsValue, h, Bool.or_false]
  · rw [fieldPart_select_iff, member?_options_fieldPart, Option.isSome_map]
  · rw [member?_options_fieldPart, Option.isSome_map, isSome_optionsOf?_iff, isSome_enumOf?_iff]
  · intro hnone
    rw [member?_options_fieldPart, Option.map_eq_none_iff] at hnone
    rw [hprops, FormField.member?_fieldType, inputKind_formFieldOf_of_none hnone,
      Column.inputKind_fieldChoice]
  · intro target htarget
    obtain ⟨label, hlabel, hrows⟩ := optionsOf?_of_some (s := s) htarget
    refine ⟨_, label, by rw [member?_options_fieldPart, hrows, Option.map_some], ?_, ?_, ?_, hlabel⟩
    · exact (Json.member?_object ..).trans rfl
    · exact (Json.member?_object ..).trans rfl
    · exact (Json.member?_object ..).trans rfl

/-- The form of a table has one field for each column that is no primary key, in the order of the
columns, and then its buttons; it has two columns just if there are more than six fields. -/
theorem form_asks_columns (s : Schema) (t : Table) :
    viewOf s t .form ∈ viewsOf s t ∧ ∃ fields actions,
      (viewOf s t .form).parts = fields ++ [actions] ∧
      List.Forall₂ (fun c p => p.IsFieldOf s t c) (t.columns.filter (!·.primaryKey)) fields ∧
      actions.type = .formActions ∧
      ((viewOf s t .form).layout.columns = 2 ↔ 6 < fields.length) := by
  refine ⟨List.mem_map_of_mem ?_, _, _, parts_form s t, ?_, rfl, ?_⟩
  · simp [viewKinds]
  · rw [List.forall₂_map_right_iff, List.forall₂_same]
    intro c hc
    exact isFieldOf_fieldPart (by simpa using (List.mem_filter.1 hc).2)
  · show (if 6 < (formColumns t).length then 2 else 1) = 2 ↔ _
    rw [List.length_map]
    split_ifs with hmany
    · exact iff_of_true rfl hmany
    · exact iff_of_false (by decide) hmany

/-! ### Columns whose type is an enumeration -/

/-- The column refers to no other one, and its type is written as the name of the enumeration, the
only one of that name up to case. -/
structure Column.IsOfEnum (s : Schema) (c : Column) (e : Enumeration) : Prop where
  bare : c.references = none
  named : c.dataType = e.name
  noArguments : '(' ∉ e.name.toList
  noBlanks : Text.trim e.name = e.name
  alone : ∃ before after, s.enums = before ++ e :: after ∧
    ∀ other ∈ before ++ after, Text.lower other.name ≠ Text.lower e.name

namespace Column.IsOfEnum

variable {s : Schema} {c : Column} {e : Enumeration}

theorem typeName_eq (h : c.IsOfEnum s e) : c.typeName = Text.lower e.name := by
  have hall : e.name.toList.takeWhile (· ≠ '(') = e.name.toList := by
    rw [List.takeWhile_eq_self_iff]
    intro d hd
    exact decide_eq_true fun heq => h.noArguments (heq ▸ hd)
  have htrim : String.ofList (Text.trimmed e.name.toList) = e.name := h.noBlanks
  rw [typeName, h.named, hall, htrim]

/-- The name of another enumeration is not taken for the name of the type. -/
theorem not_sameIgnoringCase {other : Enumeration}
    (hother : Text.lower other.name ≠ Text.lower e.name) :
    Text.sameIgnoringCase other.name (Text.lower e.name) = false := by
  rw [Bool.eq_false_iff]
  intro hsame
  have hlower := Text.lower_eq_of_sameIgnoringCase hsame
  rw [Text.lower_lower] at hlower
  exact hother hlower

/-- The enumeration is found for the column just if small letters change nothing of its name but
the letters A to Z. -/
theorem enumOf?_eq (h : c.IsOfEnum s e) :
    (Text.ChangesLatinOnly e.name → enumOf? s c = some e) ∧
    (¬ Text.ChangesLatinOnly e.name → enumOf? s c = none) := by
  obtain ⟨before, after, hsplit, halone⟩ := h.alone
  have hnone (es : List Enumeration) (hes : es ⊆ before ++ after) :
      es.find? (fun e' => Text.sameIgnoringCase e'.name (Text.lower e.name)) = none := by
    rw [List.find?_eq_none]
    intro other hother hsame
    rw [not_sameIgnoringCase (halone other (hes hother))] at hsame
    cases hsame
  unfold enumOf?
  rw [h.typeName_eq, hsplit, List.find?_append, hnone before (List.subset_append_left _ _),
    Option.none_or, List.find?_cons]
  constructor
  · intro hlatin
    rw [Text.sameIgnoringCase_lower_iff.2 hlatin]
  · intro hlatin
    rw [Bool.eq_false_iff.2 (mt Text.sameIgnoringCase_lower_iff.1 hlatin)]
    exact hnone after (List.subset_append_right _ _)

end Column.IsOfEnum

/-- Take a column that a form asks for whose type is an enumeration.  Its field is a select, and
then has the values of the enumeration as options, just if small letters change nothing of the
enumeration's name but the letters A to Z; and it has a step just if the name is one of a type of
numbers. -/
theorem enum_field_select_iff {s : Schema} {t : Table} {c : Column} {e : Enumeration} {i : Nat}
    (hasked : (t.columns.filter (!·.primaryKey))[i]? = some c) (h : c.IsOfEnum s e) :
    ∃ p, (viewOf s t .form).parts[i]? = some p ∧ p.type = .formField ∧
      p.binding = some (.ofFields t.name [c.name]) ∧
      (p.props.member? "fieldType" = some (.text "select") ↔ Text.ChangesLatinOnly e.name) ∧
      (Text.ChangesLatinOnly e.name →
        p.props.member? "options" = some (.object [("values", .texts e.values)])) ∧
      (¬ Text.ChangesLatinOnly e.name → p.props.member? "options" = none) ∧
      ((p.props.member? "step").isSome ↔ Text.lower e.name ∈ numberTypes) := by
  obtain ⟨hfound, hmissed⟩ := h.enumOf?_eq
  have hvalues : optionsOf? s c = (enumOf? s c).map fun e => .values e.values := by
    unfold optionsOf?
    rw [h.bare]
  refine ⟨fieldPart s t c, ?_, rfl, rfl, ?_, ?_, ?_, ?_⟩
  · rw [parts_form, List.getElem?_append_left, List.getElem?_map, hasked, Option.map_some]
    rw [List.length_map]
    exact (List.getElem?_eq_some_iff.1 hasked).1
  · rw [fieldPart_select_iff, hvalues, Option.isSome_map]
    by_cases hlatin : Text.ChangesLatinOnly e.name
    · rw [hfound hlatin]
      exact iff_of_true rfl hlatin
    · rw [hmissed hlatin]
      exact iff_of_false Bool.false_ne_true hlatin
  · intro hlatin
    rw [member?_options_fieldPart, hvalues, hfound hlatin]
    rfl
  · intro hlatin
    rw [member?_options_fieldPart, hvalues, hmissed hlatin]
    rfl
  · have hstep : (fieldPart s t c).props.member? "step" = c.step.map .real :=
      FormField.member?_step (formFieldOf s c)
    rw [hstep, Option.isSome_map, Column.isSome_step_iff, ← Column.inputKind_fieldChoice,
      (Column.fits h.bare).number, Column.family, Column.typeClass,
      ← TypeClass.mem_numberTypes_iff, h.typeName_eq]

/-- A table whose columns have the names of enumerations for types, with small letters beyond z in
one of them. -/
def shirtsTable : Table :=
  { name := "shirts"
    columns := [
      { name := "id", dataType := "int", primaryKey := true },
      { name := "größe", dataType := "Größe" }] }

/-- The sizes of shirts. -/
def sizesEnum : Enumeration := ⟨"Größe", ["klein", "groß"]⟩

/-- Shirts with the enumerations of their sizes and colours. -/
def shirtsSchema : Schema :=
  { tables := [shirtsTable], enums := [⟨"Farbe", ["rot"]⟩, sizesEnum] }

theorem enum_field_select_iff_shirts :
    ∃ c ∈ shirtsTable.columns, c.name = "größe" ∧ c.IsOfEnum shirtsSchema sizesEnum ∧
    ∃ p, (viewOf shirtsSchema shirtsTable .form).parts[0]? = some p ∧
      p.props.member? "fieldType" = some (.text "select") ∧
      p.props.member? "options" = some (.object [("values", .texts ["klein", "groß"])]) ∧
      (p.props.member? "step").isSome = false := by
  have hof : Column.IsOfEnum shirtsSchema { name := "größe", dataType := "Größe" } sizesEnum :=
    { bare := rfl
      named := rfl
      noArguments := by decide
      noBlanks := by decide +kernel
      alone := ⟨[⟨"Farbe", ["rot"]⟩], [], rfl, by decide +kernel⟩ }
  have hlatin : Text.ChangesLatinOnly sizesEnum.name := by decide +kernel
  obtain ⟨p, hp, -, -, hselect, hoptions, -, hstep⟩ :=
    enum_field_select_iff (s := shirtsSchema) (t := shirtsTable) (i := 0) rfl hof
  refine ⟨_, by decide, rfl, hof, p, hp, hselect.2 hlatin, hoptions hlatin, ?_⟩
  rw [Bool.eq_false_iff, Ne, hstep]
  decide +kernel

/-- A table whose columns have the names of two enumerations for types: that of a type of numbers,
and one with a capital letter beyond Z. -/
def levelsTable : Table :=
  { name := "t"
    columns := [{ name := "level", dataType := "int" }, { name := "state", dataType := "État" }] }

/-- The levels, under the name of a type of numbers. -/
def levelsEnum : Enumeration := ⟨"int", ["low", "high"]⟩

/-- The states, under a name with a capital letter beyond Z. -/
def statesEnum : Enumeration := ⟨"État", ["neuf", "vieux"]⟩

/-- The table with the two enumerations. -/
def levelsSchema : Schema :=
  { tables := [levelsTable], enums := [levelsEnum, statesEnum] }

/-- Both columns have enumerations for types, and still the select for the first one has a step, and
the field for the second one is a line of text without options. -/
theorem enum_fields_astray :
    Column.IsOfEnum levelsSchema { name := "level", dataType := "int" } levelsEnum ∧
    Column.IsOfEnum levelsSchema { name := "state", dataType := "État" } statesEnum ∧
    levelsTable.columns.filter (!·.primaryKey)
      = [{ name := "level", dataType := "int" }, { name := "state", dataType := "État" }] ∧
    ∃ level state actions, (viewOf levelsSchema levelsTable .form).parts = [level, state, actions] ∧
      (level.props.member? "fieldType").bind Json.asText? = some "select" ∧
      (level.props.member? "step").isSome = true ∧
      (state.props.member? "fieldType").bind Json.asText? = some "text-input" ∧
      (state.props.member? "options").isSome = false := by
  refine ⟨?_, ?_, by decide, _, _, _, parts_form levelsSchema levelsTable, ?_, ?_, ?_, ?_⟩
  · exact
      { bare := rfl
        named := rfl
        noArguments := by decide
        noBlanks := by decide +kernel
        alone := ⟨[], [statesEnum], rfl, by decide +kernel⟩ }
  · exact
      { bare := rfl
        named := rfl
        noArguments := by decide
        noBlanks := by decide +kernel
        alone := ⟨[levelsEnum], [], rfl, by decide +kernel⟩ }
  · decide +kernel
  · decide +kernel
  · decide +kernel
  · decide +kernel

end Mockup
