import Mockup.Proofs.View.Kinds

/-!
# Which widgets edit which types

The name of a declared type is read twice: for the family of its values and, together with the name
of the column, for the widget that edits them.

* `DataFamily.ofTypeName`, `InputKind.ofTypeName`: the two readings, each as a list of cases, with
  `Column.family_eq` and `Column.inputKind_eq`;
* `DataFamily.inputs`: the widgets for values of a family, with `Column.inputKind_mem_inputs`;
* `fieldChoice_fits`: the two readings agree.
-/

namespace Mockup

/-! ### Names of types -/

/-- The names of the types of truth values. -/
def truthTypes : List String := ["bool", "boolean", "bit"]

/-- The names of the types of moments. -/
def momentTypes : List String := ["datetime", "datetime2", "timestamp", "timestamptz"]

/-- The names of the types of times of day. -/
def clockTypes : List String := ["time", "timetz"]

/-- The names of the types of structured data. -/
def documentTypes : List String := ["json", "jsonb"]

/-- The names of the types of files. -/
def fileTypes : List String := ["blob", "binary", "varbinary", "bytea", "file"]

/-- The names of the types of texts of many lines. -/
def longTextTypes : List String := ["text", "longtext", "mediumtext", "tinytext", "clob"]

/-- The names of the types of mail addresses, addresses of pages and telephone numbers. -/
def addressTypes : List String := ["email", "url", "uri", "phone", "tel"]

/-- The family of the values of a type of that name. -/
def DataFamily.ofTypeName (name : String) : DataFamily :=
  if name ∈ numberTypes then .numeric
  else if name ∈ truthTypes then .boolean
  else if name ∈ timeTypes then .date
  else if name ∈ documentTypes ∨ name ∈ fileTypes ∨ name = "image" then .other
  else .string

/-- The widget for values of a type of that name in a column of that name.  What the name of the
column hints at counts only after all types that have a widget of their own. -/
def InputKind.ofTypeName (name columnName : String) : InputKind :=
  if name ∈ numberTypes then .numberInput
  else if name ∈ truthTypes then .switch
  else if name = "date" then .datePicker
  else if name ∈ momentTypes then .dateTimePicker
  else if name ∈ clockTypes then .timePicker
  else if name ∈ documentTypes then .jsonEditor
  else if name = "image" then .imageUpload
  else if name ∈ fileTypes then .fileUpload
  else if name = "email" then .emailInput
  else if name ∈ ["url", "uri"] then .urlInput
  else if name ∈ ["phone", "tel"] then .phoneInput
  else match ofColumnName? columnName with
    | some hinted => hinted
    | none => if name ∈ longTextTypes then .textArea else .textInput

/-! ### The classes of names -/

namespace TypeClass

/-- The names that are listed for a class are those of the class. -/
theorem mem_iff_ofName {k : TypeClass} {list : List String} (h : (k, list) ∈ names)
    (name : String) : name ∈ list ↔ ofName name = k := by
  constructor
  · exact ofName_of_mem (k, list) h name
  · intro hname
    unfold ofName at hname
    split at hname
    · next k' list' hfind =>
      -- a class has one list
      have hlists : ∀ e ∈ names, ∀ e' ∈ names, e.1 = e'.1 → e.2 = e'.2 := by decide +kernel
      have hlist : list' = list := hlists _ (List.mem_of_find?_eq_some hfind) _ h hname
      simpa [hlist] using List.find?_some hfind
    · have hplain : ∀ e ∈ names, e.1 ≠ .plain := by decide
      exact absurd hname.symm (hplain _ h)

theorem mem_truthTypes_iff (name : String) : name ∈ truthTypes ↔ ofName name = .boolean :=
  mem_iff_ofName (by decide) name

theorem mem_documentTypes_iff (name : String) : name ∈ documentTypes ↔ ofName name = .json :=
  mem_iff_ofName (by decide) name

theorem mem_fileTypes_iff (name : String) : name ∈ fileTypes ↔ ofName name = .binary :=
  mem_iff_ofName (by decide) name

theorem eq_image_iff (name : String) : name = "image" ↔ ofName name = .image :=
  List.mem_singleton.symm.trans (mem_iff_ofName (by decide) name)

end TypeClass

section Readings

open TypeClass

/-- The class of a name decides the family. -/
theorem DataFamily.ofTypeName_eq (name : String) :
    ofTypeName name = (TypeClass.ofName name).family := by
  simp only [ofTypeName, mem_numberTypes_iff, mem_truthTypes_iff, mem_timeTypes_iff,
    mem_documentTypes_iff, mem_fileTypes_iff, eq_image_iff]
  cases TypeClass.ofName name <;> rfl

/-- The class of a name decides the widget, but for what the name of the column hints at. -/
theorem InputKind.ofTypeName_eq (name columnName : String) :
    ofTypeName name columnName = ofClass (TypeClass.ofName name) columnName := by
  have hdate : name = "date" ↔ TypeClass.ofName name = .date :=
    List.mem_singleton.symm.trans (mem_iff_ofName (by decide) name)
  have hmoment : name ∈ momentTypes ↔ TypeClass.ofName name = .dateTime :=
    mem_iff_ofName (by decide) name
  have hclock : name ∈ clockTypes ↔ TypeClass.ofName name = .time :=
    mem_iff_ofName (by decide) name
  have hemail : name = "email" ↔ TypeClass.ofName name = .email :=
    List.mem_singleton.symm.trans (mem_iff_ofName (by decide) name)
  have hurl : name ∈ ["url", "uri"] ↔ TypeClass.ofName name = .url :=
    mem_iff_ofName (by decide) name
  have hphone : name ∈ ["phone", "tel"] ↔ TypeClass.ofName name = .phone :=
    mem_iff_ofName (by decide) name
  have hlong : name ∈ longTextTypes ↔ TypeClass.ofName name = .longText :=
    mem_iff_ofName (by decide) name
  simp only [ofTypeName, mem_numberTypes_iff, mem_truthTypes_iff, hdate, hmoment, hclock,
    mem_documentTypes_iff, eq_image_iff, mem_fileTypes_iff, hemail, hurl, hphone, hlong]
  cases TypeClass.ofName name <;> cases hhint : ofColumnName? columnName <;>
    simp [ofClass, TypeClass.family, hhint]

end Readings

/-! ### Widgets for the values of a family -/

/-- The widgets for values of a family. -/
def DataFamily.inputs : DataFamily → List InputKind
  | .numeric => [.numberInput]
  | .boolean => [.switch]
  | .date => [.datePicker, .dateTimePicker, .timePicker]
  | .other => [.jsonEditor, .imageUpload, .fileUpload]
  | .string =>
    [.emailInput, .urlInput, .phoneInput, .imageUpload, .fileUpload, .textArea, .textInput]

/-- The family that the widget gives away, if it does. -/
def InputKind.family? : InputKind → Option DataFamily
  | .numberInput => some .numeric
  | .switch => some .boolean
  | .datePicker | .dateTimePicker | .timePicker => some .date
  | .jsonEditor => some .other
  | .emailInput | .urlInput | .phoneInput | .textArea | .textInput => some .string
  | .imageUpload | .fileUpload | .select => none

/-- Images and files are the only widgets for values of two families. -/
theorem DataFamily.family?_of_mem_inputs (f : DataFamily) : ∀ kind ∈ f.inputs,
    kind.family? = some f ∨ kind = .imageUpload ∨ kind = .fileUpload := by
  cases f <;> decide

namespace InputKind

/-- The name of a column hints at widgets for texts only. -/
theorem mem_inputs_of_hint {columnName : String} {kind : InputKind}
    (h : ofColumnName? columnName = some kind) : kind ∈ DataFamily.string.inputs := by
  unfold ofColumnName? at h
  dsimp only at h
  split_ifs at h <;> cases h <;> decide

theorem ofClass_mem_inputs (k : TypeClass) (columnName : String) :
    ofClass k columnName ∈ k.family.inputs := by
  have hhint : ∀ kind ∈ DataFamily.string.inputs,
      (ofColumnName? columnName).getD kind ∈ DataFamily.string.inputs := by
    intro kind hkind
    cases h : ofColumnName? columnName with
    | none => exact hkind
    | some kind' => exact mem_inputs_of_hint h
  cases k with
  | longText => exact hhint .textArea (by decide)
  | plain => exact hhint .textInput (by decide)
  | _ => simp [ofClass, TypeClass.family, DataFamily.inputs]

/-- Only types of texts without a widget of their own leave the widget to the name of the column. -/
theorem ofClass_congr {k : TypeClass} (h : k ≠ .longText ∧ k ≠ .plain) (name name' : String) :
    ofClass k name = ofClass k name' := by
  cases k with
  | longText => exact absurd rfl h.1
  | plain => exact absurd rfl h.2
  | _ => rfl

end InputKind

namespace Column

variable {c : Column}

@[simp] theorem inputKind_fieldChoice (c : Column) : c.fieldChoice.inputKind = c.inputKind := by
  rw [fieldChoice]

@[simp] theorem family_fieldChoice (c : Column) : c.fieldChoice.family = c.family := by
  rw [fieldChoice]

@[simp] theorem step_fieldChoice (c : Column) : c.fieldChoice.step = c.step := by
  rw [fieldChoice]

@[simp] theorem maxLength_fieldChoice (c : Column) : c.fieldChoice.maxLength = c.maxLength := by
  rw [fieldChoice]

theorem family_eq (c : Column) : c.family = .ofTypeName c.typeName :=
  (DataFamily.ofTypeName_eq c.typeName).symm

theorem inputKind_of_none (h : c.references = none) :
    c.inputKind = .ofClass c.typeClass c.name := by
  rw [inputKind, h, Option.isSome_none, if_neg Bool.false_ne_true]

theorem inputKind_eq (h : c.references = none) : c.inputKind = .ofTypeName c.typeName c.name := by
  rw [inputKind_of_none h, InputKind.ofTypeName_eq, typeClass]

theorem inputKind_mem_inputs (h : c.references = none) : c.inputKind ∈ c.family.inputs := by
  rw [inputKind_of_none h]
  exact InputKind.ofClass_mem_inputs c.typeClass c.name

/-- A widget that gives away a family is one for values of that family. -/
theorem family_of_inputKind (h : c.references = none) {f : DataFamily}
    (hf : c.inputKind.family? = some f) : c.family = f := by
  rcases DataFamily.family?_of_mem_inputs _ _ (inputKind_mem_inputs h) with hfamily | himage | hfile
  · exact Option.some.inj (hfamily.symm.trans hf)
  · rw [himage] at hf
    cases hf
  · rw [hfile] at hf
    cases hf

/-- If each widget for values of a family gives it away, these are the widgets of that family. -/
theorem inputKind_mem_inputs_iff (h : c.references = none) {f : DataFamily}
    (hf : ∀ kind ∈ f.inputs, kind.family? = some f) : c.inputKind ∈ f.inputs ↔ c.family = f := by
  refine ⟨fun hmem => family_of_inputKind h (hf _ hmem), ?_⟩
  rintro rfl
  exact inputKind_mem_inputs h

theorem isSome_step_iff : c.step.isSome ↔ c.inputKind = .numberInput := by
  unfold step
  split_ifs with h <;> simp [h]

theorem family_of_isSome_maxLength (h : c.maxLength.isSome) : c.family = .string := by
  unfold maxLength at h
  split_ifs at h with hfamily
  · exact hfamily.1
  · cases h

theorem inputKind_of_some {target : ColumnRef} (h : c.references = some target) :
    c.inputKind = .select := by
  rw [inputKind, h, Option.isSome_some, if_pos rfl]

theorem inputKind_eq_select_iff : c.inputKind = .select ↔ c.references.isSome := by
  cases h : c.references with
  | some target => simp [inputKind_of_some h]
  | none =>
    have hselect : ∀ f : DataFamily, .select ∉ f.inputs := by
      intro f
      cases f <;> decide
    have hne : c.inputKind ≠ .select := fun heq =>
      hselect c.family (heq ▸ inputKind_mem_inputs h)
    simp [hne]

end Column

/-! ### The two readings agree -/

/-- The widget of a column fits the family of its type. -/
structure Column.Fits (c : Column) : Prop where
  number : c.fieldChoice.inputKind = .numberInput ↔ c.family = .numeric
  switch : c.fieldChoice.inputKind = .switch ↔ c.family = .boolean
  picker : c.fieldChoice.inputKind ∈ [.datePicker, .dateTimePicker, .timePicker] ↔
    c.family = .date
  json : c.fieldChoice.inputKind = .jsonEditor → c.family = .other
  text : c.fieldChoice.inputKind ∈ [.emailInput, .urlInput, .phoneInput, .textArea, .textInput] →
    c.family = .string
  hint : c.family ≠ .string ∨ c.typeName ∈ addressTypes →
    ∀ name, { c with name }.fieldChoice.inputKind = c.fieldChoice.inputKind

theorem Column.fits {c : Column} (h : c.references = none) : c.Fits where
  number := by
    rw [inputKind_fieldChoice, ← List.mem_singleton]
    exact inputKind_mem_inputs_iff (f := .numeric) h (by decide)
  switch := by
    rw [inputKind_fieldChoice, ← List.mem_singleton]
    exact inputKind_mem_inputs_iff (f := .boolean) h (by decide)
  picker := by
    rw [inputKind_fieldChoice]
    exact inputKind_mem_inputs_iff (f := .date) h (by decide)
  json := by
    rw [inputKind_fieldChoice]
    exact fun hkind => family_of_inputKind h (by rw [hkind]; rfl)
  text := by
    rw [inputKind_fieldChoice]
    have hgives : ∀ kind ∈ [InputKind.emailInput, .urlInput, .phoneInput, .textArea, .textInput],
        kind.family? = some .string := by decide
    exact fun hkind => family_of_inputKind h (hgives _ hkind)
  hint := by
    intro hown name
    have hclass : c.typeClass ≠ .longText ∧ c.typeClass ≠ .plain := by
      rcases hown with hfamily | haddress
      · constructor <;> rintro hk <;> exact hfamily (congrArg TypeClass.family hk)
      · have hnames : ∀ name ∈ addressTypes,
            TypeClass.ofName name ≠ .longText ∧ TypeClass.ofName name ≠ .plain := by
          decide +kernel
        exact hnames c.typeName haddress
    rw [inputKind_fieldChoice, inputKind_fieldChoice, inputKind_of_none h,
      inputKind_of_none (c := { c with name }) h]
    exact InputKind.ofClass_congr hclass name c.name

/-- The two readings of a type's name are those of the two lists of cases, and for a column that
refers to no other one they agree: numbers, truth values and times have widgets of their own, which
no name of a column overrides, and only texts have widgets for texts.  A column that refers to
another one is chosen from a list, and the family of its type is what it is without the reference.
Only number widgets have steps, and only texts have a greatest length. -/
theorem fieldChoice_fits (c : Column) :
    c.fieldChoice.family = c.family ∧ c.family = .ofTypeName c.typeName ∧
    (c.references = none → c.fieldChoice.inputKind = .ofTypeName c.typeName c.name ∧ c.Fits) ∧
    (∀ target, c.references = some target →
      c.fieldChoice.inputKind = .select ∧ c.fieldChoice.step = none ∧
      c.fieldChoice.family = { c with references := none }.fieldChoice.family) ∧
    (c.fieldChoice.step.isSome ↔ c.fieldChoice.inputKind = .numberInput) ∧
    (c.fieldChoice.maxLength.isSome → c.family = .string) := by
  simp only [Column.inputKind_fieldChoice, Column.family_fieldChoice, Column.step_fieldChoice,
    Column.maxLength_fieldChoice]
  refine ⟨trivial, c.family_eq, fun h => ⟨Column.inputKind_eq h, Column.fits h⟩, ?_,
    Column.isSome_step_iff, Column.family_of_isSome_maxLength⟩
  intro target h
  have hkind := Column.inputKind_of_some h
  refine ⟨hkind, ?_, ?_⟩
  · rw [← Option.not_isSome_iff_eq_none, Column.isSome_step_iff, hkind]
    decide
  · -- the name of the type does not depend on the reference
    rw [Column.family_eq, Column.family_eq]
    rfl

/-- A moment in a column that is named after mail addresses. -/
def mailedColumn : Column :=
  { name := "email_at", dataType := "TimestampTZ(3)" }

/-- A number that refers to a row. -/
def categoryColumn : Column :=
  { name := "category", dataType := "int", references := some ⟨"categories", "id"⟩ }

theorem fieldChoice_fits_samples :
    (mailedColumn.references = none ∧ mailedColumn.fieldChoice.inputKind = .dateTimePicker ∧
      mailedColumn.Fits) ∧
    categoryColumn.references = some ⟨"categories", "id"⟩ ∧ categoryColumn.family = .numeric ∧
      categoryColumn.fieldChoice.inputKind = .select ∧ categoryColumn.fieldChoice.step = none := by
  obtain ⟨-, -, hmailed, -⟩ := fieldChoice_fits mailedColumn
  obtain ⟨-, -, -, hcategory, -⟩ := fieldChoice_fits categoryColumn
  obtain ⟨hkind, hfits⟩ := hmailed rfl
  obtain ⟨hselect, hstep, -⟩ := hcategory _ rfl
  exact ⟨⟨rfl, hkind.trans (by decide +kernel), hfits⟩, rfl, by decide +kernel, hselect, hstep⟩

end Mockup
