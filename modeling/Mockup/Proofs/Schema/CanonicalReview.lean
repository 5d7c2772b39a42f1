import Mockup.Generation.Generator
import Mockup.Proofs.Schema.Review
import Mockup.Proofs.Schema.Spelling

/-!
# Reviewing canonical documents

A review looks at the lines of a document and knows no context.  When every column stands on one
line, only the line of a column that is named like the keyword before a table can be mistaken for
something else.

* `Document.lines_text`: the lines of a document;
* `Column.beginsTable_line`, `Column.declaresReference_line`: the line of a column looks like
  neither a table nor a reference;
* `Document.review_passes_iff`: which documents pass a review.
-/

namespace Mockup.Schema.Canonical

/-! ### Characters of names -/

theorem Name.isNameChar_of_mem (n : Name) {c : Char} (hc : c ∈ n.text.toList) :
    isNameChar c = true := by
  have h := n.isName_text
  unfold isName at h
  split at h
  · cases h
  · next first others hlist =>
    obtain ⟨hfirst, hothers⟩ := (Bool.and_eq_true _ _).mp h
    rw [hlist] at hc
    rcases List.mem_cons.1 hc with rfl | hc
    · exact isNameChar_of_isNameStart hfirst
    · exact List.all_eq_true.1 hothers c hc

theorem Name.toList_ne_nil (n : Name) : n.text.toList ≠ [] := by
  intro hnil
  have h := n.isName_text
  rw [isName, hnil] at h
  cases h

theorem Argument.isNameChar_of_mem (a : Argument) {c : Char} (hc : c ∈ a.text.toList) :
    isNameChar c = true := by
  cases a with
  | digits d => exact isNameChar_of_isDigit (d.isDigit_of_mem c hc)
  | name n => exact n.isNameChar_of_mem hc

/-! ### The line of a column -/

/-- The line of a column, without the line end. -/
def Column.line (c : Column) : List Char :=
  ("  " ++ c.name.text ++ " " ++ c.typeName.text ++ c.argumentsText ++ c.settingsText).toList

/-- The column stands on one line: no text in its settings has line ends. -/
def Column.OnOneLine (c : Column) : Prop :=
  '\n' ∉ c.settingsText.toList

instance (c : Column) : Decidable c.OnOneLine :=
  inferInstanceAs (Decidable (_ ∉ _))

namespace Column

variable (c : Column)

theorem toList_text : c.text.toList = c.line ++ ['\n'] := by
  rw [text, String.toList_append]
  rfl

/-- The name and the type of a column. -/
def front : List Char :=
  c.name.text.toList ++ ' ' :: (c.typeName.text.toList ++ c.argumentsText.toList)

theorem line_eq : c.line = [' ', ' '] ++ (c.front ++ c.settingsText.toList) := by
  simp [line, front]

/-- The characters in the name and the type of a column. -/
def isFrontChar (c : Char) : Bool :=
  isNameChar c || [' ', '(', ')', ','].contains c

theorem isFrontChar_of_isNameChar {ch : Char} (h : isNameChar ch = true) :
    isFrontChar ch = true := by
  rw [isFrontChar, h, Bool.true_or]

theorem isFrontChar_arguments {args : List Argument} :
    ∀ ch ∈ [','].intercalate (args.map fun a => a.text.toList), isFrontChar ch = true := by
  induction args with
  | nil => exact fun _ h => nomatch h
  | cons a args ih =>
    have ha : ∀ ch ∈ a.text.toList, isFrontChar ch = true := fun ch h =>
      isFrontChar_of_isNameChar (a.isNameChar_of_mem h)
    cases args with
    | nil => simpa using ha
    | cons b args =>
      rw [List.map_cons, List.map_cons, List.intercalate_cons_cons]
      simp only [List.forall_mem_append]
      exact ⟨⟨ha, List.forall_mem_singleton.2 (by decide)⟩, ih⟩

theorem isFrontChar_of_mem : ∀ ch ∈ c.front, isFrontChar ch = true := by
  have hname : ∀ n : Name, ∀ ch ∈ n.text.toList, isFrontChar ch = true := fun n ch h =>
    isFrontChar_of_isNameChar (n.isNameChar_of_mem h)
  have hargs : ∀ ch ∈ c.argumentsText.toList, isFrontChar ch = true := by
    unfold argumentsText
    split
    · exact fun _ h => nomatch h
    · simp only [String.toList_append, String.toList_intercalate, List.map_map,
        List.forall_mem_append]
      exact ⟨⟨List.all_eq_true.1 (by decide), isFrontChar_arguments⟩,
        List.all_eq_true.1 (by decide)⟩
  simp only [front, List.forall_mem_append, List.forall_mem_cons]
  exact ⟨hname _, by decide, hname _, hargs⟩

theorem not_mem_front (ch : Char) (hch : isFrontChar ch = false) : ch ∉ c.front := fun h =>
  absurd (c.isFrontChar_of_mem ch h) (by simp [hch])

theorem head?_front : ∃ ch ∈ c.front.head?, isNameStart ch = true := by
  have h := c.name.isName_text
  unfold isName at h
  split at h
  · cases h
  · next first others hlist =>
    exact ⟨first, by simp [front, hlist], ((Bool.and_eq_true _ _).mp h).1⟩

theorem getLast?_front : ∃ ch ∈ c.front.getLast?, Text.isBlank ch = false := by
  have hfront : c.front = (c.name.text.toList ++ [' ']) ++
      (c.typeName.text.toList ++ c.argumentsText.toList) := by simp [front]
  unfold argumentsText at hfront
  split at hfront
  · obtain ⟨init, last, hlast⟩ := List.eq_nil_or_concat c.typeName.text.toList |>.resolve_left
      c.typeName.toList_ne_nil
    refine ⟨last, ?_, isBlank_of_isNameChar (c.typeName.isNameChar_of_mem (by simp [hlast]))⟩
    simp [hfront, hlast, List.getLast?_cons, List.getLast?_append]
  · refine ⟨')', ?_, by decide⟩
    simp [hfront, List.getLast?_cons, List.getLast?_append]

/-- The type of a column is followed by its settings. -/
theorem settingsText_cases : c.settingsText.toList = [] ∨
    ∃ more, c.settingsText.toList = ' ' :: '[' :: (more ++ [']']) := by
  unfold settingsText
  split
  · exact .inl rfl
  · exact .inr ⟨_, by simp; rfl⟩

/-- Of the line of a column, the name and the type count, and then a part of the settings. -/
theorem bareLine_line : ∃ es, (es = [] ∨ es = [' '] ∨ ∃ more, es = ' ' :: '[' :: more) ∧
    bareLine c.line = c.front ++ es := by
  obtain ⟨first, hfirst, hstart⟩ := c.head?_front
  obtain ⟨es, hes, hbare⟩ := bareLine_append [' ', ' '] (List.all_eq_true.1 (by decide))
    (c.not_mem_front '/' (by decide)) ⟨first, hfirst, isBlank_of_isNameStart hstart⟩
    c.getLast?_front c.settingsText.toList
  refine ⟨es, ?_, by rw [line_eq, hbare]⟩
  rcases c.settingsText_cases with hnil | ⟨more, hmore⟩
  · exact .inl (List.prefix_nil.1 (hnil ▸ hes))
  · rw [hmore] at hes
    rcases List.prefix_cons_iff.1 hes with hnil | ⟨t, rfl, ht⟩
    · exact .inl hnil
    · rcases List.prefix_cons_iff.1 ht with rfl | ⟨u, rfl, -⟩
      · exact .inr (.inl rfl)
      · exact .inr (.inr ⟨u, rfl⟩)

/-- The line of a column looks like the beginning of a table just if the column is named so. -/
theorem beginsTable_line :
    beginsTable (bareLine c.line) = Text.sameIgnoringCase c.name.text "table" := by
  obtain ⟨es, -, hbare⟩ := c.bareLine_line
  have hname : ∀ ch ∈ c.name.text.toList, (!Text.isBlank ch) = true := fun ch h => by
    rw [isBlank_of_isNameChar (c.name.isNameChar_of_mem h)]; rfl
  obtain ⟨first, others, htype⟩ := List.exists_cons_of_ne_nil c.typeName.toList_ne_nil
  have hfirst : Text.isBlank first = false :=
    isBlank_of_isNameChar (c.typeName.isNameChar_of_mem (by simp [htype]))
  rw [hbare, beginsTable, front, List.append_assoc, List.cons_append,
    takeWhile_append_cons hname (by decide), dropWhile_append_cons hname (by decide),
    String.ofList_toList, htype]
  simp [hfirst]

/-- No column looks like the declaration of a reference. -/
theorem declaresReference_line : declaresReference (bareLine c.line) = false := by
  obtain ⟨es, hes, hbare⟩ := c.bareLine_line
  have hfront : ∀ ch ∈ c.front, decide (ch ≠ '[') = true := fun ch h => by
    simp only [decide_eq_true_eq]
    rintro rfl
    exact c.not_mem_front '[' (by decide) h
  have hhead : ∃ ws, (ws = [] ∨ ws = [' ']) ∧
      (bareLine c.line).takeWhile (· ≠ '[') = c.front ++ ws := by
    rw [hbare, List.takeWhile_append_of_pos hfront]
    rcases hes with rfl | rfl | ⟨more, rfl⟩
    · exact ⟨[], .inl rfl, rfl⟩
    · exact ⟨[' '], .inr rfl, rfl⟩
    · exact ⟨[' '], .inr rfl, rfl⟩
  obtain ⟨ws, hws, hhead⟩ := hhead
  have hcolon : ':' ∉ c.front ++ ws := by
    rcases hws with rfl | rfl <;> simp [c.not_mem_front ':' (by decide)]
  have hbrace : '{' ∉ c.front ++ ws := by
    rcases hws with rfl | rfl <;> simp [c.not_mem_front '{' (by decide)]
  simp only [declaresReference, hhead, Bool.and_eq_false_iff, Bool.or_eq_false_iff,
    List.contains_eq_mem, decide_eq_false_iff_not]
  exact .inr ⟨hcolon, hbrace⟩

/-- No column opens the body of a table for the line before. -/
theorem opensBody_line : opensBody c.line = false := by
  obtain ⟨first, hfirst, hstart⟩ := c.head?_front
  have hbrace : first ≠ '{' := by
    rintro rfl
    exact absurd hstart (by decide)
  rw [line_eq]
  exact opensBody_append _ (List.all_eq_true.1 (by decide)) (c.not_mem_front '/' (by decide))
    ⟨first, hfirst, isBlank_of_isNameStart hstart, hbrace⟩ _

theorem dropReturn_line : Text.dropReturn c.line = c.line := by
  have hlast : ∃ ch ∈ c.line.getLast?, Text.isBlank ch = false := by
    rcases c.settingsText_cases with hnil | ⟨more, hmore⟩
    · obtain ⟨ch, hch, hblank⟩ := c.getLast?_front
      refine ⟨ch, ?_, hblank⟩
      rw [line_eq, hnil, List.append_nil, List.getLast?_append, Option.mem_def.1 hch]
      rfl
    · refine ⟨']', ?_, by decide⟩
      simp [line_eq, hmore, List.getLast?_cons, List.getLast?_append]
  obtain ⟨ch, hch, hblank⟩ := hlast
  refine Text.dropReturn_of_getLast? hch ?_
  rintro rfl
  exact absurd hblank (by decide)

end Column

/-! ### The lines of a document -/

namespace Table

variable (t : Table)

/-- The line on which a table begins. -/
def headLine : List Char :=
  ("Table " ++ t.name.text ++ " \x7b").toList

/-- The lines of a table. -/
def lines : List (List Char) :=
  t.headLine :: t.columns.map Column.line ++ [['}']]

theorem toList_text : t.text.toList = t.lines.flatMap (· ++ ['\n']) := by
  simp [text, lines, headLine, String.toList_join, Column.toList_text, List.flatMap_def,
    Function.comp_def]

theorem not_mem_headLine {ch : Char} (hch : isNameChar ch = false)
    (hmore : ch ∉ "Table \x7b".toList) : ch ∉ t.headLine := by
  have hname : ch ∉ t.name.text.toList := fun h =>
    absurd (t.name.isNameChar_of_mem h) (by simp [hch])
  simp_all [headLine]

theorem getLast?_headLine : t.headLine.getLast? = some '{' := by
  simp [headLine, List.getLast?_cons, List.getLast?_append]

theorem bareLine_headLine : bareLine t.headLine = t.headLine := by
  obtain ⟨es, hes, hbare⟩ := bareLine_append [] nofun
    (t.not_mem_headLine (by decide) (by decide)) ⟨'T', by simp [headLine], by decide⟩
    ⟨'{', t.getLast?_headLine, by decide⟩ []
  rw [List.prefix_nil.1 hes] at hbare
  simpa using hbare

end Table

/-- A line that is read as it stands, and neither declares a reference nor opens the body of a table
for the line before. -/
structure IsPlainLine (line : List Char) : Prop where
  not_mem : '\n' ∉ line
  dropReturn_eq : Text.dropReturn line = line
  declaresReference_eq : declaresReference (bareLine line) = false
  opensBody_eq : opensBody line = false

theorem Column.isPlainLine {c : Column} (h : c.OnOneLine) : IsPlainLine c.line where
  not_mem := by simp [line_eq, c.not_mem_front '\n' (by decide), show '\n' ∉ _ from h]
  dropReturn_eq := c.dropReturn_line
  declaresReference_eq := c.declaresReference_line
  opensBody_eq := c.opensBody_line

theorem Table.isPlainLine_headLine (t : Table) : IsPlainLine t.headLine where
  not_mem := t.not_mem_headLine (by decide) (by decide)
  dropReturn_eq := Text.dropReturn_of_getLast? t.getLast?_headLine (by decide)
  declaresReference_eq := by
    have hword : ∀ cs, ("Table".toList ++ ' ' :: cs).takeWhile
        (fun c => !(Text.isBlank c || c == ':' || c == '{')) = "Table".toList := fun cs =>
      takeWhile_append_cons (List.all_eq_true.1 (by decide)) (by decide) cs
    have hhead : t.headLine.takeWhile (· ≠ '[') = "Table".toList ++ ' ' ::
        (t.name.text.toList ++ " \x7b".toList).takeWhile (· ≠ '[') := by
      simp [headLine]
    rw [bareLine_headLine, declaresReference, hhead, hword, Bool.and_eq_false_iff]
    exact .inl (by decide)
  opensBody_eq := by
    have hopens := opensBody_append [] nofun (t.not_mem_headLine (by decide) (by decide))
      ⟨'T', by simp [headLine], by decide, by decide⟩ []
    simpa using hopens

namespace Document

variable (d : Document)

/-- The lines of a document. -/
def lines : List (List Char) :=
  d.tables.flatMap Table.lines

/-- Every column of the document stands on one line. -/
def InLines : Prop :=
  ∀ t ∈ d.tables, ∀ c ∈ t.columns, c.OnOneLine

instance : Decidable d.InLines :=
  inferInstanceAs (Decidable (∀ t ∈ d.tables, ∀ c ∈ t.columns, c.OnOneLine))

variable {d}

theorem isPlainLine_of_mem (h : d.InLines) : ∀ line ∈ d.lines, IsPlainLine line := by
  intro line hline
  obtain ⟨t, ht, hline⟩ := List.mem_flatMap.1 hline
  simp only [Table.lines, List.mem_append, List.mem_cons, List.mem_map] at hline
  obtain (rfl | ⟨c, hc, rfl⟩) | rfl | hnil := hline
  · exact t.isPlainLine_headLine
  · exact Column.isPlainLine (h t ht c hc)
  · exact ⟨by decide, by decide, by decide, by decide⟩
  · cases hnil

/-- The lines of a document of which every column stands on one line. -/
theorem lines_text (h : d.InLines) : Text.lines d.text.toList = d.lines := by
  have htext : d.text.toList = d.lines.flatMap (· ++ ['\n']) := by
    rw [text, lines, List.flatMap_assoc, String.toList_join, List.flatMap_map]
    exact congrArg (d.tables.flatMap ·) (funext Table.toList_text)
  rw [htext, Text.lines_flatMap fun line hline =>
    ⟨(isPlainLine_of_mem h line hline).not_mem, (isPlainLine_of_mem h line hline).dropReturn_eq⟩]

end Document

/-- The column is named like the keyword before a table, and its line has no opening brace. -/
def Column.Misleads (c : Column) : Prop :=
  Text.sameIgnoringCase c.name.text "table" = true ∧ '{' ∉ bareLine c.line

instance (c : Column) : Decidable c.Misleads :=
  inferInstanceAs (Decidable (_ ∧ _))

theorem Table.forall_mem_lines (t : Table) :
    (∀ line ∈ t.lines, beginsTable (bareLine line) = true → '{' ∈ bareLine line)
      ↔ ∀ c ∈ t.columns, ¬ c.Misleads := by
  have hhead : '{' ∈ bareLine t.headLine := by
    rw [t.bareLine_headLine, headLine]
    simp
  have hfoot : beginsTable (bareLine ['}']) = false := by decide
  simp only [lines, List.forall_mem_append, List.forall_mem_cons, List.forall_mem_map,
    Column.beginsTable_line, Column.Misleads, not_and, Decidable.not_not]
  simp [hhead, hfoot]

/-- A document of which every column stands on one line passes a review just if no column misleads
it; and the review is then why nothing is read of its text. -/
theorem Document.review_passes_iff {d : Document} (h : d.InLines) :
    (sound (review d.text) = true ↔ ∀ t ∈ d.tables, ∀ c ∈ t.columns, ¬ c.Misleads) ∧
    ((∃ issues, readSchema d.text = .error (.review issues)) ↔
      ∃ t ∈ d.tables, ∃ c ∈ t.columns, c.Misleads) := by
  have hlines : ∀ line ∈ Text.lines d.text.toList, IsPlainLine line := by
    rw [lines_text h]
    exact isPlainLine_of_mem h
  have hsound : sound (review d.text) = true ↔
      ∀ t ∈ d.tables, ∀ c ∈ t.columns, ¬ c.Misleads := by
    rw [Schema.sound_review_iff (fun line hline => (hlines line hline).declaresReference_eq)
      fun line hline => (hlines line hline).opensBody_eq, lines_text h]
    simp only [lines, List.forall_mem_flatMap, Table.forall_mem_lines]
  refine ⟨hsound, ?_⟩
  have hmisled : (∃ t ∈ d.tables, ∃ c ∈ t.columns, c.Misleads) ↔
      ¬ sound (review d.text) = true := by
    rw [hsound]
    simp only [Classical.not_forall, Classical.not_not, exists_prop]
  rw [hmisled, readSchema]
  split
  · next hpass =>
    refine iff_of_false ?_ (fun h => h hpass)
    rintro ⟨issues, herror⟩
    cases hparse : parse d.text <;> rw [hparse] at herror <;> cases herror
  · next hfail => exact iff_of_true ⟨_, rfl⟩ hfail

/-- Columns that are named like keywords, one of them like the keyword before a table: there is a
brace in the note on it. -/
def keywordNames : Document where
  tables := [⟨⟨"Ref", by decide⟩, [
    { name := ⟨"ref", by decide⟩, typeName := ⟨"note", by decide⟩ },
    { name := ⟨"table", by decide⟩, typeName := ⟨"indexes", by decide⟩,
      settings := some [.note ⟨"\x7b // Ref: >", by simp⟩] }]⟩]

theorem review_passes_keywordNames :
    keywordNames.text
      = "Table Ref \x7b\n  ref note\n  table indexes [note: '\x7b // Ref: >']\n\x7d\n" ∧
    sound (review keywordNames.text) = true := by
  exact ⟨by decide, (Document.review_passes_iff (d := keywordNames) (by decide)).1.2 (by decide)⟩

/-- A table with one column, which is named like the keyword before a table. -/
def misleadingName : Document where
  tables := [⟨⟨"t", by decide⟩, [{ name := ⟨"table", by decide⟩, typeName := ⟨"int", by decide⟩ }]⟩]

/-- The text can be read, but it does not pass the review. -/
theorem review_fails_misleadingName :
    misleadingName.InLines ∧ misleadingName.text = "Table t \x7b\n  table int\n\x7d\n" ∧
    (parse misleadingName.text).toOption = some misleadingName.schema ∧
    sound (review misleadingName.text) = false ∧
    readSchema misleadingName.text = .error (.review [⟨2, .noBrace "table int"⟩]) := by
  have herrors : errorsOf (review misleadingName.text) = [⟨2, .noBrace "table int"⟩] := by decide
  have hsound : sound (review misleadingName.text) = false := by decide
  refine ⟨by decide, by decide, by decide +kernel, hsound, ?_⟩
  rw [readSchema, if_neg (by simp [hsound]), herrors]

end Mockup.Schema.Canonical
