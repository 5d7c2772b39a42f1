import Mockup.Proofs.Schema.CanonicalTokens
import Mockup.Proofs.Schema.Written

/-!
# The ways of writing a reference

References between columns may be written on lines of their own, in a block, or as settings of a
column.  The data here say how: which names are quoted, what the ends are qualified with, what the
declaration is called, which settings follow.

* `Name`, `End`: names, and columns with the tables that they belong to;
* `Settings`, `Line`: a reference on a line, with settings after it;
* `InlineSetting`, `InlineColumn`: references in the settings of a column;
* `Declaration`: the statements in which references are written, with the `relationships` that they
  declare;
* `Declaration.written`, `textOf`: the text; `Declaration.tokens` are its tokens.
-/

namespace Mockup.Schema.Reference

open Canonical (markOf)

/-! ### Names -/

/-- A name as written. -/
inductive Name where
  | bare (word : String) (isWord_word : isWord word.toList = true)
  | quoted (text : String)

namespace Name

/-- The text of the name. -/
def text : Name → String
  | bare word _ => word
  | quoted text => text

/-- The token of the name. -/
def token : Name → Token
  | bare word _ => .ident word
  | quoted text => .quoted text

theorem isLexeme_token (n : Name) : n.token.isLexeme = true := by
  cases n with
  | bare word h => exact h
  | quoted text => rfl

@[simp] theorem name?_token (n : Name) : n.token.name? = some n.text := by
  cases n <;> rfl

@[simp] theorem token_ne_mark (n : Name) (m : Mark) : n.token ≠ .mark m := by
  cases n <;> simp [token]

@[simp] theorem token_ne_newline (n : Name) : n.token ≠ .newline := by
  cases n <;> simp [token]

theorem spells (n : Name) {c : Char} {cs : List Char} {ts : List Token}
    (hc : isNameChar c = false) (h : Spells (c :: cs) ts) :
    Spells (n.token.written ++ c :: cs) (n.token :: ts) := by
  refine .written n.isLexeme_token ?_ h
  cases n with
  | bare word _ => exact hc
  | quoted text => trivial

end Name

/-- Names with a point after each of them. -/
def qualifiersWritten (qualifiers : List Name) : List Char :=
  qualifiers.flatMap fun q => q.token.written ++ ['.']

/-- The tokens of names with a point after each of them. -/
def qualifierTokens (qualifiers : List Name) : List Token :=
  qualifiers.flatMap fun q => [q.token, .mark .dot]

theorem spells_qualifiers (qualifiers : List Name) :
    Spells (qualifiersWritten qualifiers) (qualifierTokens qualifiers) :=
  .flatMap fun q _ => q.spells (by decide) (.mark rfl (by decide) .nil)

/-- One end of a reference: a column and its table, after the names that the table is qualified
with. -/
structure End where
  qualifiers : List Name := []
  table : Name
  column : Name

namespace End

/-- The column of the end. -/
def ref (e : End) : ColumnRef :=
  ⟨e.table.text, e.column.text⟩

/-- The end as written. -/
def written (e : End) : List Char :=
  qualifiersWritten e.qualifiers ++ (e.table.token.written ++ '.' :: e.column.token.written)

/-- The tokens of the end. -/
def tokens (e : End) : List Token :=
  qualifierTokens e.qualifiers ++ [e.table.token, .mark .dot, e.column.token]

theorem spells (e : End) {c : Char} {cs : List Char} {ts : List Token}
    (hc : isNameChar c = false) (h : Spells (c :: cs) ts) :
    Spells (e.written ++ c :: cs) (e.tokens ++ ts) := by
  have hcolumn := Spells.mark (c := '.') rfl (by decide) (e.column.spells hc h)
  have hall := (spells_qualifiers e.qualifiers).append (e.table.spells (by decide) hcolumn)
  simpa [written, tokens] using hall

end End

/-! ### Lines -/

/-- Settings between brackets, of any tokens but a closing bracket. -/
structure Settings where
  inner : List Token
  isLexeme_inner : ∀ t ∈ inner, t.isLexeme = true
  notMem_inner : .mark .closeBracket ∉ inner

namespace Settings

/-- The settings as written, after a blank. -/
def written (s : Settings) : List Char :=
  ' ' :: '[' :: ((spaced s.inner).toList ++ [']'])

/-- The tokens of the settings. -/
def tokens (s : Settings) : List Token :=
  .mark .openBracket :: (s.inner ++ [.mark .closeBracket])

theorem endsBefore_closeBracket (t : Token) : t.EndsBefore ']' := by
  unfold Token.EndsBefore
  split <;> first | trivial | decide +kernel | exact fun _ => by decide

theorem spells_spaced {ts : List Token} (hts : ∀ t ∈ ts, t.isLexeme = true) {cs : List Char}
    {us : List Token} (h : Spells (']' :: cs) us) :
    Spells ((spaced ts).toList ++ ']' :: cs) (ts ++ us) := by
  rw [spaced, String.toList_ofList]
  induction ts with
  | nil => exact h
  | cons t ts ih =>
    obtain ⟨ht, hts⟩ := List.forall_mem_cons.1 hts
    cases ts with
    | nil => simpa using Spells.written ht (endsBefore_closeBracket t) h
    | cons u ts => simpa [List.intercalate_cons_cons] using Spells.writtenBlank ht (ih hts)

theorem spells (s : Settings) : Spells s.written s.tokens :=
  .blank (.mark rfl (by decide) (spells_spaced s.isLexeme_inner (.mark rfl (by decide) .nil)))

end Settings

/-- A reference on a line of its own. -/
structure Line where
  kind : Cardinality
  source : End
  target : End
  settings : List Settings := []

namespace Line

/-- The relationship that the line declares. -/
def relationship (r : Line) : Relationship :=
  ⟨r.kind, r.source.ref, r.target.ref⟩

/-- The line as written. -/
def written (r : Line) : List Char :=
  r.source.written ++ ' ' :: (r.kind.symbol.toList ++ ' ' :: (r.target.written
    ++ (r.settings.flatMap Settings.written ++ ['\n'])))

/-- The tokens of the two ends and the sign between them. -/
def body (r : Line) : List Token :=
  r.source.tokens ++ .mark (markOf r.kind) :: r.target.tokens

/-- The tokens of the line, without its end. -/
def tokens (r : Line) : List Token :=
  r.body ++ r.settings.flatMap Settings.tokens

theorem spells (r : Line) : Spells r.written (r.tokens ++ [.newline]) := by
  obtain ⟨c, cs, heq, hc⟩ : ∃ c cs, r.settings.flatMap Settings.written ++ ['\n'] = c :: cs ∧
      isNameChar c = false := by
    cases r.settings with
    | nil => exact ⟨'\n', [], rfl, by decide⟩
    | cons s settings => exact ⟨' ', _, rfl, by decide⟩
  have hsettings := (Spells.flatMap fun s (_ : s ∈ r.settings) => s.spells).append (.newline .nil)
  rw [heq] at hsettings
  have htarget := r.target.spells hc hsettings
  have hall := r.source.spells (by decide) (Canonical.spells_symbol r.kind htarget.blank).blank
  rw [← heq] at hall
  simpa [written, tokens, body] using hall

end Line

/-! ### Settings of columns -/

/-- A setting of a column. -/
inductive InlineSetting where
  | ref (kind : Cardinality) (target : End)
  | words (first : Name) (others : List Name)

namespace InlineSetting

/-- The reference of the setting. -/
def ref? : InlineSetting → Option (Cardinality × ColumnRef)
  | ref kind target => some (kind, target.ref)
  | words _ _ => none

/-- The setting as written. -/
def written : InlineSetting → List Char
  | ref kind target =>
    ['r', 'e', 'f', ':', ' '] ++ (kind.symbol.toList ++ ' ' :: target.written)
  | words first others => first.token.written ++ others.flatMap fun w => ' ' :: w.token.written

/-- The tokens of the setting. -/
def tokens : InlineSetting → List Token
  | ref kind target => .ident "ref" :: .mark .colon :: .mark (markOf kind) :: target.tokens
  | words first others => first.token :: others.map Name.token

theorem spells (s : InlineSetting) {c : Char} (hc : isNameChar c = false) {cs : List Char}
    {ts : List Token} (h : Spells (c :: cs) ts) :
    Spells (s.written ++ c :: cs) (s.tokens ++ ts) := by
  cases s with
  | ref kind target =>
    have hvalue := Canonical.spells_symbol kind (target.spells hc h).blank
    have hall := Spells.name (w := "ref") (by decide) (by decide)
      (Spells.mark (c := ':') rfl (by decide) hvalue.blank)
    simpa [written, tokens] using hall
  | words first others =>
    induction others generalizing first with
    | nil => simpa [written, tokens] using first.spells hc h
    | cons w others ih => simpa [written, tokens] using first.spells (by decide) (ih w).blank

end InlineSetting

theorem spells_inlineSettings (settings : List InlineSetting) {cs : List Char} {ts : List Token}
    (h : Spells (']' :: cs) ts) :
    Spells (", ".toList.intercalate (settings.map InlineSetting.written) ++ ']' :: cs)
      ([.mark .comma].intercalate (settings.map InlineSetting.tokens) ++ ts) := by
  induction settings with
  | nil => exact h
  | cons s settings ih => cases settings with
    | nil => simpa using s.spells (by decide) h
    | cons s' settings =>
      have hcomma := Spells.mark (c := ',') rfl (by decide) ih.blank
      simpa [List.intercalate_cons_cons] using s.spells (by decide) hcomma

/-- A column with settings. -/
structure InlineColumn where
  name : Name
  typeName : Name
  settings : List InlineSetting

namespace InlineColumn

/-- The references in the settings. -/
def refs (c : InlineColumn) : List (Cardinality × ColumnRef) :=
  c.settings.filterMap InlineSetting.ref?

/-- The line of the column. -/
def written (c : InlineColumn) : List Char :=
  "  ".toList ++ (c.name.token.written ++ ' ' :: (c.typeName.token.written ++ " [".toList
    ++ (", ".toList.intercalate (c.settings.map InlineSetting.written) ++ "]\n".toList)))

/-- The tokens of the settings, with the brackets. -/
def settingTokens (c : InlineColumn) : List Token :=
  .mark .openBracket :: ([.mark .comma].intercalate (c.settings.map InlineSetting.tokens)
    ++ [.mark .closeBracket])

/-- The tokens of the column, without the end of its line. -/
def tokens (c : InlineColumn) : List Token :=
  c.name.token :: c.typeName.token :: c.settingTokens

theorem spells (c : InlineColumn) : Spells c.written (c.tokens ++ [.newline]) := by
  have hclose := Spells.mark (c := ']') rfl (by decide) (.newline .nil)
  have hopen := Spells.mark (c := '[') rfl (by decide) (spells_inlineSettings c.settings hclose)
  have hall := c.name.spells (by decide) (c.typeName.spells (by decide) hopen.blank).blank
  simpa [written, tokens, settingTokens] using hall.blank.blank

end InlineColumn

/-! ### Declarations -/

/-- A statement in which references are written. -/
inductive Declaration where
  | line (name : Option Name) (r : Line)
  | block (name : Option Name) (rs : List Line)
  | table (qualifiers : List Name) (name : Name) (columns : List InlineColumn)

namespace Declaration

/-- The relationships that are declared, in order. -/
def relationships : Declaration → List Relationship
  | line _ r => [r.relationship]
  | block _ rs => rs.map Line.relationship
  | table _ name columns =>
    columns.flatMap fun c => c.refs.map fun (kind, target) =>
      ⟨kind, ⟨name.text, c.name.text⟩, target⟩

/-- The keyword of a reference and its name. -/
def headWritten (name : Option Name) : List Char :=
  ['R', 'e', 'f'] ++ (name.elim [] fun n => ' ' :: n.token.written)

/-- The tokens of the keyword and the name. -/
def headTokens (name : Option Name) : List Token :=
  .ident "Ref" :: (name.map Name.token).toList

/-- The statement as written. -/
def written : Declaration → List Char
  | line name r => headWritten name ++ (": ".toList ++ r.written)
  | block name rs =>
    headWritten name ++ (" \x7b\n".toList ++ (rs.flatMap (fun r => "  ".toList ++ r.written)
      ++ "\x7d\n".toList))
  | table qualifiers name columns =>
    ['T', 'a', 'b', 'l', 'e', ' '] ++ (qualifiersWritten qualifiers ++ (name.token.written
      ++ (" \x7b\n".toList ++ (columns.flatMap InlineColumn.written ++ "\x7d\n".toList))))

/-- The tokens of the statement, without the end of its last line. -/
def tokens : Declaration → List Token
  | line name r => headTokens name ++ .mark .colon :: r.tokens
  | block name rs =>
    headTokens name ++ .mark .openBrace :: .newline ::
      (rs.flatMap (fun r => r.tokens ++ [.newline]) ++ [.mark .closeBrace])
  | table qualifiers name columns =>
    .ident "Table" :: (qualifierTokens qualifiers ++ name.token :: .mark .openBrace :: .newline ::
      (columns.flatMap (fun c => c.tokens ++ [.newline]) ++ [.mark .closeBrace]))

theorem spells_head (name : Option Name) {c : Char} (hc : isNameChar c = false) {cs : List Char}
    {ts : List Token} (h : Spells (c :: cs) ts) :
    Spells (headWritten name ++ c :: cs) (headTokens name ++ ts) := by
  cases name with
  | none => exact .name (w := "Ref") (by decide) hc h
  | some n =>
    have hall := Spells.name (w := "Ref") (by decide) (by decide) (n.spells hc h).blank
    simpa [headWritten, headTokens] using hall

theorem spells (d : Declaration) : Spells d.written (d.tokens ++ [.newline]) := by
  have hclose := Spells.mark (c := '\x7d') rfl (by decide) (.newline .nil)
  cases d with
  | line name r =>
    have hcolon := Spells.mark (c := ':') rfl (by decide) r.spells.blank
    have hall := spells_head name (by decide) hcolon
    simpa [written, tokens] using hall
  | block name rs =>
    have hlines := (Spells.flatMap fun r (_ : r ∈ rs) => r.spells.blank.blank).append hclose
    have hopen := Spells.mark (c := '\x7b') rfl (by decide) hlines.newline
    have hall := spells_head name (by decide) hopen.blank
    simpa [written, tokens] using hall
  | table qualifiers name columns =>
    have hcolumns := (Spells.flatMap fun c (_ : c ∈ columns) => c.spells).append hclose
    have hopen := Spells.mark (c := '\x7b') rfl (by decide) hcolumns.newline
    have hname := (spells_qualifiers qualifiers).append (name.spells (by decide) hopen.blank)
    have hall := Spells.name (w := "Table") (by decide) (by decide) hname.blank
    simpa [written, tokens] using hall

end Declaration

/-- The text of declarations, one after the other. -/
def textOf (ds : List Declaration) : String :=
  String.ofList (ds.flatMap Declaration.written)

theorem scan_textOf (ds : List Declaration) :
    ∃ last, scan (textOf ds)
      = .ok ⟨placed 1 (ds.flatMap fun d => d.tokens ++ [.newline]), last⟩ := by
  have hspells : Spells (textOf ds).toList (ds.flatMap fun d => d.tokens ++ [.newline]) := by
    rw [textOf, String.toList_ofList]
    exact .flatMap fun d _ => d.spells
  exact ⟨_, hspells.scan_eq⟩

end Mockup.Schema.Reference
