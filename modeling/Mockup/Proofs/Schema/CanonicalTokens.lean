import Mockup.Proofs.Schema.Spelling

/-!
# The tokens of a document

Each part of a document is cut into its own tokens: `Document.spells`.
-/

namespace Mockup.Schema.Canonical

/-! ### Arguments of types -/

/-- The token of an argument. -/
def Argument.token : Argument → Token
  | .digits d => .num d.text
  | .name n => .ident n.text

theorem Argument.spells (a : Argument) {c : Char} (hc : c = ',' ∨ c = ')') {cs : List Char}
    {ts : List Token} (h : Spells (c :: cs) ts) :
    Spells (a.text.toList ++ c :: cs) (a.token :: ts) := by
  have hdigit : c.isDigit = false := by rcases hc with rfl | rfl <;> decide
  have hdot : c ≠ '.' := by rcases hc with rfl | rfl <;> decide
  have hword : isNameChar c = false := by rcases hc with rfl | rfl <;> decide
  cases a with
  | digits d => exact .digits d hdigit hdot h
  | name n => exact .name n.isName_text hword h

theorem spells_arguments (args : List Argument) {cs : List Char} {ts : List Token}
    (h : Spells (')' :: cs) ts) :
    Spells ((",".intercalate (args.map Argument.text)).toList ++ ')' :: cs)
      ((args.map Argument.token).intersperse (.mark .comma) ++ ts) := by
  rw [String.toList_intercalate, List.map_map]
  induction args with
  | nil => exact h
  | cons a args ih => cases args with
    | nil => simpa using a.spells (.inr rfl) h
    | cons b args =>
      have hcomma := Spells.mark (c := ',') rfl (by decide) ih
      simpa [List.intercalate_cons_cons] using a.spells (.inl rfl) hcomma

/-- The tokens of the arguments. -/
def Column.argumentTokens (c : Column) : List Token :=
  match c.arguments with
  | none => []
  | some args =>
    .mark .openParen :: (args.map Argument.token).intersperse (.mark .comma) ++ [.mark .closeParen]

/-! ### Settings -/

/-- The mark of a cardinality. -/
def markOf : Cardinality → Mark
  | .oneToOne => .dash
  | .oneToMany => .less
  | .manyToOne => .greater
  | .manyToMany => .lessGreater

theorem spells_symbol (kind : Cardinality) {cs : List Char} {ts : List Token}
    (h : Spells (' ' :: cs) ts) :
    Spells (kind.symbol.toList ++ ' ' :: cs) (.mark (markOf kind) :: ts) := by
  cases kind with
  | oneToOne => exact .mark rfl (by decide) h
  | manyToOne => exact .mark rfl (by decide) h
  | oneToMany =>
    exact .of_token [] (' ' :: cs) (startsToken_of_mark rfl) (fun _ _ => rfl) h
  | manyToMany =>
    exact .of_token ['>'] (' ' :: cs) (startsToken_of_mark rfl) (fun _ _ => rfl) h

namespace Setting

/-- The tokens of a setting. -/
def tokens : Setting → List Token
  | .primaryKey => [.ident "pk"]
  | .notNull => [.ident "not", .ident "null"]
  | .unique => [.ident "unique"]
  | .default value => [.ident "default", .mark .colon, .str value.text]
  | .note content => [.ident "note", .mark .colon, .str content.text]
  | .ref kind table column =>
    [.ident "ref", .mark .colon, .mark (markOf kind), .ident table.text, .mark .dot,
      .ident column.text]

theorem spells (s : Setting) {c : Char} (hc : c = ',' ∨ c = ']') {cs : List Char}
    {ts : List Token} (h : Spells (c :: cs) ts) :
    Spells (s.text.toList ++ c :: cs) (s.tokens ++ ts) := by
  have hword : isNameChar c = false := by rcases hc with rfl | rfl <;> decide
  have hquote : c ≠ '\'' := by rcases hc with rfl | rfl <;> decide
  have hcolon : ∀ {cs ts}, Spells cs ts → Spells (':' :: cs) (.mark .colon :: ts) :=
    .mark rfl (by decide)
  have hdot : ∀ {cs ts}, Spells cs ts → Spells ('.' :: cs) (.mark .dot :: ts) :=
    .mark rfl (by decide)
  cases s with
  | primaryKey => exact .name (w := "pk") (by decide) hword h
  | notNull =>
    exact .name (w := "not") (by decide) (by decide)
      (.blank (.name (w := "null") (by decide) hword h))
  | unique => exact .name (w := "unique") (by decide) hword h
  | default value =>
    have hall := Spells.name (w := "default") (by decide) (by decide)
      (hcolon (.blank (.literal value hquote h)))
    simpa [text, tokens] using hall
  | note content =>
    have hall := Spells.name (w := "note") (by decide) (by decide)
      (hcolon (.blank (.literal content hquote h)))
    simpa [text, tokens] using hall
  | ref kind table column =>
    have htarget := Spells.name table.isName_text (by decide)
      (hdot (.name column.isName_text hword h))
    have hall := Spells.name (w := "ref") (by decide) (by decide)
      (hcolon (.blank (spells_symbol kind (.blank htarget))))
    simpa [text, tokens] using hall

end Setting

theorem spells_settings (settings : List Setting) {cs : List Char} {ts : List Token}
    (h : Spells (']' :: cs) ts) :
    Spells ((", ".intercalate (settings.map Setting.text)).toList ++ ']' :: cs)
      ([.mark .comma].intercalate (settings.map Setting.tokens) ++ ts) := by
  rw [String.toList_intercalate, List.map_map]
  induction settings with
  | nil => exact h
  | cons s settings ih => cases settings with
    | nil => simpa using s.spells (.inr rfl) h
    | cons s' settings =>
      have hcomma := Spells.mark (c := ',') rfl (by decide) ih.blank
      simpa [List.intercalate_cons_cons] using s.spells (.inl rfl) hcomma

namespace Column

/-- The tokens of the settings. -/
def settingTokens (c : Column) : List Token :=
  match c.settings with
  | none => []
  | some settings =>
    .mark .openBracket :: [.mark .comma].intercalate (settings.map Setting.tokens)
      ++ [.mark .closeBracket]

/-- The tokens of the line of a column. -/
def tokens (c : Column) : List Token :=
  .ident c.name.text :: .ident c.typeName.text ::
    (c.argumentTokens ++ c.settingTokens ++ [.newline])

theorem spells_afterArguments (c : Column) :
    ∃ d ds, c.settingsText.toList ++ ['\n'] = d :: ds ∧ (d = ' ' ∨ d = '\n') ∧
      Spells (d :: ds) (c.settingTokens ++ [.newline]) := by
  unfold settingsText settingTokens
  cases c.settings with
  | none => exact ⟨'\n', [], rfl, .inr rfl, .newline .nil⟩
  | some settings =>
    have hclose := Spells.mark (c := ']') rfl (by decide) (.newline .nil)
    have hopen := Spells.mark (c := '[') rfl (by decide)
      (spells_settings settings hclose)
    refine ⟨' ', '[' :: ((", ".intercalate (settings.map Setting.text)).toList ++ ']' :: ['\n']),
      by simp, .inl rfl, ?_⟩
    simpa using hopen.blank

theorem spells_afterType (c : Column) :
    ∃ d ds, c.argumentsText.toList ++ (c.settingsText.toList ++ ['\n']) = d :: ds ∧
      isNameChar d = false ∧
      Spells (d :: ds) (c.argumentTokens ++ (c.settingTokens ++ [.newline])) := by
  obtain ⟨d, ds, heq, hd, hsettings⟩ := c.spells_afterArguments
  rw [heq]
  unfold argumentsText argumentTokens
  cases c.arguments with
  | none => exact ⟨d, ds, rfl, by rcases hd with rfl | rfl <;> decide, hsettings⟩
  | some args =>
    have hclose := Spells.mark (c := ')') rfl (by decide) hsettings
    have hopen := Spells.mark (c := '(') rfl (by decide)
      (spells_arguments args hclose)
    refine ⟨'(', (",".intercalate (args.map Argument.text)).toList ++ ')' :: d :: ds, by simp,
      by decide, ?_⟩
    simpa using hopen

theorem spells (c : Column) : Spells c.text.toList c.tokens := by
  obtain ⟨d, ds, heq, hd, hrest⟩ := c.spells_afterType
  have hall := (Spells.name c.name.isName_text (by decide)
    (.blank (.name c.typeName.isName_text hd hrest))).blank.blank
  rw [← heq] at hall
  simpa [text, tokens] using hall

end Column

/-- The tokens of the lines of a table. -/
def Table.tokens (t : Table) : List Token :=
  .ident "Table" :: .ident t.name.text :: .mark .openBrace :: .newline ::
    (t.columns.flatMap Column.tokens ++ [.mark .closeBrace, .newline])

theorem Table.spells (t : Table) : Spells t.text.toList t.tokens := by
  have hclose := Spells.mark (c := '\x7d') rfl (by decide) (.newline .nil)
  have hcolumns := (Spells.flatMap fun c (_ : c ∈ t.columns) => c.spells).append hclose
  have hopen := Spells.mark (c := '\x7b') rfl (by decide)
    hcolumns.newline
  have hall := Spells.name (w := "Table") (by decide) (by decide)
    (.blank (.name t.name.isName_text (by decide) hopen.blank))
  simpa [text, tokens, String.toList_join, List.flatMap_map] using hall

/-- The tokens of a document. -/
def Document.tokens (d : Document) : List Token :=
  d.tables.flatMap Table.tokens

theorem Document.spells (d : Document) : Spells d.text.toList d.tokens := by
  rw [text, String.toList_join, List.flatMap_map]
  exact .flatMap fun t _ => t.spells

end Mockup.Schema.Canonical
