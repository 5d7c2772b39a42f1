import Mockup.Proofs.Schema.CanonicalTokens
import Mockup.Proofs.Schema.Equations

/-!
# The schema of a canonical document

The readers take the tokens of each part of a document, and leave what follows.

* `readSetting_tokens`, `join_tokens`: the meaning of a setting, and its text;
* `foldl_apply`: settings of a column, one after the other;
* `readColumn_tokens`, `readTable_tokens`, `readStatements_tokens`: columns, tables and documents;
* `ofStatements_tables`: the tables of a schema;
* `Document.parse_text`: the text of a document parses to exactly the schema of the document.
-/

namespace Mockup.Schema.Canonical

/-! ### Types -/

theorem typeArguments_closeParen (line line' : Nat) (rest : List PlacedToken) :
    typeArguments line (⟨.mark .closeParen, line'⟩ :: rest) = .ok ([], rest) := by
  simp [typeArguments]

theorem typeArguments_comma (line line' : Nat) (rest : List PlacedToken) :
    typeArguments line (⟨.mark .comma, line'⟩ :: rest) = typeArguments line rest := by
  simp [typeArguments]

theorem typeArguments_token (line line' : Nat) (a : Argument) (rest : List PlacedToken) :
    typeArguments line (⟨a.token, line'⟩ :: rest) = do
      let (args, rest) ← typeArguments line rest
      return (a.text :: args, rest) := by
  cases a <;> simp [typeArguments, Argument.token, Argument.text, Token.text]

theorem typeArguments_tokens (line line' start : Nat) (args : List Argument)
    (rest : List PlacedToken) :
    typeArguments line
        (placed start ((args.map Argument.token).intersperse (.mark .comma))
          ++ ⟨.mark .closeParen, line'⟩ :: rest)
      = .ok (args.map Argument.text, rest) := by
  induction args generalizing start with
  | nil => exact typeArguments_closeParen line line' rest
  | cons a args ih => cases args with
    | nil =>
      rw [List.map_singleton, List.intersperse_singleton, placed_cons, List.cons_append,
        typeArguments_token, placed_nil, List.nil_append, typeArguments_closeParen]
      rfl
    | cons b args =>
      rw [List.map_cons, List.map_cons, List.intersperse_cons_cons, placed_cons, List.cons_append,
        typeArguments_token, placed_cons, List.cons_append, typeArguments_comma, ← List.map_cons,
        ih]
      rfl

theorem readType_tokens (c : Column) (line start : Nat) {t : PlacedToken}
    (ht : t.token = .newline ∨ t.token = .mark .openBracket) (rest : List PlacedToken) :
    readType line c.name.text
        (placed start (.ident c.typeName.text :: c.argumentTokens) ++ t :: rest)
      = .ok (c.typeName.text ++ c.argumentsText, t :: rest) := by
  have hname : (PlacedToken.mk (.ident c.typeName.text) start).token.name?
      = some c.typeName.text := rfl
  unfold readType Column.argumentTokens Column.argumentsText
  cases c.arguments with
  | none =>
    have hdot : t.token ≠ .mark .dot := by rcases ht with h | h <;> simp [h]
    have hparen : t.token ≠ .mark .openParen := by rcases ht with h | h <;> simp [h]
    simp only [placed_cons, placed_nil, List.singleton_append, qualifiedName_of_name hname hdot,
      if_neg hparen,
      String.append_empty]
  | some args =>
    simp only [List.cons_append, placed_cons, placed_append, placed_nil, List.append_assoc,
      List.nil_append]
    rw [qualifiedName_of_name hname (by simp)]
    simp only [if_true, typeArguments_tokens, String.append_assoc]
    rfl

/-! ### Settings -/

/-- Tokens that belong to a setting wherever they stand. -/
def IsPlain (t : Token) : Prop :=
  t ∉ [.mark .closeBracket, .mark .comma, .newline, .mark .openParen, .mark .closeParen]

theorem settingGroups_closeBracket (opened line : Nat) (group : List Token)
    (rest : List PlacedToken) :
    settingGroups opened 0 group (⟨.mark .closeBracket, line⟩ :: rest)
      = .ok (pushGroup group [], rest) := by
  simp [settingGroups]

theorem settingGroups_comma (opened line : Nat) (group : List Token) (rest : List PlacedToken) :
    settingGroups opened 0 group (⟨.mark .comma, line⟩ :: rest) = do
      let (groups, rest) ← settingGroups opened 0 [] rest
      return (pushGroup group groups, rest) := by
  simp [settingGroups]

theorem settingGroups_plain (opened : Nat) (group : List Token) {ts : List Token}
    (hts : ∀ t ∈ ts, IsPlain t) (start : Nat) (rest : List PlacedToken) :
    settingGroups opened 0 group (placed start ts ++ rest)
      = settingGroups opened 0 (group ++ ts) rest := by
  induction ts generalizing group start with
  | nil => simp
  | cons t ts ih =>
    obtain ⟨ht, hts⟩ := List.forall_mem_cons.1 hts
    simp only [IsPlain, List.mem_cons, List.not_mem_nil, or_false, not_or] at ht
    obtain ⟨hclose, hcomma, hline, hopenParen, hcloseParen⟩ := ht
    have hstep : settingGroups opened 0 group (placed start (t :: ts) ++ rest)
        = settingGroups opened 0 (group ++ [t]) (placed (t.endLine start) ts ++ rest) := by
      rw [placed_cons, List.cons_append, settingGroups]
      simp only [hclose, hcomma, hline, false_and, if_false]
    rw [hstep, ih _ hts, List.append_assoc, List.singleton_append]

/-- Groups of such tokens with commas between them are read as these groups. -/
theorem settingGroups_intercalate (opened line start : Nat) {groups : List (List Token)}
    (hgroups : ∀ g ∈ groups, g.isEmpty = false ∧ ∀ t ∈ g, IsPlain t) (rest : List PlacedToken) :
    settingGroups opened 0 []
        (placed start ([.mark .comma].intercalate groups) ++ ⟨.mark .closeBracket, line⟩ :: rest)
      = .ok (groups, rest) := by
  induction groups generalizing start with
  | nil => exact settingGroups_closeBracket opened line [] rest
  | cons g groups ih =>
    obtain ⟨⟨hne, hplain⟩, hgroups⟩ := List.forall_mem_cons.1 hgroups
    cases groups with
    | nil =>
      rw [List.intercalate_singleton, settingGroups_plain _ _ hplain, settingGroups_closeBracket]
      simp [pushGroup, hne]
    | cons g' groups =>
      rw [List.intercalate_cons_cons, List.append_assoc, placed_append, List.append_assoc,
        settingGroups_plain _ _ hplain, List.singleton_append, placed_cons, List.cons_append,
        settingGroups_comma, ih _ hgroups, List.nil_append]
      simp only [pushGroup, hne]
      rfl

theorem isPlain_of_mem_tokens (s : Setting) : ∀ t ∈ s.tokens, IsPlain t := by
  cases s with
  | ref kind table column => cases kind <;> simp [Setting.tokens, IsPlain, markOf]
  | _ => simp [Setting.tokens, IsPlain]

theorem settingGroups_tokens (opened line start : Nat) (settings : List Setting)
    (rest : List PlacedToken) :
    settingGroups opened 0 []
        (placed start ([.mark .comma].intercalate (settings.map Setting.tokens))
          ++ ⟨.mark .closeBracket, line⟩ :: rest)
      = .ok (settings.map Setting.tokens, rest) := by
  refine settingGroups_intercalate opened line start (fun g hg => ?_) rest
  obtain ⟨s, -, rfl⟩ := List.mem_map.1 hg
  refine ⟨?_, isPlain_of_mem_tokens s⟩
  cases s <;> rfl

/-- The meaning of a setting for its column. -/
def Setting.meaning : Setting → Schema.Setting
  | .primaryKey => .primaryKey
  | .notNull => .notNull
  | .unique => .unique
  | .default value => .default value.text
  | .note content => .note content.text
  | .ref kind table column => .ref kind ⟨table.text, column.text⟩

theorem readSetting_tokens (line : Nat) (s : Setting) :
    readSetting line s.tokens = .ok s.meaning := by
  cases s with
  | primaryKey => rfl
  | notNull => rfl
  | unique => rfl
  | default value => rfl
  | note content => rfl
  | ref kind table column =>
    have hname : settingName (Setting.ref kind table column).tokens = "ref" := rfl
    have hvalue : settingValue? (Setting.ref kind table column).tokens
        = some [.mark (markOf kind), .ident table.text, .mark .dot, .ident column.text] := rfl
    unfold readSetting
    have href : inlineRef line
        [.mark (markOf kind), .ident table.text, .mark .dot, .ident column.text]
          = .ok (kind, ⟨table.text, column.text⟩) := by
      cases kind <;> rfl
    simp only [hvalue, hname, href]
    rfl

theorem appendTo_tight (out : String) {t : Token} (ht : t.isTight = true) :
    Token.appendTo out t = out ++ t.text := by
  simp [Token.appendTo, ht]

theorem appendTo_dot (out : String) (t : Token) :
    Token.appendTo (out ++ ".") t = out ++ "." ++ t.text := by
  simp [Token.appendTo]

theorem join_tokens (s : Setting) : Token.join s.tokens = s.text := by
  cases s with
  | primaryKey => decide
  | notNull => decide
  | unique => decide
  | default value => rfl
  | note content => rfl
  | ref kind table column =>
    have htable : [Token.ident "ref", .mark .colon, .mark (markOf kind),
        .ident table.text].foldl Token.appendTo ""
          = "ref: " ++ kind.symbol ++ " " ++ table.text := by
      cases kind <;> rfl
    have hsplit : (Setting.ref kind table column).tokens = [.ident "ref", .mark .colon,
        .mark (markOf kind), .ident table.text] ++ [.mark .dot, .ident column.text] := rfl
    rw [Token.join, hsplit, List.foldl_append, htable, List.foldl_cons, appendTo_tight _ rfl]
    exact appendTo_dot _ _

theorem applySettings_tokens (line : Nat) (d : ColumnDraft) (settings : List Setting) :
    applySettings line d (settings.map Setting.tokens)
      = .ok (settings.foldl (fun d s => d.apply s.meaning s.text) d) := by
  induction settings generalizing d with
  | nil => rfl
  | cons s settings ih =>
    rw [List.map_cons, applySettings, readSetting_tokens, join_tokens]
    exact ih _

/-- A flag is set by its setting, the last text or reference counts, and all settings are kept as
written. -/
theorem foldl_apply (d : ColumnDraft) (settings : List Setting) :
    settings.foldl (fun d s => d.apply s.meaning s.text) d =
      { column := { d.column with
          primaryKey := d.column.primaryKey || decide (.primaryKey ∈ settings)
          notNull := d.column.notNull || decide (.notNull ∈ settings)
          unique := d.column.unique || decide (.unique ∈ settings)
          defaultValue := (settings.filterMap Setting.default?).getLast?.or d.column.defaultValue
          note := (settings.filterMap Setting.note?).getLast?.or d.column.note
          references := ((settings.filterMap Setting.reference?).map Prod.snd).getLast?.or
            d.column.references
          constraints := d.column.constraints ++ settings.map Setting.text }
        refs := d.refs ++ settings.filterMap Setting.reference? } := by
  induction settings generalizing d with
  | nil => simp
  | cons s settings ih =>
    rw [List.foldl_cons, ih]
    cases s <;> simp [ColumnDraft.apply, Setting.meaning, Setting.default?, Setting.note?,
      Setting.reference?, List.filterMap_cons, List.getLast?_cons]

/-! ### Columns -/

/-- The tokens after the name of a column, up to the end of its line. -/
def Column.bodyTokens (c : Column) : List Token :=
  .ident c.typeName.text :: (c.argumentTokens ++ c.settingTokens)

theorem Column.tokens_eq (c : Column) :
    c.tokens = .ident c.name.text :: (c.bodyTokens ++ [.newline]) := rfl

theorem placed_settingTokens {c : Column} {settings : List Setting}
    (hs : c.settings = some settings) (start : Nat) :
    placed start c.settingTokens = ⟨.mark .openBracket, start⟩ ::
      (placed start ([.mark .comma].intercalate (settings.map Setting.tokens)) ++
        [⟨.mark .closeBracket,
          lineAfter start ([.mark .comma].intercalate (settings.map Setting.tokens))⟩]) := by
  rw [Column.settingTokens, hs]
  simp [Token.endLine]

theorem readColumn_tokens (c : Column) (last line start end' : Nat) (rest : List PlacedToken) :
    readColumn last line c.name.text (placed start c.bodyTokens ++ ⟨.newline, end'⟩ :: rest)
      = .ok (⟨c.declared, c.references⟩, ⟨.newline, end'⟩ :: rest) := by
  have hbody : c.bodyTokens = (.ident c.typeName.text :: c.argumentTokens) ++ c.settingTokens := rfl
  have hend : ∀ d, columnTail last line d (⟨.newline, end'⟩ :: rest)
      = .ok (d, ⟨.newline, end'⟩ :: rest) := fun d => columnTail_of_end rfl
  rw [readColumn_eq, hbody, placed_append, List.append_assoc]
  cases hs : c.settings with
  | none =>
    have hnone : c.settingTokens = [] := by rw [Column.settingTokens, hs]
    rw [hnone, placed_nil, List.nil_append, readType_tokens c line start (.inl rfl)]
    change columnTail _ _ _ _ = _
    rw [hend]
    simp [Column.declared, Column.references, Column.allSettings, hs]
  | some settings =>
    rw [placed_settingTokens hs, List.cons_append, List.append_assoc, List.singleton_append,
      readType_tokens c line start (.inr rfl)]
    change columnTail _ _ _ _ = _
    rw [columnTail_of_open rfl, settingGroups_tokens]
    change applySettings _ _ _ >>= _ = _
    rw [applySettings_tokens, foldl_apply]
    change columnTail _ _ _ _ = _
    rw [hend]
    simp [Column.declared, Column.references, Column.allSettings, hs]

/-! ### Tables -/

/-- The item of a column. -/
def Column.item (c : Column) : TableItem :=
  .column c.declared c.references

theorem readItem_tokens (c : Column) (last opened line start end' : Nat)
    (rest : List PlacedToken) :
    readItem last opened ⟨.ident c.name.text, line⟩
        (placed start c.bodyTokens ++ ⟨.newline, end'⟩ :: rest)
      = .ok (c.item, ⟨.newline, end'⟩ :: rest) := by
  have hbody : placed start c.bodyTokens ++ ⟨.newline, end'⟩ :: rest
      = ⟨.ident c.typeName.text, start⟩ ::
        (placed start (c.argumentTokens ++ c.settingTokens) ++ ⟨.newline, end'⟩ :: rest) := rfl
  have hopens : opensRef
      (peek (placed start (c.argumentTokens ++ c.settingTokens) ++ ⟨.newline, end'⟩ :: rest))
        = false := by
    unfold Column.argumentTokens Column.settingTokens
    cases c.arguments <;> cases c.settings <;> rfl
  rw [hbody, readItem_of_names rfl rfl hopens, ← hbody, readColumn_tokens]
  rfl

theorem readItems_tokens (columns : List Column) (last opened start end' : Nat)
    (rest : List PlacedToken) :
    readItems last opened
        (placed start (columns.flatMap Column.tokens) ++ ⟨.mark .closeBrace, end'⟩ :: rest)
      = .ok (columns.map Column.item, rest) := by
  induction columns generalizing start with
  | nil =>
    rw [List.flatMap_nil, placed_nil, List.nil_append, readItems_cons]
    rfl
  | cons c columns ih =>
    rw [List.flatMap_cons, Column.tokens_eq, List.cons_append, List.append_assoc, placed_cons,
      placed_append, List.cons_append, List.append_assoc, List.singleton_append, placed_cons,
      List.cons_append, readItems_cons, if_neg nofun, if_neg nofun, readItem_tokens]
    change readItems _ _ _ >>= _ = _
    rw [readItems_cons, if_pos rfl, ih]
    rfl

/-- The statement of a table. -/
def Table.statement (t : Table) : Statement :=
  .table t.name.text none (t.columns.map Column.item)

theorem readTable_tokens (t : Table) (last start end' : Nat) (rest : List PlacedToken) :
    readTable last
        (placed start (.ident t.name.text :: .mark .openBrace :: .newline ::
          t.columns.flatMap Column.tokens) ++ ⟨.mark .closeBrace, end'⟩ :: rest)
      = .ok (t.statement, rest) := by
  have hname : (PlacedToken.mk (.ident t.name.text) start).token.name? = some t.name.text := rfl
  simp only [placed_cons, List.cons_append, Token.endLine]
  rw [readTable, qualifiedName_of_name hname (by simp)]
  change readItems _ _ _ >>= _ = _
  rw [readItems_cons, if_pos rfl, readItems_tokens]
  rfl

theorem placed_tableTokens (t : Table) (start : Nat) (ts : List Token) :
    ∃ end' next, placed start (t.tokens ++ ts) = ⟨.ident "Table", start⟩ ::
      (placed start (.ident t.name.text :: .mark .openBrace :: .newline ::
        t.columns.flatMap Column.tokens) ++ ⟨.mark .closeBrace, end'⟩ :: ⟨.newline, end'⟩ ::
          placed next ts) := by
  refine ⟨lineAfter (start + 1) (t.columns.flatMap Column.tokens),
    lineAfter (start + 1) (t.columns.flatMap Column.tokens) + 1, ?_⟩
  simp [Table.tokens, Token.endLine]

theorem readStatements_tokens (tables : List Table) (last start : Nat) :
    readStatements last (placed start (tables.flatMap Table.tokens))
      = .ok (tables.map Table.statement) := by
  induction tables generalizing start with
  | nil => rw [List.flatMap_nil, placed_nil, readStatements, List.map_nil]
  | cons t tables ih =>
    have hkeyword : (Token.ident "Table").isKeyword "table" = true := by decide
    obtain ⟨end', next, hplaced⟩ := placed_tableTokens t start (tables.flatMap Table.tokens)
    rw [List.flatMap_cons, hplaced, readStatements_cons, if_neg (by simp), readStatement_eq,
      if_pos hkeyword, readTable_tokens]
    change _ <$> readStatements _ _ = _
    rw [readStatements_cons, if_pos rfl, ih]
    rfl

/-! ### What statements declare -/

theorem tableOf_items (t : Table) :
    tableOf t.name.text none (t.columns.map Column.item) = t.declared := by
  have hfold : ∀ (columns : List Column) (u : Mockup.Table),
      (columns.map Column.item).foldl addItem u
        = { u with columns := u.columns ++ columns.map Column.declared } := by
    intro columns
    induction columns with
    | nil => simp
    | cons c columns ih =>
      intro u
      rw [List.map_cons, List.foldl_cons, ih]
      simp [addItem, Column.item]
  exact hfold _ _

theorem relationships_items (t : Table) :
    (t.columns.map Column.item).flatMap (itemRelationships t.name.text) = t.relationships := by
  rw [List.flatMap_map]
  rfl

/-- Relationships are added to those that are there; each is kept once. -/
theorem addRelationships_eraseDups {s : Schema} {xs : List Relationship}
    (hs : s.relationships = xs.eraseDups) (rs : List Relationship) :
    s.addRelationships rs = { s with relationships := (xs ++ rs).eraseDups } := by
  induction rs generalizing s xs with
  | nil => simp [addRelationships, ← hs]
  | cons r rs ih =>
    have hstep : s.addRelationship r = { s with relationships := (xs ++ [r]).eraseDups } := by
      by_cases hr : r ∈ xs
      · have hs' : s.relationships = (xs ++ [r]).eraseDups := by
          simp [hs, hr, List.eraseDups_append, List.removeAll]
        rw [addRelationship, if_pos (by simp [hs, hr]), ← hs']
      · simp [addRelationship, hs, hr, List.eraseDups_append, List.removeAll, List.eraseDups_cons]
    rw [addRelationships, List.foldl_cons, hstep, ← addRelationships, ih rfl]
    simp

theorem ofStatements_tables (d : Document) :
    ofStatements (d.tables.map Table.statement) = d.schema := by
  have hfold : ∀ (tables : List Table) (s : Schema) (xs : List Relationship),
      s.relationships = xs.eraseDups → (tables.map Table.statement).foldl declare s =
        { s with
          tables := s.tables ++ tables.map Table.declared
          relationships := (xs ++ tables.flatMap Table.relationships).eraseDups } := by
    intro tables
    induction tables with
    | nil => intro s xs hs; simp [← hs]
    | cons t tables ih =>
      intro s xs hs
      have hdeclare : declare s t.statement =
          { s with
            tables := s.tables ++ [t.declared]
            relationships := (xs ++ t.relationships).eraseDups } := by
        rw [Table.statement, declare, relationships_items, addRelationships_eraseDups hs,
          tableOf_items]
      rw [List.map_cons, List.foldl_cons, hdeclare, ih _ _ rfl]
      simp
  exact hfold _ _ [] rfl

/-- A document is read, and as the schema that it says. -/
theorem Document.parse_text (d : Document) : parse d.text = .ok d.schema := by
  rw [parse, d.spells.scan_eq]
  change ofStatements <$> readStatements _ _ = _
  rw [Document.tokens, readStatements_tokens, ← ofStatements_tables]
  rfl

example : Document.text ⟨[⟨⟨"note", by decide⟩, [
    { name := ⟨"ref", by decide⟩, typeName := ⟨"table", by decide⟩,
      settings := some [.primaryKey, .ref .manyToOne ⟨"enum", by decide⟩ ⟨"pk", by decide⟩] }]⟩]⟩
    = "Table note \x7b\n  ref table [pk, ref: > enum.pk]\n\x7d\n" := by
  decide

end Mockup.Schema.Canonical
