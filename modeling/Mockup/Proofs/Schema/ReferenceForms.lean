import Mockup.Proofs.Schema.Declared
import Mockup.Proofs.Schema.ReferenceLines
import Mockup.Proofs.Schema.References

/-!
# All ways of writing a reference agree

Whatever way references are written in, the same relationships are read: those that the
declarations name, in order and each once.  Names of references, qualifiers of tables and settings
on the line of a reference make no difference.

* `endpoint?_tokens`, `refLine_tokens`, `refBlock_tokens`, `readRefs_tokens`: references on lines;
* `applySettings_tokens`, `readColumn_tokens`, `readItems_tokens`: references in settings;
* `readStatement_tokens`, `readStatements_tokens`: declarations;
* `relationships_parse_references`: declarations are read as their relationships, and a line which
  is no reference is refused.
-/

namespace Mockup.Schema.Reference

open Canonical (markOf)

/-! ### Names and ends -/

theorem exists_head_qualified (qualifiers : List Name) (n : Name) (us : List Token) :
    ∃ (m : Name) (vs : List Token),
      qualifierTokens qualifiers ++ n.token :: us = m.token :: vs := by
  cases qualifiers with
  | nil => exact ⟨n, us, rfl⟩
  | cons q qualifiers => exact ⟨q, _, rfl⟩

theorem exists_head_tokens (e : End) (us : List Token) :
    ∃ (n : Name) (vs : List Token), e.tokens ++ us = n.token :: vs := by
  rw [End.tokens, List.append_assoc]
  exact exists_head_qualified e.qualifiers e.table _

theorem name_or_dot_of_mem {e : End} {t : Token} (ht : t ∈ e.tokens) :
    (∃ n : Name, t = n.token) ∨ t = .mark .dot := by
  simp only [End.tokens, qualifierTokens, List.mem_append, List.mem_flatMap, List.mem_cons,
    List.not_mem_nil, or_false] at ht
  rcases ht with ⟨q, -, rfl | rfl⟩ | rfl | rfl | rfl
  · exact .inl ⟨q, rfl⟩
  · exact .inr rfl
  · exact .inl ⟨e.table, rfl⟩
  · exact .inr rfl
  · exact .inl ⟨e.column, rfl⟩

theorem endpoint?_tokens (e : End) : endpoint? e.tokens = some e.ref := by
  obtain ⟨qualifiers, table, column⟩ := e
  induction qualifiers with
  | nil => simp [End.tokens, qualifierTokens, End.ref, endpoint?]
  | cons q qualifiers ih =>
    have hlong : ∀ c, (End.tokens ⟨qualifiers, table, column⟩) = [c] → False := by
      intro c hc
      have hlength := congrArg List.length hc
      simp [End.tokens] at hlength
    have hstep : End.tokens ⟨q :: qualifiers, table, column⟩
        = q.token :: .mark .dot :: End.tokens ⟨qualifiers, table, column⟩ := by
      simp [End.tokens, qualifierTokens]
    rw [hstep, endpoint?.eq_2 _ _ hlong, ih, Name.name?_token]
    rfl

theorem endpoint_tokens (e : End) (line : Nat) : endpoint line e.tokens = .ok e.ref := by
  rw [endpoint, endpoint?_tokens]

/-- A name after a point takes the place of the name before it. -/
theorem qualifiedName_dot {q d n : PlacedToken} (hq : q.token.name?.isSome = true)
    (hd : d.token = .mark .dot) (hn : n.token.name?.isSome = true) (ts : List PlacedToken) :
    qualifiedName (q :: d :: n :: ts) = qualifiedName (n :: ts) := by
  obtain ⟨name, hq⟩ := Option.isSome_iff_exists.1 hq
  obtain ⟨next, hn⟩ := Option.isSome_iff_exists.1 hn
  simp [qualifiedName, hq, hn, lastSegment, hd]

theorem qualifiedName_of_map {t : PlacedToken} (ht : t.token ≠ .mark .dot) {qualifiers : List Name}
    {n : Name} {us : List PlacedToken}
    (h : us.map PlacedToken.token = qualifierTokens qualifiers ++ [n.token])
    (ts : List PlacedToken) : qualifiedName (us ++ t :: ts) = some (n.text, t :: ts) := by
  induction qualifiers generalizing us with
  | nil =>
    obtain ⟨u, rfl, hu⟩ := List.map_eq_singleton_iff.1 h
    exact qualifiedName_of_name (by rw [hu, n.name?_token]) ht ts
  | cons q qualifiers ih =>
    obtain ⟨u, _, rfl, hu, h⟩ := List.map_eq_cons_iff.1 h
    obtain ⟨d, us, rfl, hd, h⟩ := List.map_eq_cons_iff.1 h
    have htail := ih h
    obtain ⟨m, tokens, hhead⟩ := exists_head_qualified qualifiers n []
    obtain ⟨v, us, rfl, hv, -⟩ := List.map_eq_cons_iff.1 (h.trans hhead)
    rw [List.cons_append, List.cons_append, List.cons_append,
      qualifiedName_dot (by simp [hu]) hd (by simp [hv])]
    exact htail

theorem qualifiedName_tokens {t : PlacedToken} (ht : t.token ≠ .mark .dot) (qualifiers : List Name)
    (n : Name) (start : Nat) (ts : List PlacedToken) :
    qualifiedName (placed start (qualifierTokens qualifiers ++ [n.token]) ++ t :: ts)
      = some (n.text, t :: ts) :=
  qualifiedName_of_map ht (map_token_placed _ _) ts

/-! ### Lines -/

/-- The tokens of the line of a reference, outside of settings. -/
def isLineToken (t : Token) : Bool :=
  !endsLine t && t != .mark .openBracket

theorem lineTokens_placed {ts : List Token} (hts : ∀ t ∈ ts, isLineToken t = true) (start : Nat)
    {line : List PlacedToken} {tokens : List Token} (h : LineTokens line tokens) :
    LineTokens (placed start ts ++ line) (ts ++ tokens) := by
  induction ts generalizing start with
  | nil => exact h
  | cons t ts ih =>
    obtain ⟨ht, hts⟩ := List.forall_mem_cons.1 hts
    obtain ⟨hend, hopen⟩ := (Bool.and_eq_true _ _).mp ht
    refine .token ?_ (bne_iff_ne.1 hopen) (ih hts _)
    simpa using hend

theorem lineTokens_settings (settings : List Settings) (start : Nat) :
    LineTokens (placed start (settings.flatMap Settings.tokens)) [] := by
  induction settings generalizing start with
  | nil => exact .nil
  | cons s settings ih =>
    have hinner : ∀ u ∈ placed start s.inner, u.token ≠ .mark .closeBracket := by
      intro u hu heq
      have hmem : u.token ∈ (placed start s.inner).map PlacedToken.token := List.mem_map_of_mem hu
      rw [map_token_placed, heq] at hmem
      exact s.notMem_inner hmem
    rw [List.flatMap_cons, Settings.tokens, List.cons_append, placed_cons, List.append_assoc,
      placed_append]
    exact .settings rfl hinner rfl (ih _)

theorem isLineToken_name (n : Name) : isLineToken n.token = true := by
  cases n <;> rfl

theorem isLineToken_end (e : End) : ∀ t ∈ e.tokens, isLineToken t = true := by
  intro t ht
  rcases name_or_dot_of_mem ht with ⟨n, rfl⟩ | rfl
  · exact isLineToken_name n
  · rfl

theorem isLineToken_body (r : Line) : ∀ t ∈ r.body, isLineToken t = true := by
  refine List.forall_mem_append.2 ⟨isLineToken_end r.source, List.forall_mem_cons.2 ⟨?_, ?_⟩⟩
  · cases r.kind <;> rfl
  · exact isLineToken_end r.target

theorem lineTokens_tokens (r : Line) (start : Nat) :
    LineTokens (placed start r.tokens) r.body := by
  have hall := lineTokens_placed (isLineToken_body r) start
    (lineTokens_settings r.settings (lineAfter start r.body))
  rwa [List.append_nil, ← placed_append] at hall

@[simp] theorem cardinality?_markOf (kind : Cardinality) :
    (Token.mark (markOf kind)).cardinality? = some kind := by
  cases kind <;> rfl

theorem reference_body (r : Line) (line : Nat) :
    reference line r.body = .ok r.relationship := by
  have hsource : ∀ t ∈ r.source.tokens, t.cardinality? = none := by
    intro t ht
    rcases name_or_dot_of_mem ht with ⟨n, rfl⟩ | rfl
    · cases n <;> rfl
    · rfl
  rw [Line.body, reference_of_sign hsource (by simp), endpoint_tokens, endpoint_tokens,
    cardinality?_markOf]
  rfl

theorem refLine_tokens (r : Line) (last start : Nat) (after : List PlacedToken)
    (hafter : EndsLine after) :
    refLine last (placed start r.tokens ++ after) = .ok (r.relationship, after) := by
  rw [refLine_eq, refTokens_of_lineTokens (lineTokens_tokens r start) hafter]
  change reference _ r.body >>= _ = _
  rw [reference_body]
  rfl

theorem refBlock_tokens (rs : List Line) (last opened start line : Nat)
    (after : List PlacedToken) :
    refBlock last opened (placed start (rs.flatMap fun r => r.tokens ++ [.newline])
        ++ ⟨.mark .closeBrace, line⟩ :: after)
      = .ok (rs.map Line.relationship, after) := by
  induction rs generalizing start with
  | nil =>
    rw [List.flatMap_nil, placed_nil, List.nil_append, refBlock_cons]
    rfl
  | cons r rs ih =>
    obtain ⟨n, us, hhead⟩ := exists_head_tokens r.source (.mark (markOf r.kind) :: (r.target.tokens
      ++ r.settings.flatMap Settings.tokens))
    have htokens : r.tokens = n.token :: us := by
      rw [← hhead]
      simp [Line.tokens, Line.body]
    have hend : endsLine n.token = false := by cases n <;> rfl
    rw [List.flatMap_cons, List.append_assoc, placed_append, List.append_assoc,
      List.singleton_append, placed_cons, List.cons_append]
    have hline := refLine_tokens r last start (⟨.newline, lineAfter start r.tokens⟩ ::
      (placed (Token.newline.endLine (lineAfter start r.tokens))
        (rs.flatMap fun r => r.tokens ++ [.newline]) ++ ⟨.mark .closeBrace, line⟩ :: after))
      (by rintro t ht; cases ht; rfl)
    rw [htokens, placed_cons, List.cons_append] at hline ⊢
    rw [refBlock_of_goesOn hend, hline]
    change refBlock _ _ _ >>= _ = _
    rw [refBlock_cons, if_pos rfl, ih]
    rfl

/-! ### Settings -/

theorem isPlain_of_mem (s : InlineSetting) : ∀ t ∈ s.tokens, Canonical.IsPlain t := by
  have hname : ∀ n : Name, Canonical.IsPlain n.token := by
    intro n
    cases n <;> simp [Name.token, Canonical.IsPlain]
  cases s with
  | ref kind target =>
    refine List.forall_mem_cons.2 ⟨?_, List.forall_mem_cons.2 ⟨?_, List.forall_mem_cons.2 ⟨?_, ?_⟩⟩⟩
    · simp [Canonical.IsPlain]
    · simp [Canonical.IsPlain]
    · cases kind <;> simp [Canonical.IsPlain, markOf]
    · intro t ht
      rcases name_or_dot_of_mem ht with ⟨n, rfl⟩ | rfl
      · exact hname n
      · simp [Canonical.IsPlain]
  | words first others =>
    refine List.forall_mem_cons.2 ⟨hname first, fun t ht => ?_⟩
    obtain ⟨n, -, rfl⟩ := List.mem_map.1 ht
    exact hname n

/-- A setting is read, and adds its reference to those that have been read. -/
theorem readSetting_tokens (s : InlineSetting) (line : Nat) :
    ∃ setting, readSetting line s.tokens = .ok setting ∧ ∀ (d : ColumnDraft) (written : String),
      (d.apply setting written).column.name = d.column.name ∧
      (d.apply setting written).refs = d.refs ++ s.ref?.toList := by
  cases s with
  | ref kind target =>
    have hvalue : settingValue? (InlineSetting.ref kind target).tokens
        = some (.mark (markOf kind) :: target.tokens) := rfl
    have hname : settingName (InlineSetting.ref kind target).tokens = "ref" := rfl
    have hinline : inlineRef line (.mark (markOf kind) :: target.tokens)
        = .ok (kind, target.ref) := by
      simp only [inlineRef, cardinality?_markOf, endpoint_tokens]
      rfl
    refine ⟨.ref kind target.ref, ?_, fun d written => ⟨rfl, rfl⟩⟩
    simp only [readSetting, hvalue, hname, hinline]
    rfl
  | words first others =>
    have hcolon : .mark .colon ∉ (InlineSetting.words first others).tokens := by
      simp [InlineSetting.tokens, (Name.token_ne_mark first _).symm]
    unfold readSetting
    rw [settingValue?_eq_none_iff.2 hcolon]
    refine ⟨_, rfl, fun d written => ?_⟩
    simp only [InlineSetting.ref?, Option.toList_none, List.append_nil]
    split
    · exact ⟨rfl, rfl⟩
    split
    · exact ⟨rfl, rfl⟩
    split
    · exact ⟨rfl, rfl⟩
    · exact ⟨rfl, rfl⟩

theorem applySettings_tokens (settings : List InlineSetting) (line : Nat) (d : ColumnDraft) :
    ∃ d', applySettings line d (settings.map InlineSetting.tokens) = .ok d' ∧
      d'.column.name = d.column.name ∧
      d'.refs = d.refs ++ settings.filterMap InlineSetting.ref? := by
  induction settings generalizing d with
  | nil => exact ⟨d, rfl, rfl, (List.append_nil _).symm⟩
  | cons s settings ih =>
    obtain ⟨setting, hread, happly⟩ := readSetting_tokens s line
    obtain ⟨hname, hrefs⟩ := happly d (Token.join s.tokens)
    obtain ⟨d', hd', hname', hrefs'⟩ := ih (d.apply setting (Token.join s.tokens))
    refine ⟨d', ?_, hname'.trans hname, ?_⟩
    · rw [List.map_cons, applySettings, hread]
      exact hd'
    · rw [hrefs', hrefs, List.append_assoc]
      cases h : s.ref? <;> simp [h]

/-! ### Columns and tables -/

/-- A column is read up to the end of its line, with the references in its settings. -/
theorem readColumn_tokens (c : InlineColumn) (last line start next : Nat)
    (after : List PlacedToken) :
    ∃ d, readColumn last line c.name.text
        (placed start (c.typeName.token :: c.settingTokens) ++ ⟨.newline, next⟩ :: after)
        = .ok (d, ⟨.newline, next⟩ :: after) ∧
      d.column.name = c.name.text ∧ d.refs = c.refs := by
  have hgroups : ∀ g ∈ c.settings.map InlineSetting.tokens,
      g.isEmpty = false ∧ ∀ t ∈ g, Canonical.IsPlain t := by
    intro g hg
    obtain ⟨s, -, rfl⟩ := List.mem_map.1 hg
    exact ⟨by cases s <;> rfl, isPlain_of_mem s⟩
  obtain ⟨d, hd, hname, hrefs⟩ := applySettings_tokens c.settings line
    { column := { name := c.name.text, dataType := c.typeName.text } }
  refine ⟨d, ?_, hname, hrefs⟩
  have htype : ∀ (t : PlacedToken) (ts : List PlacedToken), t.token = .mark .openBracket →
      readType line c.name.text (⟨c.typeName.token, start⟩ :: t :: ts)
        = .ok (c.typeName.text, t :: ts) := by
    intro t ts ht
    rw [readType, qualifiedName_of_name (Name.name?_token _) (by simp [ht])]
    simp [ht]
  rw [placed_cons, InlineColumn.settingTokens, placed_cons, placed_append, List.cons_append,
    List.cons_append, List.append_assoc, placed_cons, placed_nil, List.singleton_append,
    readColumn_eq, htype _ _ rfl]
  change columnTail _ _ _ _ = _
  rw [columnTail_of_open rfl, Canonical.settingGroups_intercalate _ _ _ hgroups]
  change applySettings _ _ _ >>= _ = _
  rw [hd]
  exact columnTail_of_end rfl

theorem readItem_tokens (c : InlineColumn) (last opened start next : Nat)
    (after : List PlacedToken) :
    ∃ d : ColumnDraft, readItem last opened ⟨c.name.token, start⟩
        (placed (c.name.token.endLine start) (c.typeName.token :: c.settingTokens)
          ++ ⟨.newline, next⟩ :: after)
        = .ok (.column d.column d.refs, ⟨.newline, next⟩ :: after) ∧
      d.column.name = c.name.text ∧ d.refs = c.refs := by
  obtain ⟨d, hd, hname, hrefs⟩ := readColumn_tokens c last start (c.name.token.endLine start) next
    after
  refine ⟨d, ?_, hname, hrefs⟩
  rw [placed_cons, InlineColumn.settingTokens, placed_cons, List.cons_append,
    List.cons_append] at hd ⊢
  rw [readItem_of_names (Name.name?_token _) (by simp) rfl, hd]
  rfl

theorem readItems_tokens (columns : List InlineColumn) (table : String)
    (last opened start next : Nat) (after : List PlacedToken) :
    ∃ items, readItems last opened (placed start (columns.flatMap fun c => c.tokens ++ [.newline])
        ++ ⟨.mark .closeBrace, next⟩ :: after) = .ok (items, after) ∧
      items.flatMap (itemRelationships table)
        = columns.flatMap fun c => c.refs.map fun (kind, target) =>
            ⟨kind, ⟨table, c.name.text⟩, target⟩ := by
  induction columns generalizing start with
  | nil =>
    refine ⟨[], ?_, rfl⟩
    rw [List.flatMap_nil, placed_nil, List.nil_append, readItems_cons]
    rfl
  | cons c columns ih =>
    obtain ⟨items, hitems, hrelated⟩ := ih (Token.newline.endLine (lineAfter start c.tokens))
    obtain ⟨d, hd, hname, hrefs⟩ := readItem_tokens c last opened start (lineAfter start c.tokens)
      (placed (Token.newline.endLine (lineAfter start c.tokens))
        (columns.flatMap fun c => c.tokens ++ [.newline]) ++ ⟨.mark .closeBrace, next⟩ :: after)
    refine ⟨.column d.column d.refs :: items, ?_, ?_⟩
    · have htokens : placed start c.tokens = ⟨c.name.token, start⟩ ::
          placed (c.name.token.endLine start) (c.typeName.token :: c.settingTokens) := rfl
      rw [List.flatMap_cons, List.append_assoc, placed_append, List.append_assoc,
        List.singleton_append, placed_cons, List.cons_append, htokens, List.cons_append,
        readItems_cons, if_neg c.name.token_ne_newline,
        if_neg (c.name.token_ne_mark _), hd]
      change readItems _ _ _ >>= _ = _
      rw [readItems_cons, if_pos rfl, hitems]
      rfl
    · rw [List.flatMap_cons, List.flatMap_cons, hrelated, itemRelationships, hname, hrefs]

theorem readTable_tokens (qualifiers : List Name) (name : Name) (columns : List InlineColumn)
    (last start next : Nat) (after : List PlacedToken) :
    ∃ items, readTable last (placed start (qualifierTokens qualifiers ++ name.token ::
          .mark .openBrace :: .newline :: columns.flatMap fun c => c.tokens ++ [.newline])
        ++ ⟨.mark .closeBrace, next⟩ :: after) = .ok (.table name.text none items, after) ∧
      items.flatMap (itemRelationships name.text)
        = (Declaration.table qualifiers name columns).relationships := by
  obtain ⟨line, hline⟩ :
      ∃ line, line = lineAfter start (qualifierTokens qualifiers ++ [name.token]) := ⟨_, rfl⟩
  obtain ⟨items, hitems, hrelated⟩ := readItems_tokens columns name.text last
    (lineOf last (placed start (qualifierTokens qualifiers ++ [name.token]) ++
      ⟨.mark .openBrace, line⟩ :: ⟨.newline, line⟩ ::
        (placed (line + 1) (columns.flatMap fun c => c.tokens ++ [.newline])
          ++ ⟨.mark .closeBrace, next⟩ :: after)))
    (line + 1) next after
  refine ⟨items, ?_, hrelated⟩
  have hsplit : placed start (qualifierTokens qualifiers ++ name.token :: .mark .openBrace ::
        .newline :: columns.flatMap fun c => c.tokens ++ [.newline])
        ++ ⟨.mark .closeBrace, next⟩ :: after
      = placed start (qualifierTokens qualifiers ++ [name.token]) ++
        ⟨.mark .openBrace, line⟩ :: ⟨.newline, line⟩ ::
          (placed (line + 1) (columns.flatMap fun c => c.tokens ++ [.newline])
            ++ ⟨.mark .closeBrace, next⟩ :: after) := by
    rw [List.append_cons (qualifierTokens qualifiers), placed_append, ← hline, List.append_assoc]
    rfl
  rw [hsplit, readTable, qualifiedName_tokens (by simp)]
  change readItems _ _ _ >>= _ = _
  rw [readItems_cons, if_pos rfl, hitems]
  rfl

/-! ### Declarations -/

theorem named_placed (name : Option Name) (start : Nat) (t : Token) (us : List Token)
    (after : List PlacedToken) :
    ∃ line, Named (placed start ((name.map Name.token).toList ++ t :: us) ++ after)
      (⟨t, line⟩ :: (placed (t.endLine line) us ++ after)) := by
  cases name with
  | none => exact ⟨start, .inl rfl⟩
  | some n => exact ⟨n.token.endLine start, .inr ⟨⟨n.token, start⟩, by simp, rfl⟩⟩

/-- A declaration is read as a statement with its relationships. -/
theorem readStatement_tokens (d : Declaration) (last start : Nat) (after : List PlacedToken)
    (hafter : EndsLine after) :
    ∃ t us s, placed start d.tokens ++ after = t :: us ∧ t.token ≠ .newline ∧
      readStatement last t us = .ok (s, after) ∧ s.relationships = d.relationships := by
  have htable : (Token.ident "Ref").isKeyword "table" = false := by decide
  have href : (Token.ident "Ref").isKeyword "ref" = true := by decide
  cases d with
  | line name r =>
    obtain ⟨line, hnamed⟩ := named_placed name start (.mark .colon) r.tokens after
    refine ⟨⟨.ident "Ref", start⟩, _, .refs [r.relationship], rfl, by simp, ?_, rfl⟩
    rw [readStatement_eq, htable, if_neg Bool.false_ne_true, if_pos href]
    have hrefs : readRefs last
        (placed start ((name.map Name.token).toList ++ .mark .colon :: r.tokens) ++ after)
          = .ok ([r.relationship], after) := by
      unfold readRefs
      rw [skipName_of_named rfl hnamed]
      simp only [if_true, refLine_tokens r last _ after hafter]
      rfl
    exact congrArg (· >>= _) hrefs
  | block name rs =>
    obtain ⟨line, hnamed⟩ := named_placed name start (.mark .openBrace)
      (.newline :: (rs.flatMap (fun r => r.tokens ++ [.newline]) ++ [.mark .closeBrace])) after
    refine ⟨⟨.ident "Ref", start⟩, _, .refs (rs.map Line.relationship), rfl, by simp, ?_, rfl⟩
    rw [readStatement_eq, htable, if_neg Bool.false_ne_true, if_pos href]
    have hrefs : readRefs last (placed start ((name.map Name.token).toList ++ .mark .openBrace ::
        .newline :: (rs.flatMap (fun r => r.tokens ++ [.newline]) ++ [.mark .closeBrace])) ++ after)
        = .ok (rs.map Line.relationship, after) := by
      unfold readRefs
      rw [skipName_of_named rfl hnamed]
      simp only [reduceCtorEq, if_true, if_false, Token.mark.injEq]
      rw [placed_cons, List.cons_append, refBlock_cons, if_pos rfl, placed_append,
        List.append_assoc]
      exact refBlock_tokens rs last _ _ _ after
    exact congrArg (· >>= _) hrefs
  | table qualifiers name columns =>
    have htable' : (Token.ident "Table").isKeyword "table" = true := by decide
    obtain ⟨items, hitems, hrelated⟩ := readTable_tokens qualifiers name columns last start
      (lineAfter start (qualifierTokens qualifiers ++ name.token :: .mark .openBrace :: .newline ::
        columns.flatMap fun c => c.tokens ++ [.newline])) after
    refine ⟨⟨.ident "Table", start⟩, _, .table name.text none items, rfl, by simp, ?_, hrelated⟩
    have hsplit : qualifierTokens qualifiers ++ name.token :: .mark .openBrace :: .newline ::
        (columns.flatMap (fun c => c.tokens ++ [.newline]) ++ [.mark .closeBrace])
        = (qualifierTokens qualifiers ++ name.token :: .mark .openBrace :: .newline ::
            columns.flatMap fun c => c.tokens ++ [.newline]) ++ [.mark .closeBrace] := by
      simp
    rw [readStatement_eq, if_pos htable']
    change readTable last (placed start (qualifierTokens qualifiers ++ _) ++ after) = _
    rw [hsplit, placed_append, List.append_assoc]
    exact hitems

/-- Declarations are read as what declares their relationships, in order. -/
theorem readStatements_tokens (ds : List Declaration) (last start : Nat) :
    ∃ ss, readStatements last (placed start (ds.flatMap fun d => d.tokens ++ [.newline]))
        = .ok ss ∧
      ss.flatMap Statement.relationships = ds.flatMap Declaration.relationships := by
  induction ds generalizing start with
  | nil =>
    refine ⟨[], ?_, rfl⟩
    rw [List.flatMap_nil, placed_nil, readStatements]
  | cons d ds ih =>
    obtain ⟨ss, hss, hrelated⟩ := ih (Token.newline.endLine (lineAfter start d.tokens))
    obtain ⟨t, us, s, hhead, ht, hs, hdeclared⟩ := readStatement_tokens d last start
      (⟨.newline, lineAfter start d.tokens⟩ ::
        placed (Token.newline.endLine (lineAfter start d.tokens))
          (ds.flatMap fun d => d.tokens ++ [.newline]))
      (by rintro t ht; cases ht; rfl)
    refine ⟨s :: ss, ?_, ?_⟩
    · rw [List.flatMap_cons, List.append_assoc, placed_append, List.singleton_append, placed_cons,
        hhead, readStatements_cons, if_neg ht, hs]
      change _ <$> readStatements _ _ = _
      rw [readStatements_cons, if_pos rfl, hss]
      rfl
    · rw [List.flatMap_cons, List.flatMap_cons, hdeclared, hrelated]

/-- All ways of writing references agree: of declarations, in whichever way each is written, those
relationships are read that they declare, in order and each once.  Conversely, a text is refused at
the line of a reference that is none, where everything before this line can be read: be there no
sign on the line, or on one side of the first sign something else than names with points between
them. -/
theorem relationships_parse_references :
    (∀ ds : List Declaration, Schema.relationships <$> parse (textOf ds)
      = .ok (ds.flatMap Declaration.relationships).eraseDups) ∧
    ∀ (text : String) (ts line after : List PlacedToken) (tokens : List Token) (last : Nat),
      scan text = .ok ⟨ts, last⟩ → Standalone last ts (line ++ after) →
      LineTokens line tokens → EndsLine after → Malformed tokens →
      ∃ written, parse text
        = .error ⟨lineOf last (line ++ after), .malformedReference written⟩ := by
  constructor
  · intro ds
    obtain ⟨last, hscan⟩ := scan_textOf ds
    obtain ⟨ss, hss, hrelated⟩ := readStatements_tokens ds last 1
    rw [parse, hscan]
    change Schema.relationships <$> (ofStatements <$> readStatements _ _) = _
    rw [hss, ← hrelated]
    change Except.ok (ofStatements ss).relationships = _
    rw [ofStatements_eq]
  · intro text ts line after tokens last hscan hplace hline hafter h
    exact parse_of_malformed hscan hplace hline hafter h

/-- A reference in four ways, the second of them with another sign. -/
def sample : List Declaration :=
  let a : Name := .bare "a" (by decide)
  let b : Name := .bare "b" (by decide)
  let target : End := ⟨[], .bare "c" (by decide), .bare "d" (by decide)⟩
  let settings : Settings :=
    ⟨[.ident "delete", .mark .colon, .ident "cascade"], by decide, by decide⟩
  [.line none ⟨.manyToOne, ⟨[], a, b⟩, target, []⟩,
    .line (some (.quoted "to c")) ⟨.oneToMany, ⟨[a], .quoted "a", b⟩, target, [settings]⟩,
    .block none [⟨.manyToOne, ⟨[], a, b⟩, target, []⟩],
    .table [b] a [⟨b, .bare "int" (by decide),
      [.words (.bare "pk" (by decide)) [], .ref .manyToOne target]⟩]]

/-- Signs in brackets do not count. -/
theorem relationships_parse_references_sample :
    textOf sample
      = "Ref: a.b > c.d\nRef \"to c\": a.\"a\".b < c.d [delete : cascade]\n"
        ++ "Ref \x7b\n  a.b > c.d\n\x7d\nTable b.a \x7b\n  b int [pk, ref: > c.d]\n\x7d\n" ∧
    Schema.relationships <$> parse (textOf sample)
      = .ok [⟨.manyToOne, ⟨"a", "b"⟩, ⟨"c", "d"⟩⟩, ⟨.oneToMany, ⟨"a", "b"⟩, ⟨"c", "d"⟩⟩] ∧
    ∃ written, parse "Enum e \x7b\n\x7d\nRef \x7b\n  a.b > c.d\n  a.b c.d ['>']\n\x7d"
      = .error ⟨5, .malformedReference written⟩ := by
  have hdeclared : sample.flatMap Declaration.relationships
      = [⟨.manyToOne, ⟨"a", "b"⟩, ⟨"c", "d"⟩⟩, ⟨.oneToMany, ⟨"a", "b"⟩, ⟨"c", "d"⟩⟩,
        ⟨.manyToOne, ⟨"a", "b"⟩, ⟨"c", "d"⟩⟩, ⟨.manyToOne, ⟨"a", "b"⟩, ⟨"c", "d"⟩⟩] := rfl
  refine ⟨by decide +kernel, ?_, ?_⟩
  · rw [relationships_parse_references.1, hdeclared]
    rfl
  · let good : List PlacedToken :=
      placed 4 [.ident "a", .mark .dot, .ident "b", .mark .greater, .ident "c", .mark .dot,
        .ident "d"]
    let body : List PlacedToken :=
      placed 5 [.ident "a", .mark .dot, .ident "b", .ident "c", .mark .dot, .ident "d"]
    let line : List PlacedToken :=
      body ++ [⟨.mark .openBracket, 5⟩, ⟨.str ">", 5⟩, ⟨.mark .closeBracket, 5⟩]
    let after : List PlacedToken := [⟨.newline, 5⟩, ⟨.mark .closeBrace, 6⟩]
    let block : List PlacedToken := ⟨.newline, 3⟩ :: (good ++ ⟨.newline, 4⟩ :: (line ++ after))
    have hscan : scan "Enum e \x7b\n\x7d\nRef \x7b\n  a.b > c.d\n  a.b c.d ['>']\n\x7d" = .ok
        ⟨placed 1 [.ident "Enum", .ident "e", .mark .openBrace, .newline, .mark .closeBrace,
          .newline, .ident "Ref", .mark .openBrace] ++ block, 6⟩ :=
      eq_ok_of_toOption (by decide +kernel)
    have hreach : Reaches 6 (placed 1 [.ident "Enum", .ident "e", .mark .openBrace, .newline,
        .mark .closeBrace, .newline, .ident "Ref", .mark .openBrace] ++ block)
        (⟨.ident "Ref", 3⟩ :: ⟨.mark .openBrace, 3⟩ :: block) :=
      .statement (by decide) (s := .enum ⟨"e", []⟩) (eq_ok_of_toOption (by decide +kernel))
        (.newline (t := ⟨.newline, 2⟩) rfl (.here _))
    have hlines : ReachesLine 6 block (line ++ after) :=
      .newline rfl (.line rfl (r := ⟨.manyToOne, ⟨"a", "b"⟩, ⟨"c", "d"⟩⟩)
        (eq_ok_of_toOption (by decide +kernel)) (.newline (t := ⟨.newline, 4⟩) rfl (.here _)))
    have hplace := Standalone.block hreach (by decide) (.inl rfl) rfl hlines rfl
    have hline : LineTokens line
        [.ident "a", .mark .dot, .ident "b", .ident "c", .mark .dot, .ident "d"] :=
      lineTokens_placed (by decide) 5
        (@LineTokens.settings _ _ [⟨.str ">", 5⟩] [] _ rfl (by decide) rfl .nil)
    have hafter : EndsLine after := by
      rintro t ht
      cases ht
      rfl
    exact relationships_parse_references.2 _ _ line after _ 6 hscan hplace hline hafter
      (.inl (by decide))

end Mockup.Schema.Reference
