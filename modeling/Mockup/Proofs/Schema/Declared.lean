import Mathlib.Data.List.TakeWhile
import Mockup.Proofs.Schema.Rests
import Mockup.Proofs.Schema.RoundTrip

/-!
# The declarations of a schema

A schema is read off its statements: tables and enumerations in order, and the relationships of all
statements in order, each once.  Every column of a schema that is read comes from a run of the
reader of columns on an end of the tokens, so that an invariant of this reader holds of all columns.

* `ofStatements_eq`: the parts of a schema;
* `columnTail_invariant`: invariants of settings and constraint words are kept by the reader of
  columns;
* `exists_readColumn`: the origin of the columns of a schema;
* `parse_relates`: the relationships of a schema differ, and a column that refers to another one
  has a relationship with it.
-/

namespace Mockup.Schema

/-! ### The parts of a schema -/

/-- The table that a statement declares. -/
def Statement.table? : Statement → Option Table
  | .table name shortName items => some (tableOf name shortName items)
  | _ => none

/-- The relationships that a statement declares, repeats included. -/
def Statement.relationships : Statement → List Relationship
  | .table name _ items => items.flatMap (itemRelationships name)
  | .refs rs => rs
  | _ => []

/-- The enumeration that a statement declares. -/
def Statement.enum? : Statement → Option Enumeration
  | .enum e => some e
  | _ => none

/-- The column that an item of a table declares. -/
def TableItem.column? : TableItem → Option Column
  | .column c _ => some c
  | _ => none

theorem declare_eq {s : Schema} {xs : List Relationship} (hs : s.relationships = xs.eraseDups)
    (statement : Statement) :
    declare s statement =
      { tables := s.tables ++ statement.table?.toList
        relationships := (xs ++ statement.relationships).eraseDups
        enums := s.enums ++ statement.enum?.toList } := by
  cases statement with
  | table name shortName items =>
    simp [declare, Canonical.addRelationships_eraseDups hs, Statement.table?,
      Statement.relationships, Statement.enum?]
  | refs rs =>
    simp [declare, Canonical.addRelationships_eraseDups hs, Statement.table?,
      Statement.relationships, Statement.enum?]
  | enum e => simp [declare, Statement.table?, Statement.relationships, Statement.enum?, ← hs]
  | other => simp [declare, Statement.table?, Statement.relationships, Statement.enum?, ← hs]

/-- A schema is read off its statements. -/
theorem ofStatements_eq (ss : List Statement) :
    ofStatements ss =
      { tables := ss.filterMap Statement.table?
        relationships := (ss.flatMap Statement.relationships).eraseDups
        enums := ss.filterMap Statement.enum? } := by
  have hfold (ss : List Statement) (s : Schema) (xs : List Relationship)
      (hs : s.relationships = xs.eraseDups) :
      ss.foldl declare s =
        { tables := s.tables ++ ss.filterMap Statement.table?
          relationships := (xs ++ ss.flatMap Statement.relationships).eraseDups
          enums := s.enums ++ ss.filterMap Statement.enum? } := by
    induction ss generalizing s xs with
    | nil => simp [← hs]
    | cons statement ss ih =>
      rw [List.foldl_cons, declare_eq hs, ih _ _ rfl]
      cases htable : statement.table? <;> cases henum : statement.enum? <;> simp [htable, henum]
  exact hfold ss {} [] rfl

theorem name_tableOf (name : String) (shortName : Option String) (items : List TableItem) :
    (tableOf name shortName items).name = name := by
  have hfold (t : Table) : (items.foldl addItem t).name = t.name := by
    induction items generalizing t with
    | nil => rfl
    | cons item items ih =>
      rw [List.foldl_cons, ih]
      cases item <;> rfl
  exact hfold _

theorem columns_tableOf (name : String) (shortName : Option String) (items : List TableItem) :
    (tableOf name shortName items).columns = items.filterMap TableItem.column? := by
  have hfold (t : Table) :
      (items.foldl addItem t).columns = t.columns ++ items.filterMap TableItem.column? := by
    induction items generalizing t with
    | nil => simp
    | cons item items ih =>
      rw [List.foldl_cons, ih]
      cases item <;> simp [addItem, TableItem.column?, List.filterMap_cons]
  exact (hfold _).trans (List.nil_append _)

/-- The members of a list differ once the repeats are erased. -/
theorem nodup_eraseDups {α : Type} [BEq α] [LawfulBEq α] (xs : List α) : xs.eraseDups.Nodup := by
  cases xs with
  | nil => exact List.nodup_nil
  | cons x xs =>
    rw [List.eraseDups_cons, List.nodup_cons]
    constructor
    · simp
    · exact nodup_eraseDups (xs.filter fun y => !y == x)
termination_by xs.length
decreasing_by
  have := List.length_filter_le (fun y => !y == x) xs
  simp only [List.length_cons]
  omega

/-! ### The reader of columns -/

section Columns

variable {last line opened depth : Nat} {t : PlacedToken} {ts rest : List PlacedToken}

/-- A setting has a value if and only if there is a colon in it. -/
theorem settingValue?_eq_none_iff {group : List Token} :
    settingValue? group = none ↔ .mark .colon ∉ group := by
  unfold settingValue?
  constructor
  · intro h hmem
    split at h
    · next hnil =>
      have hall := List.dropWhile_eq_nil_iff.1 hnil _ hmem
      exact absurd hall (by decide)
    · cases h
  · intro h
    have hnil : group.dropWhile (· != .mark .colon) = [] := by
      refine List.dropWhile_eq_nil_iff.2 fun t ht => bne_iff_ne.2 ?_
      rintro rfl
      exact h ht
    rw [hnil]

/-- Settings are made of the tokens between their brackets, without line ends. -/
theorem mem_of_settingGroups {group : List Token} {groups : List (List Token)}
    (h : settingGroups opened depth group ts = .ok (groups, rest)) :
    ∀ g ∈ groups, ∀ u ∈ g, u ∈ group ∨ u ≠ .newline ∧ ∃ p ∈ ts, p.token = u := by
  have hpush : ∀ {group : List Token} {groups : List (List Token)} {g : List Token},
      g ∈ pushGroup group groups → g = group ∨ g ∈ groups := by
    intro group groups g hg
    unfold pushGroup at hg
    split at hg
    · exact .inr hg
    · exact List.mem_cons.1 hg
  induction ts generalizing depth group groups with
  | nil => cases h
  | cons t ts ih =>
    intro g hg u hu
    rw [settingGroups] at h
    split at h
    · cases h
      rcases hpush hg with rfl | hg
      · exact .inl hu
      · cases hg
    split at h
    · obtain ⟨⟨later, _⟩, hlater, hp⟩ := exists_ok_of_bind h
      cases hp
      rcases hpush hg with rfl | hg
      · exact .inl hu
      · rcases ih hlater g hg u hu with hnil | ⟨hline, p, hp, heq⟩
        · cases hnil
        · exact .inr ⟨hline, p, List.mem_cons_of_mem t hp, heq⟩
    split at h
    · rcases ih h g hg u hu with hgroup | ⟨hline, p, hp, heq⟩
      · exact .inl hgroup
      · exact .inr ⟨hline, p, List.mem_cons_of_mem t hp, heq⟩
    · next hline =>
      rcases ih h g hg u hu with hgroup | ⟨hline, p, hp, heq⟩
      · rcases List.mem_append.1 hgroup with hgroup | hgroup
        · exact .inl hgroup
        · obtain rfl := List.mem_singleton.1 hgroup
          exact .inr ⟨hline, t, List.mem_cons_self, rfl⟩
      · exact .inr ⟨hline, p, List.mem_cons_of_mem t hp, heq⟩

section Invariant

variable {P : ColumnDraft → Prop} {Q : Token → Prop}

theorem applySettings_invariant
    (hsetting : ∀ d group setting, (∀ u ∈ group, Q u ∧ u ≠ .newline) →
      readSetting line group = .ok setting → P d → P (d.apply setting (Token.join group)))
    {groups : List (List Token)} (hgroups : ∀ g ∈ groups, ∀ u ∈ g, Q u ∧ u ≠ .newline)
    {d d' : ColumnDraft} (hd : P d) (h : applySettings line d groups = .ok d') : P d' := by
  induction groups generalizing d with
  | nil => cases h; exact hd
  | cons group groups ih =>
    obtain ⟨hgroup, hgroups⟩ := List.forall_mem_cons.1 hgroups
    unfold applySettings at h
    split at h
    · cases h
    · next setting hread => exact ih hgroups (hsetting d group setting hgroup hread hd) h

/-- A property of columns that is kept by every constraint word and by every setting is kept by the
reader of columns.  Of the tokens it needs to know only what holds of each of them. -/
theorem columnTail_invariant
    (hword : ∀ d word ts, Q (.ident word) → P d →
      P { d with column := (bareConstraint d.column word ts).1 })
    (hsetting : ∀ d group setting, (∀ u ∈ group, Q u ∧ u ≠ .newline) →
      readSetting line group = .ok setting → P d → P (d.apply setting (Token.join group)))
    (hts : ∀ u ∈ ts, Q u.token) {d d' : ColumnDraft} (hd : P d)
    (h : columnTail last line d ts = .ok (d', rest)) : P d' := by
  fun_induction columnTail last line d ts with
  | case1 => cases h; exact hd
  | case2 => cases h; exact hd
  | case3 => cases h
  | case4 => cases h
  | case5 d t ts _ _ groups after hgroups d'' happly ih =>
    obtain ⟨-, hts⟩ := List.forall_mem_cons.1 hts
    have hmem : ∀ g ∈ groups, ∀ u ∈ g, Q u ∧ u ≠ .newline := by
      intro g hg u hu
      rcases mem_of_settingGroups hgroups g hg u hu with hnil | ⟨hline, p, hp, rfl⟩
      · cases hnil
      · exact ⟨hts p hp, hline⟩
    refine ih (fun u hu => hts u ((settingGroups_suffix hgroups).mem hu)) ?_ h
    exact applySettings_invariant hsetting hmem hd happly
  | case6 d t ts _ word heq next ih =>
    obtain ⟨ht, hts⟩ := List.forall_mem_cons.1 hts
    refine ih (fun u hu => hts u ((bareConstraint_suffix d.column word ts).mem hu)) ?_ h
    exact hword d word ts (heq ▸ ht) hd
  | case7 => cases h

end Invariant

/-! ### Where columns come from -/

theorem readItem_column {c : Column} {refs : List (Cardinality × ColumnRef)}
    (h : readItem last opened t ts = .ok (.column c refs, rest)) :
    ∃ name, readColumn last t.line name ts = .ok (⟨c, refs⟩, rest) := by
  rw [readItem_eq] at h
  split at h
  · cases h
  split at h
  · obtain ⟨_, -, hp⟩ := exists_ok_of_bind h
    cases hp
  split at h
  · obtain ⟨_, -, hp⟩ := exists_ok_of_bind h
    cases hp
  split at h
  · cases h
  split at h
  · next name _ =>
    obtain ⟨_, hcolumn, hp⟩ := exists_ok_of_bind h
    cases hp
    exact ⟨name, hcolumn⟩
  · cases h

theorem readItems_mem {items : List TableItem} (h : readItems last opened ts = .ok (items, rest)) :
    ∀ item ∈ items, ∃ u us after, u :: us <:+ ts ∧
      readItem last opened u us = .ok (item, after) := by
  fun_induction readItems last opened ts generalizing items with
  | case1 => cases h
  | case2 t ts _ ih =>
    intro item hitem
    obtain ⟨u, us, after, hsuffix, hread⟩ := ih h item hitem
    exact ⟨u, us, after, suffix_cons_of hsuffix t, hread⟩
  | case3 => cases h; simp
  | case4 => cases h
  | case5 t ts _ _ first after hfirst ih =>
    obtain ⟨_, hmore, hp⟩ := exists_ok_of_bind h
    cases hp
    intro item hitem
    rcases List.mem_cons.1 hitem with rfl | hitem
    · exact ⟨t, ts, after, List.suffix_rfl, hfirst⟩
    · obtain ⟨u, us, after', hsuffix, hread⟩ := ih hmore item hitem
      exact ⟨u, us, after', suffix_cons_of (hsuffix.trans (readItem_suffix hfirst)) t, hread⟩

theorem readStatements_mem {ss : List Statement} (h : readStatements last ts = .ok ss) :
    ∀ s ∈ ss, ∃ u us after, u :: us <:+ ts ∧ readStatement last u us = .ok (s, after) := by
  fun_induction readStatements last ts generalizing ss with
  | case1 => cases h; simp
  | case2 t ts _ ih =>
    intro s hs
    obtain ⟨u, us, after, hsuffix, hread⟩ := ih h s hs
    exact ⟨u, us, after, suffix_cons_of hsuffix t, hread⟩
  | case3 => cases h
  | case4 t ts _ first after hfirst ih =>
    obtain ⟨later, hmore, hp⟩ := exists_ok_of_bind h
    cases hp
    intro s hs
    rcases List.mem_cons.1 hs with rfl | hs
    · exact ⟨t, ts, after, List.suffix_rfl, hfirst⟩
    · obtain ⟨u, us, after', hsuffix, hread⟩ := ih hmore s hs
      exact ⟨u, us, after', hsuffix.trans (readStatement_suffix hfirst), hread⟩

/-- The items of a table statement are read from an end of the tokens. -/
theorem readStatement_table {name : String} {shortName : Option String} {items : List TableItem}
    (h : readStatement last t ts = .ok (.table name shortName items, rest)) :
    ∃ opened body, body <:+ ts ∧ readItems last opened body = .ok (items, rest) := by
  rw [readStatement_eq] at h
  split at h
  · obtain ⟨_, _, _, opened, body, heq, hbody, hitems⟩ := readTable_items h
    cases heq
    exact ⟨opened, body, hbody, hitems⟩
  split at h
  · obtain ⟨_, -, hp⟩ := exists_ok_of_bind h
    cases hp
  split at h
  · unfold readEnum at h
    cases hname : qualifiedName ts with
    | none => rw [hname] at h; cases h
    | some p =>
      rw [hname] at h
      obtain ⟨_, -, h⟩ := exists_ok_of_bind h
      obtain ⟨_, -, hp⟩ := exists_ok_of_bind h
      cases hp
  · obtain ⟨_, -, hp⟩ := exists_ok_of_bind h
    cases hp

end Columns

/-- Every column of a text that is read is read from an end of its tokens, and what its settings
refer to is among the relationships. -/
theorem exists_readColumn {text : String} {s : Schema} (h : parse text = .ok s) {t : Table}
    (ht : t ∈ s.tables) {c : Column} (hc : c ∈ t.columns) :
    ∃ stream line name us refs rest, scan text = .ok stream ∧ us <:+ stream.tokens ∧
      readColumn stream.endLine line name us = .ok (⟨c, refs⟩, rest) ∧
      ∀ r ∈ refs, ⟨r.1, ⟨t.name, c.name⟩, r.2⟩ ∈ s.relationships := by
  obtain ⟨stream, hscan, h⟩ := exists_ok_of_bind h
  obtain ⟨ss, hstatements, h⟩ := exists_ok_of_bind h
  obtain rfl : ofStatements ss = s := Except.ok.inj h
  rw [ofStatements_eq] at ht ⊢
  obtain ⟨statement, hstatement, htable⟩ := List.mem_filterMap.1 ht
  cases statement with
  | table name shortName items =>
    obtain rfl : tableOf name shortName items = t := Option.some.inj htable
    rw [columns_tableOf] at hc
    obtain ⟨item, hitem, hcolumn⟩ := List.mem_filterMap.1 hc
    cases item with
    | column d refs =>
      obtain rfl : d = c := Option.some.inj hcolumn
      obtain ⟨u, us, _, hus, hread⟩ := readStatements_mem hstatements _ hstatement
      obtain ⟨opened, body, hbody, hitems⟩ := readStatement_table hread
      obtain ⟨v, vs, _, hvs, hread⟩ := readItems_mem hitems _ hitem
      obtain ⟨columnName, hread⟩ := readItem_column hread
      have hsuffix : vs <:+ stream.tokens :=
        (List.suffix_cons v vs).trans (hvs.trans ((suffix_cons_of hbody u).trans hus))
      refine ⟨stream, v.line, columnName, vs, refs, _, hscan, hsuffix, hread, fun r hr => ?_⟩
      rw [List.mem_eraseDups, name_tableOf]
      exact List.mem_flatMap.2 ⟨_, hstatement, List.mem_flatMap.2 ⟨_, hitem,
        List.mem_map.2 ⟨r, hr, rfl⟩⟩⟩
    | note text => cases hcolumn
    | indexes entries => cases hcolumn
  | refs rs => cases htable
  | enum e => cases htable
  | other => cases htable

/-! ### References are relationships -/

/-- A column refers to something only if this is among the references of its settings. -/
def ColumnDraft.Listed (d : ColumnDraft) : Prop :=
  ∀ target, d.column.references = some target → ∃ kind, (kind, target) ∈ d.refs

theorem ColumnDraft.Listed.bareConstraint {d : ColumnDraft} (h : d.Listed) (word : String)
    (ts : List PlacedToken) :
    ColumnDraft.Listed { d with column := (bareConstraint d.column word ts).1 } := by
  have hsame : (Schema.bareConstraint d.column word ts).1.references = d.column.references := by
    unfold Schema.bareConstraint
    dsimp only
    split
    · rfl
    split
    · rfl
    · rfl
  intro target htarget
  exact h target (hsame ▸ htarget)

theorem ColumnDraft.Listed.apply {d : ColumnDraft} (h : d.Listed) (setting : Setting)
    (written : String) : (d.apply setting written).Listed := by
  cases setting with
  | ref kind target =>
    -- the reference of this setting takes the place of an earlier one
    rintro target' htarget
    obtain rfl : target = target' := Option.some.inj htarget
    exact ⟨kind, List.mem_append_right _ (List.mem_singleton.2 rfl)⟩
  | _ => exact h

theorem listed_of_readColumn {last line : Nat} {name : String} {d : ColumnDraft}
    {ts rest : List PlacedToken} (h : readColumn last line name ts = .ok (d, rest)) : d.Listed := by
  rw [readColumn_eq] at h
  obtain ⟨⟨dataType, after⟩, -, htail⟩ := exists_ok_of_bind h
  refine columnTail_invariant (Q := fun _ => True) ?_ ?_ (fun _ _ => trivial) ?_ htail
  · exact fun d word ts _ hd => hd.bareConstraint word ts
  · exact fun d group setting _ _ hd => hd.apply setting _
  · intro target htarget
    cases htarget

/-- The relationships of a text that is read differ, and a column that refers to another one has a
relationship with it. -/
theorem parse_relates {text : String} {s : Schema} (h : parse text = .ok s) :
    s.relationships.Nodup ∧
    ∀ t ∈ s.tables, ∀ c ∈ t.columns, ∀ target, c.references = some target →
      ∃ kind, ⟨kind, ⟨t.name, c.name⟩, target⟩ ∈ s.relationships := by
  constructor
  · obtain ⟨_, -, h⟩ := exists_ok_of_bind h
    obtain ⟨ss, -, h⟩ := exists_ok_of_bind h
    obtain rfl : ofStatements ss = s := Except.ok.inj h
    rw [ofStatements_eq]
    exact nodup_eraseDups _
  · intro t ht c hc target htarget
    obtain ⟨_, _, _, _, refs, _, -, -, hread, hrelated⟩ := exists_readColumn h ht hc
    obtain ⟨kind, hkind⟩ := listed_of_readColumn hread target htarget
    exact ⟨kind, hrelated _ hkind⟩

/-- A column with two references keeps the second one, and has a relationship for each. -/
theorem parse_relates_overwritten :
    ∃ s, parse "Table a \x7b\n  b int [ref: > c.d, ref: < e.f]\n\x7d\nRef: a.b > c.d" = .ok s ∧
      s.tables.flatMap (·.columns.filterMap (·.references)) = [⟨"e", "f"⟩] ∧
      s.relationships
        = [⟨.manyToOne, ⟨"a", "b"⟩, ⟨"c", "d"⟩⟩, ⟨.oneToMany, ⟨"a", "b"⟩, ⟨"e", "f"⟩⟩] ∧
      s.relationships.Nodup ∧
      ∀ t ∈ s.tables, ∀ c ∈ t.columns, ∀ target, c.references = some target →
        ∃ kind, ⟨kind, ⟨t.name, c.name⟩, target⟩ ∈ s.relationships := by
  let s : Schema :=
    { tables := [{
        name := "a"
        columns := [{
          name := "b"
          dataType := "int"
          references := some ⟨"e", "f"⟩
          constraints := ["ref: > c.d", "ref: < e.f"] }] }]
      relationships :=
        [⟨.manyToOne, ⟨"a", "b"⟩, ⟨"c", "d"⟩⟩, ⟨.oneToMany, ⟨"a", "b"⟩, ⟨"e", "f"⟩⟩] }
  have hparse :
      parse "Table a \x7b\n  b int [ref: > c.d, ref: < e.f]\n\x7d\nRef: a.b > c.d" = .ok s :=
    eq_ok_of_toOption (by decide +kernel)
  exact ⟨s, hparse, rfl, rfl, parse_relates hparse⟩

end Mockup.Schema
