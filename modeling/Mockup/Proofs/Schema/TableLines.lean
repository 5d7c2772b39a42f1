import Mockup.Proofs.Schema.Declared
import Mockup.Proofs.Schema.ReferenceLines

/-!
# The lines of tables

A table is its keyword, a name with what may follow it, and items between braces.  Here is where
an item of a table starts, wherever the table stands in its text, and that a column which is read
there is a column of the schema.

* `OpensTable`, `readTable_of_opensTable`: from the name of a table to its items;
* `ReachesItem`, `InTable`: the places where items start;
* `mem_readStatements_of_reaches`, `mem_readItems_of_reachesItem`: a statement or item at a place
  that is reached is among those that are read;
* `exists_readItem_of_inTable`: the item that is read at a place is in the schema.
-/

namespace Mockup.Schema

/-- From the name of a table on, the tokens `body` follow the brace that opens the table. -/
def OpensTable (last : Nat) (ts body : List PlacedToken) : Prop :=
  ∃ name rest header, qualifiedName ts = some (name, rest) ∧
    skipTableSettings (readShortName rest).2 = .ok header ∧
    expectBrace last .tableBrace header = .ok body

/-- Reading the items of a table, one after the other, gets to the tokens `rest`. -/
inductive ReachesItem (last opened : Nat) : (ts rest : List PlacedToken) → Prop where
  | here (ts : List PlacedToken) : ReachesItem last opened ts ts
  | newline {t : PlacedToken} {ts rest : List PlacedToken} :
    t.token = .newline → ReachesItem last opened ts rest → ReachesItem last opened (t :: ts) rest
  | item {t : PlacedToken} {ts after rest : List PlacedToken} {i : TableItem} :
    t.token ≠ .newline → t.token ≠ .mark .closeBrace →
      readItem last opened t ts = .ok (i, after) → ReachesItem last opened after rest →
      ReachesItem last opened (t :: ts) rest

/-- Reading the tokens `ts` of a text gets to an item of a table that starts the tokens `rest`. -/
def InTable (last : Nat) (ts rest : List PlacedToken) : Prop :=
  ∃ keyword us body, Reaches last ts (keyword :: us) ∧ keyword.token.isKeyword "table" = true ∧
    OpensTable last us body ∧ ReachesItem last (lineOf last us) body rest

section Places

variable {last opened : Nat} {t : PlacedToken} {ts us rest : List PlacedToken}

theorem readTable_of_opensTable (h : OpensTable last ts us) :
    ∃ name shortName, readTable last ts = do
      let (items, rest) ← readItems last (lineOf last ts) us
      return (.table name shortName items, rest) := by
  obtain ⟨name, rest, header, hname, hheader, hbrace⟩ := h
  refine ⟨name, (readShortName rest).1, ?_⟩
  unfold readTable
  rw [hname]
  change skipTableSettings (readShortName rest).2 >>= _ = _
  rw [hheader]
  change expectBrace last .tableBrace header >>= _ = _
  rw [hbrace]
  rfl

theorem mem_readStatements_of_reaches {ss : List Statement} (h : Reaches last ts (t :: rest))
    (ht : t.token ≠ .newline) (hread : readStatements last ts = .ok ss) :
    ∃ s after, readStatement last t rest = .ok (s, after) ∧ s ∈ ss := by
  generalize hend : t :: rest = end' at h
  induction h generalizing ss with
  | here ts =>
    subst hend
    rw [readStatements_cons, if_neg ht] at hread
    obtain ⟨⟨s, after⟩, hs, hread⟩ := exists_ok_of_bind hread
    obtain ⟨later, -, hp⟩ := exists_ok_of_bind hread
    cases hp
    exact ⟨s, after, hs, List.mem_cons_self⟩
  | newline hline _ ih =>
    rw [readStatements_cons, if_pos hline] at hread
    exact ih hread hend
  | statement hline hs _ ih =>
    rw [readStatements_cons, if_neg hline] at hread
    obtain ⟨_, hfirst, hread⟩ := exists_ok_of_bind hread
    cases hs.symm.trans hfirst
    obtain ⟨later, hlater, hp⟩ := exists_ok_of_bind hread
    cases hp
    obtain ⟨s, after, hs, hmem⟩ := ih hlater hend
    exact ⟨s, after, hs, List.mem_cons_of_mem _ hmem⟩

theorem mem_readItems_of_reachesItem {items : List TableItem}
    (h : ReachesItem last opened ts (t :: us)) (hline : t.token ≠ .newline)
    (hbrace : t.token ≠ .mark .closeBrace)
    (hread : readItems last opened ts = .ok (items, rest)) :
    ∃ item after, readItem last opened t us = .ok (item, after) ∧ item ∈ items := by
  generalize hend : t :: us = end' at h
  induction h generalizing items with
  | here ts =>
    subst hend
    rw [readItems_cons, if_neg hline, if_neg hbrace] at hread
    obtain ⟨⟨item, after⟩, hitem, hread⟩ := exists_ok_of_bind hread
    obtain ⟨later, -, hp⟩ := exists_ok_of_bind hread
    cases hp
    exact ⟨item, after, hitem, List.mem_cons_self⟩
  | newline hskip _ ih =>
    rw [readItems_cons, if_pos hskip] at hread
    exact ih hread hend
  | item hskip hopen hitem _ ih =>
    rw [readItems_cons, if_neg hskip, if_neg hopen] at hread
    obtain ⟨_, hfirst, hread⟩ := exists_ok_of_bind hread
    cases hitem.symm.trans hfirst
    obtain ⟨⟨later, _⟩, hlater, hp⟩ := exists_ok_of_bind hread
    cases hp
    obtain ⟨item, after, hitem, hmem⟩ := ih hlater hend
    exact ⟨item, after, hitem, List.mem_cons_of_mem _ hmem⟩

/-- The tokens at the place of an item of a table are read if the whole text is; and a column that
is read there is one of the schema. -/
theorem exists_readItem_of_inTable {text : String} {s : Schema}
    (hscan : scan text = .ok ⟨ts, last⟩) (hplace : InTable last ts (t :: us))
    (hline : t.token ≠ .newline) (hbrace : t.token ≠ .mark .closeBrace)
    (h : parse text = .ok s) :
    ∃ opened item after, readItem last opened t us = .ok (item, after) ∧
      ∀ c ∈ item.column?, ∃ table ∈ s.tables, c ∈ table.columns := by
  obtain ⟨keyword, head, body, hreach, hkeyword, hopens, hitem⟩ := hplace
  obtain ⟨stream, hstream, h⟩ := exists_ok_of_bind h
  cases hscan.symm.trans hstream
  obtain ⟨ss, hss, h⟩ := exists_ok_of_bind h
  obtain rfl : ofStatements ss = s := Except.ok.inj h
  have hstarts : keyword.token ≠ .newline := by
    intro heq
    rw [heq] at hkeyword
    cases hkeyword
  obtain ⟨statement, after, hstatement, hmem⟩ :=
    mem_readStatements_of_reaches hreach hstarts hss
  obtain ⟨name, shortName, htable⟩ := readTable_of_opensTable hopens
  rw [readStatement_eq, if_pos hkeyword, htable] at hstatement
  obtain ⟨⟨items, _⟩, hitems, hp⟩ := exists_ok_of_bind hstatement
  cases hp
  obtain ⟨item, after', hread, hmem'⟩ :=
    mem_readItems_of_reachesItem hitem hline hbrace hitems
  refine ⟨_, item, after', hread, fun c hc => ⟨tableOf name shortName items, ?_, ?_⟩⟩
  · rw [ofStatements_eq]
    exact List.mem_filterMap.2 ⟨_, hmem, rfl⟩
  · rw [columns_tableOf]
    exact List.mem_filterMap.2 ⟨item, hmem', hc⟩

end Places

end Mockup.Schema
