import Mockup.Proofs.Schema.Clauses

/-!
# Parser states

The states of the parser between two tokens, as far as the nesting of braces goes: the top level,
the body of a table, and the bodies of the other blocks.  A row of tokens without braces keeps the
number of open braces, also if its settings go over several lines; so does a line end, and a brace
changes the number by one.

* `Place`, `Place.depth`, `Place.inTable`: the states, and the braces that are open in them;
* `Pending`: the rest of a text is read without an error from a state;
* `Pending.settled`, `Pending.spread`, `Pending.clause`, `Pending.newline`: the transitions that
  keep the depth;
* `Pending.openBrace`, `Pending.closeBrace`: those that change it;
* `Pending.not_ref`: no reference is declared between the items of a table.
-/

namespace Mockup.Schema

/-- The first token of the row is this word, in any case. -/
def startsWith (word : String) (ts : List PlacedToken) : Bool :=
  ts.head?.any (·.token.isKeyword word)

/-- The state of the parser between two tokens. -/
inductive Place where
  | top
  | tableHead
  | enumHead
  | refsHead
  | otherHead
  | items
  | noteHead
  | indexesHead
  | note
  | noteEnd
  | indexes
  | refs
  | enum
  | other (more : Nat)
  deriving DecidableEq, Repr

namespace Place

/-- The number of open braces. -/
def depth : Place → Nat
  | .top | .tableHead | .enumHead | .refsHead | .otherHead => 0
  | .items | .noteHead | .indexesHead | .refs | .enum => 1
  | .note | .noteEnd | .indexes => 2
  | .other more => more + 1

/-- The place lies between the name of a table and its closing brace. -/
def inTable : Place → Bool
  | .tableHead | .items | .noteHead | .indexesHead | .note | .noteEnd | .indexes => true
  | _ => false

/-- A brace at this place is read as a value or a column, and opens no block. -/
def takesBraces : Place → Bool
  | .indexes | .enum => true
  | _ => false

theorem takesBraces_eq_false (p : Place) (h : p.depth = 0 ∨ p.depth = 1 ∧ p.inTable = true) :
    p.takesBraces = false := by
  cases p with
  | indexes => rcases h with h | ⟨h, -⟩ <;> cases h
  | enum => rcases h with h | ⟨-, h⟩ <;> cases h
  | _ => rfl

/-- One place leads to another one over a row with so many braces: a table is only left by closing
its brace. -/
structure Leads (p : Place) (opens closes : Nat) (q : Place) : Prop where
  depth_add : q.depth + closes = p.depth + opens
  inTable : p.inTable = true → closes = 0 ∨ 0 < q.depth → q.inTable = true

namespace Leads

theorem refl (p : Place) : p.Leads 0 0 p := ⟨rfl, fun h _ => h⟩

/-- Outside of tables only the braces count. -/
theorem of_outside {p q : Place} {opens closes : Nat} (hdepth : q.depth + closes = p.depth + opens)
    (hp : p.inTable = false) : p.Leads opens closes q where
  depth_add := hdepth
  inTable := fun hin => by
    rw [hp] at hin
    cases hin

/-- A row that closes no brace may come first. -/
theorem trans {p q r : Place} {opens opens' closes : Nat} (h : p.Leads opens 0 q)
    (h' : q.Leads opens' closes r) : p.Leads (opens + opens') closes r where
  depth_add := by
    have := h.depth_add
    have := h'.depth_add
    omega
  inTable := fun htable => h'.inTable (h.inTable htable (.inl rfl))

end Leads

end Place

/-- The remaining tokens are read without an error from this place on. -/
inductive Pending (last : Nat) : Place → List PlacedToken → Prop
  | top {ts ss} (h : readStatements last ts = .ok ss) : Pending last .top ts
  | items {ts opened items rest} (h : readItems last opened ts = .ok (items, rest))
      (later : Pending last .top rest) : Pending last .items ts
  | tableHead {ts rest} (h : expectBrace last .tableBrace ts = .ok rest)
      (later : Pending last .items rest) : Pending last .tableHead ts
  | note {ts note rest} (h : noteBlock last ts = .ok (note, rest))
      (later : Pending last .items rest) : Pending last .note ts
  | noteEnd {ts note note' rest} (h : closeNote last note ts = .ok (note', rest))
      (later : Pending last .items rest) : Pending last .noteEnd ts
  | noteHead {ts line block} (h : ts = ⟨.mark .openBrace, line⟩ :: block)
      (later : Pending last .note block) : Pending last .noteHead ts
  | indexes {ts opened indexes rest} (h : readIndexes last opened ts = .ok (indexes, rest))
      (later : Pending last .items rest) : Pending last .indexes ts
  | indexesHead {ts line block} (h : ts = ⟨.mark .openBrace, line⟩ :: block)
      (later : Pending last .indexes block) : Pending last .indexesHead ts
  | enum {ts opened values rest} (h : enumValues opened ts = .ok (values, rest))
      (later : Pending last .top rest) : Pending last .enum ts
  | enumHead {ts rest} (h : expectBrace last .enumBrace ts = .ok rest)
      (later : Pending last .enum rest) : Pending last .enumHead ts
  | refs {ts opened rs rest} (h : refBlock last opened ts = .ok (rs, rest))
      (later : Pending last .top rest) : Pending last .refs ts
  | refsHead {ts line block} (h : ts = ⟨.mark .openBrace, line⟩ :: block)
      (later : Pending last .refs block) : Pending last .refsHead ts
  | other {ts line more rest} (h : skipBraces line (more + 1) ts = .ok rest)
      (later : Pending last .top rest) : Pending last (.other more) ts
  | otherHead {ts line rest} (hstop : Stops ts) (h : skipStatement line ts = .ok rest)
      (later : Pending last .top rest) : Pending last .otherHead ts

namespace Pending

variable {last line : Nat} {place : Place} {t : PlacedToken} {ts tail : List PlacedToken}

/-! ### Settled rows -/

theorem eq_nil_of_append {block : List PlacedToken} (hsettled : isSettled ts = true)
    (h : ts ++ tail = ⟨.mark .openBrace, line⟩ :: block) : ts = [] := by
  cases ts with
  | nil => rfl
  | cons t ts =>
    have hbound := (isSettled_cons.1 hsettled).1
    rw [(List.cons.inj h).1] at hbound
    cases hbound

/-- Items that start in a settled row: the last of them may have a block of its own. -/
theorem settled_items {opened : Nat} {items : List TableItem} {rest : List PlacedToken}
    (hsettled : isSettled ts = true) (hstop : Stops tail)
    (h : readItems last opened (ts ++ tail) = .ok (items, rest)) (later : Pending last .top rest) :
    ∃ place, Place.items.Leads 0 0 place ∧ Pending last place tail := by
  induction hn : ts.length using Nat.strongRecOn generalizing ts items with
  | ind n ih =>
    subst hn
    cases ts with
    | nil => exact ⟨.items, .refl _, .items h later⟩
    | cons t ts =>
      obtain ⟨hbound, -, hts⟩ := isSettled_cons.1 hsettled
      rw [List.cons_append, readItems_cons, if_neg (ne_of_not_isBound hbound rfl),
        if_neg (ne_of_not_isBound hbound rfl)] at h
      obtain ⟨⟨item, after⟩, hitem, h⟩ := exists_ok_of_bind h
      obtain ⟨⟨items', _⟩, hmore, hp⟩ := exists_ok_of_bind h
      cases hp
      rcases readItem_cases hsettled hstop.breaks hitem with
        ⟨us, hus, rfl⟩ | ⟨name, d, hcolumn⟩ |
          ⟨line, block, rfl, ⟨note, hnote⟩ | ⟨indexes, hindexes⟩⟩
      · exact ih _ (Nat.lt_succ_of_le hus.length_le) (isSettled_of_suffix hus hts) hmore rfl
      · obtain ⟨rfl, -⟩ := readColumn_stop hts hstop hcolumn
        exact ⟨.items, .refl _, .items hmore later⟩
      · exact ⟨.noteHead, ⟨rfl, fun _ _ => rfl⟩, .noteHead rfl (.note hnote (.items hmore later))⟩
      · exact ⟨.indexesHead, ⟨rfl, fun _ _ => rfl⟩,
          .indexesHead rfl (.indexes hindexes (.items hmore later))⟩

theorem exists_of_readStatements {ss : List Statement} (ht : t.token ≠ .newline)
    (h : readStatements last (t :: ts) = .ok ss) :
    ∃ s rest ss', readStatement last t ts = .ok (s, rest) ∧
      readStatements last rest = .ok ss' := by
  rw [readStatements_cons, if_neg ht] at h
  obtain ⟨⟨s, rest⟩, hs, h⟩ := exists_ok_of_bind h
  change (s :: ·) <$> readStatements last rest = .ok ss at h
  cases hrest : readStatements last rest with
  | error e => rw [hrest] at h; cases h
  | ok ss' => exact ⟨s, rest, ss', hs, hrest⟩

/-- A row that starts with a statement leads to the head of the statement, or to its end. -/
theorem settled_statement {ss : List Statement} (hsettled : isSettled (t :: ts) = true)
    (hstop : Stops tail) (h : readStatements last (t :: ts ++ tail) = .ok ss) :
    ∃ place : Place, place.depth = 0 ∧ (t.token.isKeyword "table" = true → place.inTable = true) ∧
      Pending last place tail := by
  obtain ⟨hbound, -, hts⟩ := isSettled_cons.1 hsettled
  rw [List.cons_append] at h
  obtain ⟨s, rest, ss', hs, hrest⟩ := exists_of_readStatements (ne_of_not_isBound hbound rfl) h
  rw [readStatement_eq] at hs
  split at hs
  · obtain ⟨body, opened, items, hbrace, hitems⟩ := readTable_heading hts hstop hs
    exact ⟨.tableHead, rfl, fun _ => rfl, .tableHead hbrace (.items hitems (.top hrest))⟩
  · next hnot =>
    refine Exists.imp (fun _ h => ⟨h.1, fun htable => absurd htable hnot, h.2⟩)
      (?_ : ∃ place : Place, place.depth = 0 ∧ Pending last place tail)
    split at hs
    · obtain ⟨⟨rs, _⟩, hrefs, hp⟩ := exists_ok_of_bind hs
      cases hp
      rcases readRefs_cases hts hstop hrefs with ⟨rfl, -⟩ | ⟨line, block, rfl, hblock⟩
      · exact ⟨.top, rfl, .top hrest⟩
      · exact ⟨.refsHead, rfl, .refsHead rfl (.refs hblock (.top hrest))⟩
    split at hs
    · obtain ⟨block, opened, values, hbrace, hvalues⟩ := readEnum_heading hts hstop hs
      exact ⟨.enumHead, rfl, .enumHead hbrace (.enum hvalues (.top hrest))⟩
    · obtain ⟨_, hskip, hp⟩ := exists_ok_of_bind hs
      cases hp
      rw [← List.cons_append, skipStatement_settled hsettled] at hskip
      exact ⟨.otherHead, rfl, .otherHead hstop hskip (.top hrest)⟩

/-- A settled row opens and closes nothing.  At the top level it may name a table. -/
theorem settled (h : Pending last place (ts ++ tail)) (hsettled : isSettled ts = true)
    (hstop : ts ≠ [] → Stops tail) :
    ∃ place', place.Leads 0 0 place' ∧
      (place.depth = 0 → startsWith "table" ts = true → place'.inTable = true) ∧
      Pending last place' tail := by
  cases ts with
  | nil => exact ⟨place, .refl place, nofun, h⟩
  | cons t ts =>
    have hstop := hstop (List.cons_ne_nil t ts)
    -- What has to stand before a brace is not followed by a row.
    have hnone : t :: ts ≠ [] := List.cons_ne_nil t ts
    cases h with
    | top h =>
      obtain ⟨place, hdepth, htable, hpending⟩ := settled_statement hsettled hstop h
      exact ⟨place, .of_outside hdepth rfl, fun _ => htable, hpending⟩
    | items h later =>
      obtain ⟨place, hlevel, hpending⟩ := settled_items hsettled hstop h later
      exact ⟨place, hlevel, nofun, hpending⟩
    | tableHead h => exact absurd (expectBrace_settled hsettled h) hnone
    | note h later =>
      obtain ⟨note, hclose⟩ := noteBlock_goesOn hsettled hstop.breaks h
      exact ⟨.noteEnd, ⟨rfl, fun _ _ => rfl⟩, nofun, .noteEnd hclose later⟩
    | noteEnd h => exact absurd (closeNote_settled hsettled h) hnone
    | noteHead h => exact absurd (eq_nil_of_append hsettled h) hnone
    | indexes h later =>
      obtain ⟨indexes, hmore⟩ := readIndexes_goesOn hsettled hstop h
      exact ⟨.indexes, .refl _, nofun, .indexes hmore later⟩
    | indexesHead h => exact absurd (eq_nil_of_append hsettled h) hnone
    | enum h later =>
      obtain ⟨values, hmore⟩ := enumValues_goesOn hsettled h
      exact ⟨.enum, .refl _, nofun, .enum hmore later⟩
    | enumHead h => exact absurd (expectBrace_settled hsettled h) hnone
    | refs h later =>
      obtain ⟨rs, hmore⟩ := refBlock_goesOn hsettled hstop h
      exact ⟨.refs, .refl _, nofun, .refs hmore later⟩
    | refsHead h => exact absurd (eq_nil_of_append hsettled h) hnone
    | other h later =>
      rw [skipBraces_append_of_noBrace (noBrace_of_isSettled hsettled)] at h
      exact ⟨.other _, .refl _, nofun, .other h later⟩
    | otherHead hhead =>
      rw [List.cons_append, stops_cons, (isSettled_cons.1 hsettled).1] at hhead
      cases hhead

/-! ### Settings over several lines -/

section Spread

variable {head settings rest : List PlacedToken}

/-- A statement whose first row has settings over several lines is a table or a reference. -/
theorem spread_statement {ss : List Statement} {u : PlacedToken}
    (hspread : Spread (u :: head) settings rest) (ht : t.token = .mark .openBracket)
    (hstop : Stops tail)
    (hnamed : u.token.isKeyword "table" = true ∨ u.token.isKeyword "ref" = true)
    (h : readStatements last (u :: head ++ t :: (settings ++ tail)) = .ok ss) :
    ∃ place : Place, place.depth = 0 ∧ (u.token.isKeyword "table" = true → place.inTable = true) ∧
      Pending last place tail := by
  have hbound := (isSettled_cons.1 hspread.settled).1
  have hhead := hspread.of_suffix (List.suffix_cons u head)
  rw [List.cons_append] at h
  obtain ⟨s, after, ss', hs, hrest⟩ := exists_of_readStatements (ne_of_not_isBound hbound rfl) h
  rw [readStatement_eq] at hs
  split at hs
  · obtain ⟨body, opened, items, hbrace, hitems⟩ := hhead.readTable_heading ht hs
    exact ⟨.tableHead, rfl, fun _ => rfl, .tableHead hbrace (.items hitems (.top hrest))⟩
  · next hnot =>
    rw [if_pos (hnamed.resolve_left hnot)] at hs
    obtain ⟨⟨rs, _⟩, hrefs, hp⟩ := exists_ok_of_bind hs
    cases hp
    obtain ⟨rfl, -⟩ := hhead.readRefs_stop ht hstop hrefs
    exact ⟨.top, rfl, fun htable => absurd htable hnot, .top hrest⟩

/-- Settings that go over several lines open and close nothing. -/
theorem spread (h : Pending last place (ts ++ tail)) (hspread : isSpread ts = true)
    (hnamed : place.depth = 0 → startsWith "table" ts = true ∨ startsWith "ref" ts = true)
    (hstop : Stops tail) :
    ∃ place', place.Leads 0 0 place' ∧
      (place.depth = 0 → startsWith "table" ts = true → place'.inTable = true) ∧
      Pending last place' tail := by
  obtain ⟨⟨head, t, settings, rest, rfl, hne, ht, hrow⟩, hbraces⟩ := isSpread_cases hspread
  obtain ⟨u, us, rfl⟩ := List.exists_cons_of_ne_nil hne
  have hbound := (isSettled_cons.1 hrow.settled).1
  rw [List.append_assoc (u :: us) (t :: settings) tail, List.cons_append] at h
  cases h with
  | top h =>
    obtain ⟨place, hdepth, htable, hpending⟩ :=
      spread_statement hrow ht hstop (by simpa [startsWith] using hnamed rfl) h
    exact ⟨place, .of_outside hdepth rfl,
      fun _ hstart => htable (by simpa [startsWith] using hstart), hpending⟩
  | items h later =>
    obtain ⟨items, hmore⟩ := hrow.readItems_goesOn ht hstop h
    exact ⟨.items, .refl _, nofun, .items hmore later⟩
  | indexes h later =>
    obtain ⟨indexes, hmore⟩ := hrow.readIndexes_goesOn ht hstop hne h
    exact ⟨.indexes, .refl _, nofun, .indexes hmore later⟩
  | enum h later =>
    obtain ⟨values, hmore⟩ := hrow.enumValues_goesOn ht h
    exact ⟨.enum, .refl _, nofun, .enum hmore later⟩
  | refs h later =>
    obtain ⟨rs, hmore⟩ := hrow.refBlock_goesOn ht hstop hne h
    exact ⟨.refs, .refl _, nofun, .refs hmore later⟩
  | other h later =>
    rw [← List.cons_append, ← List.append_assoc, skipBraces_append_of_noBrace hbraces] at h
    exact ⟨.other _, .refl _, nofun, .other h later⟩
  | note h =>
    obtain ⟨note, hclose⟩ := noteBlock_goesOn hrow.settled (breaks_of_open ht _) h
    rw [closeNote, dropNewlines_of_ne (by rw [ht]; decide)] at hclose
    simp only [ht, reduceCtorEq, if_false, Token.mark.injEq] at hclose
    cases hclose
  | noteEnd h => cases closeNote_settled hrow.settled h
  | tableHead h => cases expectBrace_settled hrow.settled h
  | enumHead h => cases expectBrace_settled hrow.settled h
  | noteHead h => cases eq_nil_of_append hrow.settled h
  | indexesHead h => cases eq_nil_of_append hrow.settled h
  | refsHead h => cases eq_nil_of_append hrow.settled h
  | otherHead hhead =>
    rw [List.cons_append, stops_cons, hbound] at hhead
    cases hhead

end Spread

/-- A clause opens and closes nothing.  At the top level it may name a table. -/
theorem clause (h : Pending last place (ts ++ tail)) (hclause : isClause ts = true)
    (hnamed : place.depth = 0 →
      isSettled ts = true ∨ startsWith "table" ts = true ∨ startsWith "ref" ts = true)
    (hstop : ts ≠ [] → Stops tail) :
    ∃ place', place.Leads 0 0 place' ∧
      (place.depth = 0 → startsWith "table" ts = true → place'.inTable = true) ∧
      Pending last place' tail := by
  by_cases hsettled : isSettled ts = true
  · exact h.settled hsettled hstop
  · have hspread := ((Bool.or_eq_true_iff ..).1 hclause).resolve_left hsettled
    have hne : ts ≠ [] := by rintro rfl; exact hsettled rfl
    exact h.spread hspread (fun hzero => (hnamed hzero).resolve_left hsettled) (hstop hne)

/-! ### Braces and line ends -/

/-- A brace opens a block, unless it is taken for something else. -/
theorem openBrace (h : Pending last place (⟨.mark .openBrace, line⟩ :: tail))
    (hplace : place.takesBraces = false) :
    ∃ place', place.Leads 1 0 place' ∧ Pending last place' tail := by
  have hline : Token.mark .openBrace ≠ .newline := by decide
  have hclose : Token.mark .openBrace ≠ .mark .closeBrace := by decide
  cases h with
  | top h =>
    obtain ⟨s, rest, ss', hs, hrest⟩ :=
      exists_of_readStatements (t := ⟨.mark .openBrace, line⟩) hline h
    rw [readStatement_eq, if_neg nofun, if_neg nofun, if_neg nofun] at hs
    obtain ⟨_, hskip, hp⟩ := exists_ok_of_bind hs
    cases hp
    exact ⟨.other 0, .of_outside rfl rfl, .other hskip (.top hrest)⟩
  | items h =>
    rw [readItems_cons, if_neg hline, if_neg hclose, readItem_eq, if_neg nofun, if_neg nofun,
      if_neg nofun, if_neg nofun] at h
    cases h
  | tableHead h later => cases h; exact ⟨.items, ⟨rfl, fun _ _ => rfl⟩, later⟩
  | note h => cases h
  | noteEnd h => cases h
  | noteHead h later => cases h; exact ⟨.note, ⟨rfl, fun _ _ => rfl⟩, later⟩
  | indexes => cases hplace
  | indexesHead h later => cases h; exact ⟨.indexes, ⟨rfl, fun _ _ => rfl⟩, later⟩
  | enum => cases hplace
  | enumHead h later => cases h; exact ⟨.enum, .of_outside rfl rfl, later⟩
  | refs h =>
    rw [refBlock_cons, if_neg hline, if_neg hclose] at h
    obtain ⟨r, hline, -⟩ := exists_ok_of_bind h
    change refLine last ([] ++ ⟨.mark .openBrace, line⟩ :: tail) = .ok r at hline
    exact absurd rfl (refLine_stop rfl (stops_cons.2 rfl) hline).2
  | refsHead h later => cases h; exact ⟨.refs, .of_outside rfl rfl, later⟩
  | other h later => exact ⟨.other _, .of_outside rfl rfl, .other h later⟩
  | otherHead _ h later => exact ⟨.other 0, .of_outside rfl rfl, .other h later⟩

/-- A brace closes the innermost block. -/
theorem closeBrace (h : Pending last place (⟨.mark .closeBrace, line⟩ :: tail))
    (hdepth : 0 < place.depth) :
    ∃ place', place.Leads 0 1 place' ∧ Pending last place' tail := by
  have hline : Token.mark .closeBrace ≠ .newline := by decide
  have hopen : Token.mark .closeBrace ≠ .mark .openBrace := by decide
  cases h with
  | top | tableHead | enumHead | refsHead | otherHead => cases hdepth
  | items h later =>
    rw [readItems_cons, if_neg hline, if_pos rfl] at h
    cases h
    exact ⟨.top, ⟨rfl, fun _ h => absurd h (by decide)⟩, later⟩
  | note h later => cases h; exact ⟨.items, ⟨rfl, fun _ _ => rfl⟩, later⟩
  | noteEnd h later => cases h; exact ⟨.items, ⟨rfl, fun _ _ => rfl⟩, later⟩
  | noteHead h | indexesHead h => cases h
  | indexes h later =>
    rw [readIndexes_cons, if_neg hline, if_pos rfl] at h
    cases h
    exact ⟨.items, ⟨rfl, fun _ _ => rfl⟩, later⟩
  | enum h later =>
    rw [enumValues_cons, if_pos rfl] at h
    cases h
    exact ⟨.top, .of_outside rfl rfl, later⟩
  | refs h later =>
    rw [refBlock_cons, if_neg hline, if_pos rfl] at h
    cases h
    exact ⟨.top, .of_outside rfl rfl, later⟩
  | @other _ _ more _ h later =>
    rw [skipBraces, if_neg hopen, if_pos rfl] at h
    cases more with
    | zero => cases h; exact ⟨.top, .of_outside rfl rfl, later⟩
    | succ more => exact ⟨.other more, .of_outside rfl rfl, .other h later⟩

/-- The end of a line opens and closes nothing. -/
theorem newline (h : Pending last place (⟨.newline, line⟩ :: tail)) :
    ∃ place', place.Leads 0 0 place' ∧ Pending last place' tail := by
  cases h with
  | top h =>
    rw [readStatements_cons, if_pos rfl] at h
    exact ⟨.top, .refl _, .top h⟩
  | items h later =>
    rw [readItems_cons, if_pos rfl] at h
    exact ⟨.items, .refl _, .items h later⟩
  | tableHead h later =>
    rw [expectBrace, dropNewlines_newline] at h
    exact ⟨.tableHead, .refl _, .tableHead h later⟩
  | note h later =>
    rw [noteBlock_eq, dropNewlines_newline] at h
    exact ⟨.note, .refl _, .note h later⟩
  | noteEnd h later =>
    rw [closeNote, dropNewlines_newline] at h
    exact ⟨.noteEnd, .refl _, .noteEnd h later⟩
  | noteHead h | indexesHead h | refsHead h => cases h
  | indexes h later =>
    rw [readIndexes_cons, if_pos rfl] at h
    exact ⟨.indexes, .refl _, .indexes h later⟩
  | enum h later =>
    have hclose : Token.newline ≠ .mark .closeBrace := by decide
    rw [enumValues_cons, if_neg hclose, if_pos (.inr rfl)] at h
    exact ⟨.enum, .refl _, .enum h later⟩
  | enumHead h later =>
    rw [expectBrace, dropNewlines_newline] at h
    exact ⟨.enumHead, .refl _, .enumHead h later⟩
  | refs h later =>
    rw [refBlock_cons, if_pos rfl] at h
    exact ⟨.refs, .refl _, .refs h later⟩
  | other h later => exact ⟨.other _, .refl _, .other h later⟩
  | otherHead _ h later =>
    rw [skipStatement, if_pos rfl] at h
    cases h
    cases later with
    | top h =>
      rw [readStatements_cons, if_pos rfl] at h
      exact ⟨.top, .of_outside rfl rfl, .top h⟩

/-! ### References between items -/

/-- Between the items of a table no declaration of references is read. -/
theorem not_ref (h : Pending last place (t :: ts)) (hdepth : place.depth = 1)
    (htable : place.inTable = true) (hkeyword : t.token.isKeyword "ref" = true) :
    startsRef ts = false := by
  cases h with
  | items h =>
    have hbound : isBound t.token = false :=
      Bool.eq_false_iff.2 fun hbound => by simp [isKeyword_of_isBound hbound] at hkeyword
    have hword : ∀ word, Text.sameIgnoringCase "ref" word = false →
        ¬ t.token.isKeyword word = true :=
      fun _ hne => Bool.eq_false_iff.1 (Token.isKeyword_eq_false hkeyword hne)
    rw [readItems_cons, if_neg (ne_of_not_isBound hbound rfl),
      if_neg (ne_of_not_isBound hbound rfl), readItem_eq,
      if_neg fun h => hword "note" (by decide) h.1, if_neg fun h => hword "note" (by decide) h.1,
      if_neg fun h => hword "indexes" (by decide) h.1] at h
    refine Bool.eq_false_iff.2 fun hstarts => ?_
    rw [if_pos ⟨hkeyword, hstarts⟩] at h
    cases h
  | noteHead h => cases h; cases hkeyword
  | indexesHead h => cases h; cases hkeyword
  | top | tableHead | enumHead | refsHead | otherHead | note | noteEnd | indexes => cases hdepth
  | enum | refs | other => cases htable

end Pending

end Mockup.Schema
