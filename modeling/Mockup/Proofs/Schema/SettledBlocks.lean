import Mockup.Proofs.Schema.Settled

/-!
# Reading settled rows before a block and within one

The readers of items, references, enumerations and other statements, in the way of the readers of
columns: what they make of a settled row, and how they go on with what follows it.

* `readItem_cases`, `readRefs_cases`: a row may lead to a block, or stands for itself;
* `readTable_heading`, `readEnum_heading`: a row that has to lead to a block;
* `enumValues_goesOn`, `refBlock_goesOn`, `skipBraces_append_of_noBrace`: rows within a block.
-/

namespace Mockup.Schema

section Blocks

variable {t : PlacedToken} {ts tail rest : List PlacedToken} {last opened : Nat}

theorem eq_openBrace_cons (h : peek ts = .mark .openBrace) :
    ∃ line ts', ts = ⟨.mark .openBrace, line⟩ :: ts' := by
  cases ts with
  | nil => cases h
  | cons t ts => exact ⟨t.line, ts, by rw [← show t.token = .mark .openBrace from h]⟩

theorem dropNewlines_of_ne (h : t.token ≠ .newline) : dropNewlines (t :: ts) = t :: ts :=
  List.dropWhile_cons_of_neg (by simpa using h)

theorem dropNewlines_newline (line : Nat) (ts : List PlacedToken) :
    dropNewlines (⟨.newline, line⟩ :: ts) = dropNewlines ts :=
  List.dropWhile_cons_of_pos (by simp)

/-! ### Notes -/

/-- Reads what stands after the text of a note: line ends, and the brace that closes it. -/
def closeNote (last : Nat) (note : Option String) (ts : List PlacedToken) :
    Except ReadError (Option String × List PlacedToken) :=
  match dropNewlines ts with
  | t :: rest =>
    if t.token = .mark .closeBrace then .ok (note, rest)
    else unexpected last .noteBrace (t :: rest)
  | [] => unexpected last .noteBrace []

theorem noteBlock_eq (last : Nat) (ts : List PlacedToken) :
    noteBlock last ts =
      closeNote last (noteText (dropNewlines ts)).1 (noteText (dropNewlines ts)).2 := rfl

theorem closeNote_settled {note note' : Option String} (hsettled : isSettled ts = true)
    (h : closeNote last note (ts ++ tail) = .ok (note', rest)) : ts = [] := by
  cases ts with
  | nil => rfl
  | cons t ts =>
    have hbound := (isSettled_cons.1 hsettled).1
    have hclose : t.token ≠ .mark .closeBrace := ne_of_not_isBound hbound rfl
    rw [List.cons_append, closeNote, dropNewlines_of_ne (ne_of_not_isBound hbound rfl)] at h
    simp only [if_neg hclose] at h
    cases h

theorem noteBlock_goesOn (hsettled : isSettled (t :: ts) = true) (hbreaks : Breaks tail)
    {note : Option String} (h : noteBlock last (t :: ts ++ tail) = .ok (note, rest)) :
    ∃ note', closeNote last note' tail = .ok (note, rest) := by
  have hbound := (isSettled_cons.1 hsettled).1
  rw [noteBlock_eq, List.cons_append, dropNewlines_of_ne (ne_of_not_isBound hbound rfl),
    ← List.cons_append] at h
  obtain ⟨us, hsuffix, hus⟩ := noteText_remains hbreaks (t :: ts)
  rw [hus] at h
  obtain rfl := closeNote_settled (isSettled_of_suffix hsuffix hsettled) h
  exact ⟨_, h⟩

/-! ### Items of tables -/

/-- An item that starts in a settled row ends within it, or is a column, or the block that follows
is its own. -/
theorem readItem_cases (hsettled : isSettled (t :: ts) = true) (hbreaks : Breaks tail)
    {item : TableItem} (h : readItem last opened t (ts ++ tail) = .ok (item, rest)) :
    Remains ts tail rest ∨
      (∃ name d, readColumn last t.line name (ts ++ tail) = .ok (d, rest)) ∨
      ∃ line block, tail = ⟨.mark .openBrace, line⟩ :: block ∧
        ((∃ note, noteBlock last block = .ok (note, rest)) ∨
          ∃ indexes, readIndexes last opened block = .ok (indexes, rest)) := by
  obtain ⟨-, -, hts⟩ := isSettled_cons.1 hsettled
  -- A brace at the head of what remains is not one of the row.
  have hblock : peek (ts ++ tail) = .mark .openBrace →
      ∃ line block, tail = ⟨.mark .openBrace, line⟩ :: block ∧ (ts ++ tail).tail = block := by
    intro hpeek
    cases ts with
    | nil =>
      obtain ⟨line, block, rfl⟩ := eq_openBrace_cons hpeek
      exact ⟨line, block, rfl, rfl⟩
    | cons u us =>
      have hbound := (isSettled_cons.1 hts).1
      rw [show u.token = .mark .openBrace from hpeek] at hbound
      cases hbound
  rw [readItem_eq] at h
  split at h
  · next hnote =>
    cases h
    left
    cases ts with
    | nil =>
      cases tail with
      | nil => cases hnote.2
      | cons u tail => exact absurd hnote.2 (ne_of_isBreak (breaks_cons.1 hbreaks) rfl)
    | cons u us => exact (noteText_remains hbreaks us).cons u
  split at h
  · next hnote =>
    obtain ⟨⟨note, _⟩, hread, hp⟩ := exists_ok_of_bind h
    cases hp
    obtain ⟨line, block, rfl, htail⟩ := hblock hnote.2
    rw [htail] at hread
    exact .inr (.inr ⟨line, block, rfl, .inl ⟨note, hread⟩⟩)
  split at h
  · next hindexes =>
    obtain ⟨⟨indexes, _⟩, hread, hp⟩ := exists_ok_of_bind h
    cases hp
    obtain ⟨line, block, rfl, htail⟩ := hblock hindexes.2
    rw [htail] at hread
    exact .inr (.inr ⟨line, block, rfl, .inr ⟨indexes, hread⟩⟩)
  split at h
  · cases h
  split at h
  · obtain ⟨⟨d, _⟩, hcolumn, hp⟩ := exists_ok_of_bind h
    cases hp
    exact .inr (.inl ⟨_, d, hcolumn⟩)
  · cases h

/-! ### The heads of tables and enumerations -/

theorem expectBrace_settled {expected : Expectation} (hsettled : isSettled ts = true)
    (h : expectBrace last expected (ts ++ tail) = .ok rest) : ts = [] := by
  cases ts with
  | nil => rfl
  | cons t ts =>
    have hbound := (isSettled_cons.1 hsettled).1
    have hopen : t.token ≠ .mark .openBrace := ne_of_not_isBound hbound rfl
    rw [List.cons_append, expectBrace, dropNewlines_of_ne (ne_of_not_isBound hbound rfl)] at h
    simp only [if_neg hopen] at h
    cases h

theorem readShortName_remains (hbreaks : Breaks tail) (ts : List PlacedToken) :
    Remains ts tail (readShortName (ts ++ tail)).2 := by
  cases ts with
  | nil =>
    cases tail with
    | nil => exact .refl [] []
    | cons t tail =>
      rw [List.nil_append, readShortName, isKeyword_of_isBreak (breaks_cons.1 hbreaks)]
      exact .refl [] (t :: tail)
  | cons t ts =>
    rw [List.cons_append, readShortName]
    split
    · split
      · next name rest hname =>
        obtain ⟨u, us, rfl, hremains⟩ := qualifiedName_remains hbreaks hname
        exact (hremains.cons u).cons t
      · exact (Remains.refl ts tail).cons t
    · exact .refl (t :: ts) tail

theorem skipTableSettings_remains (hsettled : isSettled ts = true) (hstop : Stops tail)
    (h : skipTableSettings (ts ++ tail) = .ok rest) : Remains ts tail rest := by
  unfold skipTableSettings at h
  cases ts with
  | nil =>
    cases tail with
    | nil => cases h; exact .refl [] []
    | cons t tail =>
      have hopen : t.token ≠ .mark .openBracket := ne_of_isBound (stops_cons.1 hstop) rfl
      simp only [List.nil_append, if_neg hopen] at h
      cases h
      exact .refl [] (t :: tail)
  | cons t ts =>
    obtain ⟨-, hclosed, -⟩ := isSettled_cons.1 hsettled
    simp only [List.cons_append] at h
    split at h
    · next hopen => exact (dropSettings_remains (hopen ▸ hclosed) h).cons t
    · cases h
      exact .refl (t :: ts) tail

/-- A row after the keyword of a table is its name and settings, all of it. -/
theorem readTable_heading (hsettled : isSettled ts = true) (hstop : Stops tail) {s : Statement}
    (h : readTable last (ts ++ tail) = .ok (s, rest)) :
    ∃ body opened items, expectBrace last .tableBrace tail = .ok body ∧
      readItems last opened body = .ok (items, rest) := by
  unfold readTable at h
  cases hq : qualifiedName (ts ++ tail) with
  | none => rw [hq] at h; cases h
  | some p =>
    rw [hq] at h
    obtain ⟨after, hsettings, h⟩ := exists_ok_of_bind h
    obtain ⟨body, hbrace, h⟩ := exists_ok_of_bind h
    obtain ⟨⟨items, _⟩, hitems, hp⟩ := exists_ok_of_bind h
    cases hp
    obtain ⟨t, us, rfl, vs, hvs, hname⟩ := qualifiedName_remains hstop.breaks hq
    have hvsettled := isSettled_of_suffix hvs (isSettled_cons.1 hsettled).2.2
    obtain ⟨ws, hws, hshort⟩ := readShortName_remains hstop.breaks vs
    have hwsettled := isSettled_of_suffix hws hvsettled
    change skipTableSettings (readShortName p.2).2 = .ok after at hsettings
    rw [hname, hshort] at hsettings
    obtain ⟨xs, hxs, rfl⟩ := skipTableSettings_remains hwsettled hstop hsettings
    obtain rfl := expectBrace_settled (isSettled_of_suffix hxs hwsettled) hbrace
    exact ⟨body, _, items, hbrace, hitems⟩

/-- A row after the keyword of an enumeration is its name, all of it. -/
theorem readEnum_heading (hsettled : isSettled ts = true) (hstop : Stops tail) {s : Statement}
    (h : readEnum last (ts ++ tail) = .ok (s, rest)) :
    ∃ block opened values, expectBrace last .enumBrace tail = .ok block ∧
      enumValues opened block = .ok (values, rest) := by
  unfold readEnum at h
  cases hq : qualifiedName (ts ++ tail) with
  | none => rw [hq] at h; cases h
  | some p =>
    rw [hq] at h
    obtain ⟨block, hbrace, h⟩ := exists_ok_of_bind h
    obtain ⟨⟨values, _⟩, hvalues, hp⟩ := exists_ok_of_bind h
    cases hp
    obtain ⟨t, us, rfl, vs, hvs, hname⟩ := qualifiedName_remains hstop.breaks hq
    have hvsettled := isSettled_of_suffix hvs (isSettled_cons.1 hsettled).2.2
    change expectBrace last .enumBrace p.2 = .ok block at hbrace
    rw [hname] at hbrace
    obtain rfl := expectBrace_settled hvsettled hbrace
    exact ⟨block, _, values, hbrace, hvalues⟩

theorem enumValues_goesOn (hsettled : isSettled ts = true) {values : List String}
    (h : enumValues opened (ts ++ tail) = .ok (values, rest)) :
    ∃ values', enumValues opened tail = .ok (values', rest) := by
  induction hn : ts.length using Nat.strongRecOn generalizing ts values with
  | ind n ih =>
    subst hn
    cases ts with
    | nil => exact ⟨values, h⟩
    | cons t ts =>
      obtain ⟨hbound, hclosed, hts⟩ := isSettled_cons.1 hsettled
      rw [List.cons_append, enumValues_cons, if_neg (ne_of_not_isBound hbound rfl)] at h
      split at h
      · exact ih _ (Nat.lt_succ_self _) hts h rfl
      split at h
      · next hopen =>
        obtain ⟨after, hdrop, h⟩ := exists_ok_of_bind h
        obtain ⟨us, hus, rfl⟩ := dropSettings_remains (hopen ▸ hclosed) hdrop
        exact ih _ (Nat.lt_succ_of_le hus.length_le) (isSettled_of_suffix hus hts) h rfl
      · obtain ⟨_, hmore, hp⟩ := exists_ok_of_bind h
        cases hp
        exact ih _ (Nat.lt_succ_self _) hts hmore rfl

/-! ### Other statements -/

theorem skipBraces_append_of_noBrace
    (hnone : ∀ u ∈ ts, u.token ≠ .mark .openBrace ∧ u.token ≠ .mark .closeBrace)
    (line depth : Nat) (tail : List PlacedToken) :
    skipBraces line depth (ts ++ tail) = skipBraces line depth tail := by
  induction ts with
  | nil => rfl
  | cons u us ih =>
    obtain ⟨hopen, hclose⟩ := hnone u List.mem_cons_self
    rw [List.cons_append, skipBraces, if_neg hopen, if_neg hclose,
      ih fun v hv => hnone v (List.mem_cons_of_mem u hv)]

theorem skipStatement_settled (hsettled : isSettled ts = true) (line : Nat)
    (tail : List PlacedToken) : skipStatement line (ts ++ tail) = skipStatement line tail := by
  induction ts with
  | nil => rfl
  | cons t ts ih =>
    obtain ⟨hbound, -, hts⟩ := isSettled_cons.1 hsettled
    rw [List.cons_append, skipStatement, if_neg (ne_of_not_isBound hbound rfl),
      if_neg (ne_of_not_isBound hbound rfl), ih hts]

/-! ### References -/

theorem refTokens_goesOn (hsettled : isSettled ts = true) {tokens : List Token}
    (h : refTokens (ts ++ tail) = .ok (tokens, rest)) :
    ∃ before tokens', tokens = before ++ tokens' ∧ refTokens tail = .ok (tokens', rest) := by
  induction hn : ts.length using Nat.strongRecOn generalizing ts tokens with
  | ind n ih =>
    subst hn
    cases ts with
    | nil => exact ⟨[], tokens, rfl, h⟩
    | cons t ts =>
      obtain ⟨hbound, hclosed, hts⟩ := isSettled_cons.1 hsettled
      have hend : ¬ endsLine t.token = true := fun hend => by
        rw [isBound_of_endsLine hend] at hbound
        cases hbound
      rw [List.cons_append, refTokens_cons, if_neg hend] at h
      split at h
      · next hopen =>
        obtain ⟨after, hdrop, h⟩ := exists_ok_of_bind h
        obtain ⟨us, hus, rfl⟩ := dropSettings_remains (hopen ▸ hclosed) hdrop
        exact ih _ (Nat.lt_succ_of_le hus.length_le) (isSettled_of_suffix hus hts) h rfl
      · obtain ⟨⟨more, _⟩, hmore, hp⟩ := exists_ok_of_bind h
        cases hp
        obtain ⟨before, tokens', rfl, htail⟩ := ih _ (Nat.lt_succ_self _) hts hmore rfl
        exact ⟨t.token :: before, tokens', rfl, htail⟩

/-- Only names and points stand in one end of a reference. -/
theorem openBrace_notMem_of_endpoint? {tokens : List Token} {c : ColumnRef}
    (h : endpoint? tokens = some c) : .mark .openBrace ∉ tokens := by
  have hname : ∀ {t : Token}, t.name? ≠ none → .mark .openBrace ≠ t := by
    rintro t hname rfl
    exact hname rfl
  fun_induction endpoint? tokens with
  | case1 table column =>
    obtain ⟨_, htable, h⟩ := Option.bind_eq_some_iff.1 h
    obtain ⟨_, hcolumn, -⟩ := Option.bind_eq_some_iff.1 h
    simp [hname (t := table) (by simp [htable]), hname (t := column) (by simp [hcolumn])]
  | case2 qualifier ts _ ih =>
    cases hq : qualifier.name? with
    | none => rw [hq] at h; cases h
    | some _ =>
      rw [hq] at h
      simp [hname (t := qualifier) (by simp [hq]), ih h]
  | case3 => cases h

theorem openBrace_notMem_of_reference {line : Nat} {tokens : List Token} {r : Relationship}
    (h : reference line tokens = .ok r) : .mark .openBrace ∉ tokens := by
  have hendpoint : ∀ {ts c}, endpoint line ts = .ok c → .mark .openBrace ∉ ts := by
    intro ts c hc
    unfold endpoint at hc
    split at hc
    · next hsome => exact openBrace_notMem_of_endpoint? hsome
    · cases hc
  unfold reference at h
  dsimp only at h
  split at h
  · cases h
  · next sign after hsplit =>
    obtain ⟨_, hbefore, h⟩ := exists_ok_of_bind h
    obtain ⟨_, hafter, -⟩ := exists_ok_of_bind h
    have hsign : .mark .openBrace ≠ sign := by
      rintro rfl
      have := List.head?_dropWhile_not (fun t : Token => t.cardinality?.isNone) tokens
      rw [hsplit] at this
      cases this
    rw [← List.takeWhile_append_dropWhile (p := fun t : Token => t.cardinality?.isNone)
      (l := tokens), hsplit]
    simp [hendpoint hbefore, hendpoint hafter, hsign]

/-- The tokens of a reference end at a bound, unless it is a brace that opens a block. -/
theorem refTokens_stop (hstop : Stops tail) {tokens : List Token}
    (h : refTokens tail = .ok (tokens, rest)) (hnot : .mark .openBrace ∉ tokens) :
    rest = tail ∧ peek tail ≠ .mark .openBrace := by
  cases tail with
  | nil => rw [refTokens] at h; cases h; exact ⟨rfl, by decide⟩
  | cons t tail =>
    have hbound := stops_cons.1 hstop
    rw [refTokens_cons] at h
    split at h
    · next hend =>
      cases h
      refine ⟨rfl, fun hopen => ?_⟩
      rw [show t.token = .mark .openBrace from hopen] at hend
      cases hend
    · rw [if_neg (ne_of_isBound hbound rfl)] at h
      obtain ⟨_, -, hp⟩ := exists_ok_of_bind h
      cases hp
      have hbrace : t.token = .mark .openBrace := by
        cases ht : t.token with
        | mark m => rw [ht] at hbound; cases m <;> simp_all [isBound, endsLine]
        | _ => rw [ht] at hbound; simp_all [isBound, endsLine]
      simp [hbrace] at hnot

/-- A reference ends with its line or its block.  A brace that opens a block would be one of its
tokens, with which it is no reference. -/
theorem refLine_stop (hsettled : isSettled ts = true) (hstop : Stops tail) {r : Relationship}
    (h : refLine last (ts ++ tail) = .ok (r, rest)) :
    rest = tail ∧ peek tail ≠ .mark .openBrace := by
  rw [refLine_eq] at h
  obtain ⟨⟨tokens, _⟩, htokens, h⟩ := exists_ok_of_bind h
  obtain ⟨_, href, hp⟩ := exists_ok_of_bind h
  cases hp
  obtain ⟨before, tokens', rfl, htail⟩ := refTokens_goesOn hsettled htokens
  refine refTokens_stop hstop htail fun hmem => openBrace_notMem_of_reference href ?_
  exact List.mem_append_right before hmem

theorem refBlock_goesOn (hsettled : isSettled ts = true) (hstop : Stops tail)
    {rs : List Relationship} (h : refBlock last opened (ts ++ tail) = .ok (rs, rest)) :
    ∃ rs', refBlock last opened tail = .ok (rs', rest) := by
  cases ts with
  | nil => exact ⟨rs, h⟩
  | cons t ts =>
    have hbound := (isSettled_cons.1 hsettled).1
    rw [List.cons_append, refBlock_cons, if_neg (ne_of_not_isBound hbound rfl),
      if_neg (ne_of_not_isBound hbound rfl), ← List.cons_append] at h
    obtain ⟨⟨r, _⟩, hline, h⟩ := exists_ok_of_bind h
    obtain ⟨⟨rs', _⟩, hmore, hp⟩ := exists_ok_of_bind h
    cases hp
    rw [(refLine_stop hsettled hstop hline).1] at hmore
    exact ⟨rs', hmore⟩

theorem skipName_remains (hbreaks : Breaks tail) (ts : List PlacedToken) :
    Remains ts tail (skipName (ts ++ tail)) := by
  cases ts with
  | nil =>
    cases tail with
    | nil => exact .refl [] []
    | cons t tail =>
      rw [List.nil_append, skipName, name?_of_isBreak (breaks_cons.1 hbreaks)]
      exact .refl [] (t :: tail)
  | cons t ts =>
    rw [List.cons_append, skipName]
    split
    · exact (Remains.refl ts tail).cons t
    · exact .refl (t :: ts) tail

/-- The tokens after the keyword of a reference end with the row, or the block that follows belongs
to them. -/
theorem readRefs_cases (hsettled : isSettled ts = true) (hstop : Stops tail)
    {rs : List Relationship} (h : readRefs last (ts ++ tail) = .ok (rs, rest)) :
    rest = tail ∧ peek tail ≠ .mark .openBrace ∨
      ∃ line block, tail = ⟨.mark .openBrace, line⟩ :: block ∧
        refBlock last line block = .ok (rs, rest) := by
  obtain ⟨us, hus, hskip⟩ := skipName_remains hstop.breaks ts
  have husettled := isSettled_of_suffix hus hsettled
  unfold readRefs at h
  rw [hskip] at h
  cases us with
  | nil =>
    cases tail with
    | nil => cases h
    | cons t tail =>
      have hcolon : t.token ≠ .mark .colon := ne_of_isBound (stops_cons.1 hstop) rfl
      simp only [List.nil_append, if_neg hcolon] at h
      split at h
      · next hopen => exact .inr ⟨t.line, tail, by rw [← hopen], h⟩
      · cases h
  | cons u us =>
    obtain ⟨hbound, -, hrest⟩ := isSettled_cons.1 husettled
    have hopen : u.token ≠ .mark .openBrace := ne_of_not_isBound hbound rfl
    simp only [List.cons_append, if_neg hopen] at h
    split at h
    · obtain ⟨_, hline, hp⟩ := exists_ok_of_bind h
      cases hp
      exact .inl (refLine_stop hrest hstop hline)
    · cases h

end Blocks

end Mockup.Schema
