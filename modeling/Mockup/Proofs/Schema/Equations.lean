import Mockup.Schema.Parser

/-!
# The readers, one step at a time

The loops of the readers look into the answer of each step to see that it leaves fewer tokens.  Here
is what a step does without that: an error ends the loop, and an answer is handed on.
-/

namespace Mockup.Schema

/-! ### Names and keywords -/

/-- No token is two keywords. -/
theorem Token.isKeyword_eq_false {t : Token} {v w : String} (h : t.isKeyword v = true)
    (hne : Text.sameIgnoringCase v w = false) : t.isKeyword w = false := by
  refine Bool.eq_false_iff.2 fun hw => ?_
  cases t with
  | ident s =>
    rw [isKeyword, Text.sameIgnoringCase, beq_iff_eq] at h hw
    rw [Text.sameIgnoringCase, ← h, hw, beq_self_eq_true] at hne
    cases hne
  | _ => cases h

theorem Token.ne_newline_of_isKeyword {t : Token} {w : String} (h : t.isKeyword w = true) :
    t ≠ .newline := by
  rintro rfl
  cases h

/-- A name without a point behind it stands for itself. -/
theorem qualifiedName_of_name {t u : PlacedToken} {name : String} (ht : t.token.name? = some name)
    (hu : u.token ≠ .mark .dot) (ts : List PlacedToken) :
    qualifiedName (t :: u :: ts) = some (name, u :: ts) := by
  cases ts <;> simp [qualifiedName, lastSegment, ht, hu]

/-! ### References -/

theorem refTokens_cons (t : PlacedToken) (ts : List PlacedToken) :
    refTokens (t :: ts) =
      if endsLine t.token then .ok ([], t :: ts)
      else if t.token = .mark .openBracket then dropSettings t.line ts >>= refTokens
      else do
        let (tokens, rest) ← refTokens ts
        return (t.token :: tokens, rest) := by
  rw [refTokens]
  split
  · rfl
  split
  · split
    · next h => rw [h]; rfl
    · next h => rw [h]; rfl
  · rfl

theorem refLine_eq (last : Nat) (ts : List PlacedToken) :
    refLine last ts = do
      let (tokens, rest) ← refTokens ts
      let r ← reference (lineOf last ts) tokens
      return (r, rest) := by
  unfold refLine
  rcases refTokens ts with e | ⟨tokens, rest⟩
  · rfl
  · dsimp only
    change _ = reference (lineOf last ts) tokens >>= _
    cases reference (lineOf last ts) tokens <;> rfl

theorem refBlock_cons (last opened : Nat) (t : PlacedToken) (ts : List PlacedToken) :
    refBlock last opened (t :: ts) =
      if t.token = .newline then refBlock last opened ts
      else if t.token = .mark .closeBrace then .ok ([], ts)
      else do
        let (r, rest) ← refLine last (t :: ts)
        let (rs, rest) ← refBlock last opened rest
        return (r :: rs, rest) := by
  rw [refBlock]
  split
  · rfl
  split
  · rfl
  split <;> next h => rw [h]; rfl

/-! ### Columns -/

section Equations

variable {last line : Nat} {d : ColumnDraft} {t : PlacedToken} {ts : List PlacedToken}

theorem columnTail_of_end (h : endsLine t.token = true) :
    columnTail last line d (t :: ts) = .ok (d, t :: ts) := by
  rw [columnTail, if_pos h]

theorem columnTail_of_open (h : t.token = .mark .openBracket) :
    columnTail last line d (t :: ts) =
      settingGroups t.line 0 [] ts >>= fun (groups, rest) =>
        applySettings line d groups >>= fun d => columnTail last line d rest := by
  rw [columnTail, if_neg (by rw [h]; decide)]
  simp only [h]
  split
  · next hg => rw [hg]; rfl
  · next groups rest hg =>
    rw [hg]
    change _ = applySettings line d groups >>= _
    cases applySettings line d groups <;> rfl

theorem columnTail_of_word {word : String} (h : t.token = .ident word) :
    columnTail last line d (t :: ts) =
      columnTail last line { d with column := (bareConstraint d.column word ts).1 }
        (bareConstraint d.column word ts).2 := by
  rw [columnTail, if_neg (by simp [h, endsLine])]
  simp only [h]

theorem columnTail_of_other (hend : ¬ endsLine t.token = true)
    (hopen : t.token = .mark .openBracket → False) (hword : ∀ word, t.token = .ident word → False) :
    columnTail last line d (t :: ts) = unexpected last .columnSetting (t :: ts) := by
  rw [columnTail, if_neg hend]
  split
  · next h => exact (hopen h).elim
  · next h => exact (hword _ h).elim
  · rfl

end Equations

theorem readColumn_eq (last line : Nat) (name : String) (ts : List PlacedToken) :
    readColumn last line name ts =
      readType line name ts >>= fun (dataType, rest) =>
        columnTail last line { column := { name, dataType } } rest := by
  unfold readColumn
  cases readType line name ts <;> rfl

/-! ### Tables -/

theorem readIndexes_cons (last opened : Nat) (t : PlacedToken) (ts : List PlacedToken) :
    readIndexes last opened (t :: ts) =
      if t.token = .newline then readIndexes last opened ts
      else if t.token = .mark .closeBrace then .ok ([], ts)
      else do
        let (columns, rest) ← indexHead last t ts
        let (settings, rest) ← indexSettings rest
        let (indexes, rest) ← readIndexes last opened rest
        return (⟨columns, settings⟩ :: indexes, rest) := by
  rw [readIndexes]
  split
  · rfl
  split
  · rfl
  split
  · next h => rw [h]; rfl
  · next columns rest h =>
    rw [h]
    split <;> next hs => simp only [bind, Except.bind, hs]

theorem readItem_eq (last opened : Nat) (t : PlacedToken) (ts : List PlacedToken) :
    readItem last opened t ts =
      if t.token.isKeyword "note" ∧ peek ts = .mark .colon then
        .ok (.note (noteText ts.tail).1, (noteText ts.tail).2)
      else if t.token.isKeyword "note" ∧ peek ts = .mark .openBrace then
        noteBlock last ts.tail >>= fun (note, rest) => .ok (.note note, rest)
      else if t.token.isKeyword "indexes" ∧ peek ts = .mark .openBrace then
        readIndexes last opened ts.tail >>= fun (indexes, rest) => .ok (.indexes indexes, rest)
      else if t.token.isKeyword "ref" ∧ startsRef ts then
        unexpected last .columnNotRef (t :: ts)
      else match t.token.name? with
        | some name =>
          readColumn last t.line name ts >>= fun (d, rest) => .ok (.column d.column d.refs, rest)
        | none => unexpected last .column (t :: ts) := by
  unfold readItem
  split
  · rfl
  split
  · cases noteBlock last ts.tail <;> rfl
  split
  · cases readIndexes last opened ts.tail <;> rfl
  split
  · rfl
  · cases t.token.name? with
    | none => rfl
    | some name => cases h : readColumn last t.line name ts <;> simp only [h] <;> rfl

/-- A name with another name behind it is a column, unless what follows opens a reference. -/
theorem readItem_of_names {t u : PlacedToken} {ts : List PlacedToken} {name : String}
    (ht : t.token.name? = some name) (hu : u.token.name?.isSome = true)
    (hts : opensRef (peek ts) = false) (last opened : Nat) :
    readItem last opened t (u :: ts) =
      readColumn last t.line name (u :: ts) >>= fun (d, rest) =>
        .ok (.column d.column d.refs, rest) := by
  -- the second name stands where a note, indexes or a reference would go on
  have hpeek : ∀ m, peek (u :: ts) ≠ .mark m := by
    intro m heq
    rw [show u.token = .mark m from heq] at hu
    cases hu
  have hopens : opensRef u.token = false := by
    cases huv : u.token with
    | mark m => exact absurd huv (hpeek m)
    | _ => rfl
  have hstarts : ¬ startsRef (u :: ts) = true := by
    simp [startsRef, hopens, hts]
  rw [readItem_eq, if_neg fun h => hpeek _ h.2, if_neg fun h => hpeek _ h.2,
    if_neg fun h => hpeek _ h.2, if_neg fun h => hstarts h.2, ht]

theorem readItems_cons (last opened : Nat) (t : PlacedToken) (ts : List PlacedToken) :
    readItems last opened (t :: ts) =
      if t.token = .newline then readItems last opened ts
      else if t.token = .mark .closeBrace then .ok ([], ts)
      else do
        let (item, rest) ← readItem last opened t ts
        let (items, rest) ← readItems last opened rest
        return (item :: items, rest) := by
  rw [readItems]
  split
  · rfl
  split
  · rfl
  split <;> next h => rw [h]; rfl

/-! ### Statements -/

theorem enumValues_cons (opened : Nat) (t : PlacedToken) (ts : List PlacedToken) :
    enumValues opened (t :: ts) =
      if t.token = .mark .closeBrace then .ok ([], ts)
      else if t.token = .mark .comma ∨ t.token = .newline then enumValues opened ts
      else if t.token = .mark .openBracket then dropSettings t.line ts >>= enumValues opened
      else do
        let (values, rest) ← enumValues opened ts
        return (t.token.content :: values, rest) := by
  rw [enumValues]
  split
  · rfl
  split
  · rfl
  split
  · split <;> next h => rw [h]; rfl
  · rfl

theorem readStatement_eq (last : Nat) (t : PlacedToken) (ts : List PlacedToken) :
    readStatement last t ts =
      if t.token.isKeyword "table" then readTable last ts
      else if t.token.isKeyword "ref" then
        readRefs last ts >>= fun (rs, rest) => .ok (.refs rs, rest)
      else if t.token.isKeyword "enum" then readEnum last ts
      else skipStatement t.line (t :: ts) >>= fun rest => .ok (.other, rest) := by
  unfold readStatement
  split
  · rfl
  split
  · cases readRefs last ts <;> rfl
  split
  · rfl
  · cases skipStatement t.line (t :: ts) <;> rfl

theorem readStatements_cons (last : Nat) (t : PlacedToken) (ts : List PlacedToken) :
    readStatements last (t :: ts) =
      if t.token = .newline then readStatements last ts
      else readStatement last t ts >>= fun (s, rest) => (s :: ·) <$> readStatements last rest := by
  rw [readStatements]
  split
  · rfl
  split <;> next h => rw [h]; rfl

end Mockup.Schema
