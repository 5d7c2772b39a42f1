import Mockup.Proofs.Schema.Cursor.Columns

/-!
# Tables at a cursor

The walks at a cursor follow the readers.

* `readIndex`, `follows_readIndex`, `follows_readIndexes`: one index, and the indexes of a table;
* `follows_noteBlock`, `follows_readItem`, `follows_readItems`: the items of a table;
* `follows_readTable`: whole tables.
-/

namespace Mockup.Schema.Cursor

open Loop (rounds)
open Follows (peek_cons peek_nil advance_cons ite_pos ite_neg)

variable {s : TokenStream} {t : PlacedToken} {ts rest : List PlacedToken}

/-! ### Tables -/

theorem follows_indexColumns (ts : List PlacedToken) :
    Follows s (rounds indexColumnRound []) ts (indexColumns s.endLine ts) :=
  follows_entryRounds (fun _ => .fail _) rfl (fun _ _ => by rw [indexColumns]; rfl) ts

theorem follows_indexSettings (ts : List PlacedToken) :
    Follows s indexSettings ts (Schema.indexSettings ts) := by
  cases ts with
  | nil => exact peek_nil.andThen (ite_neg (by decide) (.pure _))
  | cons t ts =>
    refine peek_cons.andThen ?_
    dsimp only [Schema.indexSettings]
    split
    · have hread := follows_settingGroups (s := s) t ts
      rcases hg : settingGroups t.line 0 [] ts with e | ⟨groups, rest⟩ <;> rw [hg] at hread
      · exact hread.orFail
      · exact hread.andThen (.pure _)
    · exact .pure _

/-- Reads one index: its columns, and then its settings. -/
def readIndex (last : Nat) (t : PlacedToken) (ts : List PlacedToken) :
    Except ReadError (Index × List PlacedToken) := do
  let (columns, rest) ← indexHead last t ts
  let (settings, rest) ← Schema.indexSettings rest
  return (⟨columns, settings⟩, rest)

theorem length_readIndex {last : Nat} {i : Index} (h : readIndex last t ts = .ok (i, rest)) :
    rest.length < (t :: ts).length := by
  obtain ⟨_, hhead, h⟩ := exists_ok_of_bind h
  obtain ⟨_, hsettings, h⟩ := exists_ok_of_bind h
  cases h
  have := length_indexHead hhead
  have := length_indexSettings hsettings
  simp only [List.length_cons]; omega

theorem readIndexes_of_index {last opened : Nat} (hline : t.token ≠ .newline)
    (hclose : t.token ≠ .mark .closeBrace) (ts : List PlacedToken) :
    readIndexes last opened (t :: ts) = do
      let (i, rest) ← readIndex last t ts
      let (indexes, rest) ← readIndexes last opened rest
      return (i :: indexes, rest) := by
  rw [readIndexes_cons, if_neg hline, if_neg hclose, readIndex]
  rcases indexHead last t ts with _ | ⟨columns, rest⟩
  · rfl
  · change (Schema.indexSettings rest >>= _) = ((Schema.indexSettings rest >>= _) >>= _)
    cases Schema.indexSettings rest <;> rfl

theorem follows_readIndex (t : PlacedToken) (ts : List PlacedToken) :
    Follows s index (t :: ts) (readIndex s.endLine t ts) := by
  refine advance_cons.andThen ?_
  unfold readIndex indexHead
  split
  · exact (follows_indexColumns ts).bind fun _ rest =>
      (follows_indexSettings rest).bind fun _ _ => .pure _
  · exact (follows_indexSettings ts).bind fun _ _ => .pure _

theorem follows_readIndexes (opened : Nat) (ts : List PlacedToken) :
    Follows s (rounds (indexRound opened) []) ts (readIndexes s.endLine opened ts) := by
  refine follows_lineRounds (fun t ts ht => ?_) (fun front => ?_)
    (fun front t ts hline heof => ?_) ts
  · rw [readIndexes_cons, if_pos ht]
  · exact .failed _ (peek_nil.andThen (ite_neg (by decide) (ite_pos rfl (.throw _))))
      (by rw [readIndexes])
  by_cases hclose : t.token = .mark .closeBrace
  · exact .done ts (peek_cons.andThen (ite_pos hclose (advance_cons.andThen (.pure _))))
      (by rw [readIndexes_cons, if_neg hline, if_pos hclose])
  · exact .of_read (fun _ h => peek_cons.andThen (ite_neg hclose (ite_neg heof h)))
      (follows_readIndex t ts) (fun _ _ h => length_readIndex h)
      (readIndexes_of_index hline hclose ts)

/-! ### Items of a table -/

theorem follows_noteText (ts : List PlacedToken) :
    Follows s noteText ts (.ok (Schema.noteText ts)) := by
  cases ts with
  | nil => exact peek_nil.andThen (.pure _)
  | cons t ts =>
    refine peek_cons.andThen ?_
    dsimp only [Schema.noteText]
    cases t.token with
    | str s => exact advance_cons.andThen (.pure _)
    | quoted s => exact advance_cons.andThen (.pure _)
    | _ => exact .pure _

theorem follows_expectNext (m : Mark) (expected : Expectation) (ts : List PlacedToken) :
    Follows s (expectNext m expected) ts (match dropNewlines ts with
      | t :: rest =>
        if t.token = .mark m then .ok ((), rest) else unexpected s.endLine expected (t :: rest)
      | [] => unexpected s.endLine expected []) :=
  (follows_dropNewlines ts).andThen (follows_expect m expected (dropNewlines ts))

theorem follows_expectBrace (expected : Expectation) (ts : List PlacedToken) :
    Follows s (expectNext .openBrace expected) ts
      (expectBrace s.endLine expected ts >>= fun rest => .ok ((), rest)) := by
  have h := follows_expectNext (s := s) .openBrace expected ts
  unfold expectBrace
  rcases hts : dropNewlines ts with _ | ⟨t, rest⟩ <;> rw [hts] at h
  · exact h
  dsimp only at h ⊢
  split
  · next ht => rwa [if_pos ht] at h
  · next ht => rwa [if_neg ht] at h

theorem follows_noteBlock (ts : List PlacedToken) :
    Follows s noteBlock ts (Schema.noteBlock s.endLine ts) := by
  refine (follows_dropNewlines ts).andThen ((follows_noteText _).andThen ?_)
  have h := follows_expectNext (s := s) .closeBrace .noteBrace
    (Schema.noteText (dropNewlines ts)).2
  unfold Schema.noteBlock
  dsimp only
  rcases hts : dropNewlines (Schema.noteText (dropNewlines ts)).2 with _ | ⟨t, rest⟩ <;>
    rw [hts] at h
  · exact h.orFail
  dsimp only at h ⊢
  by_cases ht : t.token = .mark .closeBrace
  · rw [if_pos ht] at h ⊢
    exact h.andThen (.pure _)
  · rw [if_neg ht] at h ⊢
    exact h.orFail

theorem follows_startsRef (t : PlacedToken) (ts : List PlacedToken) :
    Follows s startsRef (t :: ts) (.ok (Schema.startsRef ts, t :: ts)) := by
  refine (Follows.peekAt 1).andThen ((Follows.peekAt 2).andThen ?_)
  cases ts with
  | nil => exact .pure _
  | cons u ts => exact .pure _

theorem follows_readItem (opened : Nat) (t : PlacedToken) (ts : List PlacedToken) :
    Follows s (item opened) (t :: ts) (readItem s.endLine opened t ts) := by
  rw [readItem_eq]
  have hnext : peek (List.drop 1 (t :: ts)) = peek ts := rfl
  refine peek_cons.andThen ((Follows.peekAt 1).andThen ((follows_startsRef t ts).andThen ?_))
  rw [hnext]
  split
  · next hnote =>
    refine advance_cons.andThen (Follows.advance.andThen ?_)
    exact (follows_noteText ts.tail).andThen (.pure _)
  split
  · refine advance_cons.andThen (Follows.advance.andThen ?_)
    exact (follows_noteBlock ts.tail).bind fun _ _ => .pure _
  split
  · refine advance_cons.andThen (Follows.advance.andThen ?_)
    exact (follows_readIndexes opened ts.tail).bind fun _ _ => .pure _
  split
  · exact .fail _
  rcases ht : t.token.name? with _ | name
  · exact .fail _
  · exact (follows_readColumn ht ts).bind fun _ _ => .pure _

theorem follows_readItems (opened : Nat) (ts : List PlacedToken) :
    Follows s (rounds (itemRound opened) []) ts (readItems s.endLine opened ts) := by
  refine follows_lineRounds (fun t ts ht => ?_) (fun front => ?_)
    (fun front t ts hline heof => ?_) ts
  · rw [readItems_cons, if_pos ht]
  · exact .failed _ (peek_nil.andThen (ite_neg (by decide) (ite_pos rfl (.throw _))))
      (by rw [readItems])
  by_cases hclose : t.token = .mark .closeBrace
  · exact .done ts (peek_cons.andThen (ite_pos hclose (advance_cons.andThen (.pure _))))
      (by rw [readItems_cons, if_neg hline, if_pos hclose])
  · exact .of_read (fun _ h => peek_cons.andThen (ite_neg hclose (ite_neg heof h)))
      (follows_readItem opened t ts) (fun _ _ h => Nat.lt_succ_of_le (length_readItem h))
      (by rw [readItems_cons, if_neg hline, if_neg hclose])

theorem follows_readShortName (ts : List PlacedToken) :
    Follows s shortName ts (.ok (readShortName ts)) := by
  cases ts with
  | nil => exact peek_nil.andThen (ite_neg (by decide) (.pure _))
  | cons t ts =>
    refine peek_cons.andThen ?_
    dsimp only [readShortName]
    split
    · refine advance_cons.andThen ?_
      rcases hname : qualifiedName ts with _ | ⟨name, rest⟩
      · exact follows_name_none hname
      · exact follows_name_some hname
    · exact .pure _

theorem follows_skipTableSettings (ts : List PlacedToken) :
    Follows s skipTableSettings ts
      (Schema.skipTableSettings ts >>= fun rest => .ok ((), rest)) := by
  cases ts with
  | nil => exact peek_nil.andThen (ite_neg (by decide) (.pure _))
  | cons t ts =>
    refine peek_cons.andThen ?_
    dsimp only [Schema.skipTableSettings]
    split
    · exact follows_dropSettings t ts
    · exact .pure _

theorem follows_readTable (ts : List PlacedToken) :
    Follows s table ts (readTable s.endLine ts) := by
  unfold readTable
  refine Follows.line.andThen ?_
  rcases hname : qualifiedName ts with _ | ⟨name, rest⟩
  · exact (follows_name_none hname).andThen (.throw _)
  refine (follows_name_some hname).andThen ((follows_readShortName rest).andThen ?_)
  refine (follows_skipTableSettings _).skip fun rest => ?_
  refine (follows_expectBrace .tableBrace rest).skip fun rest => ?_
  exact (follows_readItems _ rest).bind fun _ _ => .pure _

end Mockup.Schema.Cursor
