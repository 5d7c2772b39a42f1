import Mockup.Proofs.Schema.Cursor.Tables
import Mockup.Proofs.Schema.Lexer
import Mockup.Proofs.Schema.Written

/-!
# Whole texts at a cursor

The walks at a cursor follow the readers.

* `follows_readEnum`: enumerations, where the walk steps back to settings;
* `follows_skipBraces`, `follows_skipStatement`: statements of other kinds, with their block;
* `follows_schema`: all statements of a text;
* `parse_at_cursor`: the walk over any text ends, with the answer of `Schema.parse` and a sound
  trail.
-/

namespace Mockup.Schema.Cursor

open Loop (rounds)
open Follows (rounds_done rounds_error rounds_next peek_cons peek_nil advance_cons advance_nil
  ite_pos ite_neg of_ne_eof)

variable {s : TokenStream} {t : PlacedToken}

/-! ### Enumerations -/

theorem follows_enumValues (opened : Nat) (ts : List PlacedToken) :
    Follows s (rounds (valueRound opened) []) ts (enumValues opened ts) := by
  refine follows_rounds (fun front => ?_) (fun front t ts heof => ?_) ts
  · exact .failed _ (advance_nil.andThen (ite_neg (by decide) (ite_neg (by decide)
      (ite_neg (by decide) (ite_pos rfl (.throw _)))))) (by rw [enumValues])
  have hR := enumValues_cons opened t ts
  by_cases hclose : t.token = .mark .closeBrace
  · rw [if_pos hclose] at hR
    exact .done ts (advance_cons.andThen (ite_pos hclose (.pure _))) hR
  rw [if_neg hclose] at hR
  by_cases hgap : t.token = .mark .comma ∨ t.token = .newline
  · rw [if_pos hgap] at hR
    exact .skipped ts (advance_cons.andThen (ite_neg hclose (ite_pos hgap (.pure _))))
      (Nat.lt_succ_self _) hR
  rw [if_neg hgap] at hR
  by_cases hopen : t.token = .mark .openBracket
  · rw [if_pos hopen] at hR
    -- the bracket was consumed, and the walk goes back to it before the settings are skipped
    have hback : ∀ r, Follows s (do skipSettings; return .inl front) (t :: ts) r →
        Follows s (valueRound opened front) (t :: ts) r := fun r h =>
      .stepBack (by rw [if_neg hclose, if_neg hgap, if_pos hopen]) h
    exact .of_skip hback (follows_dropSettings t ts)
      (fun _ h => Nat.lt_succ_of_lt (length_dropSettings h)) hR
  · rw [if_neg hopen] at hR
    exact .added t.token.content ts (advance_cons.andThen (ite_neg hclose (ite_neg hgap
      (ite_neg hopen (ite_neg heof (.pure _)))))) (Nat.lt_succ_self _) hR

theorem follows_readEnum (ts : List PlacedToken) :
    Follows s enum ts (readEnum s.endLine ts) := by
  unfold readEnum
  refine Follows.line.andThen ?_
  rcases hname : qualifiedName ts with _ | ⟨name, rest⟩
  · exact (follows_name_none hname).andThen (.fail _)
  refine (follows_name_some hname).andThen ?_
  refine (follows_expectBrace .enumBrace rest).skip fun rest => ?_
  exact (follows_enumValues _ rest).bind fun _ _ => .pure _

/-! ### Other statements -/

theorem follows_skipBraces_rest (start : Nat) {depth : Nat} (hdepth : 1 ≤ depth)
    (ts : List PlacedToken) :
    Follows s (rounds (blockRound start) depth) ts
      (skipBraces start depth ts >>= fun rest => .ok ((), rest)) := by
  induction ts generalizing depth with
  | nil =>
    exact rounds_error (advance_nil.andThen (ite_neg (by decide) (ite_neg (by decide)
      (ite_pos rfl (.throw _)))))
  | cons t ts ih =>
    refine of_ne_eof fun hne => ?_
    have heof : t.token ≠ .eof := hne t List.mem_cons_self
    unfold skipBraces
    split
    · next hopen =>
      exact rounds_next (advance_cons.andThen (ite_pos hopen (.pure _))) (Nat.lt_succ_self _)
        (ih (Nat.le_add_left 1 depth))
    next hopen =>
    split
    · next hclose =>
      split
      · next hone =>
        refine rounds_done (advance_cons.andThen (ite_neg hopen (ite_pos hclose ?_)))
        exact (Follows.closedBrace hdepth).andThen (ite_pos (by omega) (.pure _))
      · next hone =>
        have hleft : 1 ≤ depth - 1 := by omega
        refine rounds_next (advance_cons.andThen (ite_neg hopen (ite_pos hclose ?_)))
          (Nat.lt_succ_self _) (ih hleft)
        exact (Follows.closedBrace hdepth).andThen (ite_neg (by omega) (.pure _))
    · next hclose =>
      exact rounds_next (advance_cons.andThen (ite_neg hopen (ite_neg hclose
        (ite_neg heof (.pure _))))) (Nat.lt_succ_self _) (ih hdepth)

/-- The brace of a block is the first one that is counted. -/
theorem follows_skipBraces (start : Nat) (ht : t.token = .mark .openBrace)
    (ts : List PlacedToken) :
    Follows s (skipBlock start) (t :: ts)
      (skipBraces start 1 ts >>= fun rest => .ok ((), rest)) := by
  refine (Follows.enteredBlock ht).andThen ?_
  exact rounds_next (advance_cons.andThen (ite_pos ht (.pure _))) (Nat.lt_succ_self _)
    (follows_skipBraces_rest start (Nat.le_refl 1) ts)

theorem follows_skipStatement_rest (start : Nat) (ts : List PlacedToken) :
    Follows s (rounds (skipRound start) ()) ts
      (Schema.skipStatement start ts >>= fun rest => .ok ((), rest)) := by
  induction ts with
  | nil => exact rounds_done (peek_nil.andThen (ite_pos (by decide) (.pure _)))
  | cons t ts ih =>
    refine of_ne_eof fun hne => ?_
    have heof : t.token ≠ .eof := hne t List.mem_cons_self
    unfold Schema.skipStatement
    split
    · next hline => exact rounds_done (peek_cons.andThen (ite_pos (.inl hline) (.pure _)))
    next hline =>
    have hgo := not_or.2 ⟨hline, heof⟩
    split
    · next hopen =>
      have hblock := follows_skipBraces (s := s) start hopen ts
      rcases hb : skipBraces start 1 ts with e | rest <;> rw [hb] at hblock
      · exact rounds_error (peek_cons.andThen (ite_neg hgo (ite_pos hopen hblock.orFail)))
      · exact rounds_done (peek_cons.andThen (ite_neg hgo (ite_pos hopen
          (hblock.andThen (.pure _)))))
    · next hopen =>
      exact rounds_next (peek_cons.andThen (ite_neg hgo (ite_neg hopen
        (advance_cons.andThen (.pure _))))) (Nat.lt_succ_self _) ih

theorem follows_skipStatement (t : PlacedToken) (ts : List PlacedToken) :
    Follows s skipStatement (t :: ts)
      (Schema.skipStatement t.line (t :: ts) >>= fun rest => .ok ((), rest)) :=
  Follows.line.andThen (follows_skipStatement_rest t.line (t :: ts))

/-! ### Whole texts -/

theorem follows_readStatement (t : PlacedToken) (ts : List PlacedToken) :
    Follows s statement (t :: ts) (readStatement s.endLine t ts) := by
  rw [readStatement_eq]
  refine peek_cons.andThen ?_
  split
  · exact advance_cons.andThen (follows_readTable ts)
  split
  · exact advance_cons.andThen ((follows_readRefs ts).bind fun _ _ => .pure _)
  split
  · exact advance_cons.andThen (follows_readEnum ts)
  · exact (follows_skipStatement t ts).skip fun _ => .pure _

theorem follows_readStatements (ts : List PlacedToken) :
    Follows s (rounds statementRound []) ts
      (readStatements s.endLine ts >>= fun statements => .ok (statements, [])) := by
  refine follows_lineRounds (R := fun ts => readStatements s.endLine ts >>= fun ss => .ok (ss, []))
    (fun t ts ht => ?_) (fun front => ?_) (fun front t ts hline heof => ?_) ts
  · rw [readStatements_cons, if_pos ht]
  · exact .done [] (peek_nil.andThen (ite_pos rfl (.pure _))) (by rw [readStatements]; rfl)
  · refine .of_read (fun _ h => peek_cons.andThen (ite_neg heof h)) (follows_readStatement t ts)
      (fun _ _ h => length_readStatement hline h) ?_
    -- the reader of all statements leaves no tokens, and so does not name them
    dsimp only
    rw [readStatements_cons, if_neg hline]
    rcases readStatement s.endLine t ts with _ | ⟨statement, rest⟩
    · rfl
    · change (_ <$> readStatements s.endLine rest) >>= _
        = (readStatements s.endLine rest >>= _) >>= _
      cases readStatements s.endLine rest <;> rfl

theorem follows_schema (ts : List PlacedToken) :
    Follows s schema ts
      (readStatements s.endLine ts >>= fun statements => .ok (ofStatements statements, [])) := by
  have h := follows_readStatements (s := s) ts
  rcases hr : readStatements s.endLine ts with e | statements <;> rw [hr] at h
  · exact h.orFail
  · exact h.andThen (.pure _)

/-- The walk over the tokens of a text starts before all of them. -/
theorem At.start {text : String} (h : scan text = .ok s) : At s s.tokens [] where
  sound := trivial
  drop_eq := rfl
  ne_eof := by
    intro t ht heof
    have hlexeme := isLexeme_of_mem_scan h t ht
    rw [heof] at hlexeme
    cases hlexeme

theorem exists_run_schema {text : String} (h : scan text = .ok s) :
    ∃ trail, run s.toList schema [] = some (Schema.parse text, trail) ∧ Sound s.toList trail := by
  have hparse : Schema.parse text = ofStatements <$> readStatements s.endLine s.tokens := by
    rw [Schema.parse, h]; rfl
  have hends := follows_schema s.tokens [] (At.start h)
  rw [hparse]
  generalize run s.toList schema [] = o at hends ⊢
  rcases hread : readStatements s.endLine s.tokens with e | statements <;> rw [hread] at hends
  · cases hends with
    | error hsound => exact ⟨_, rfl, hsound⟩
  · cases hends with
    | ok hat => exact ⟨_, rfl, hat.sound⟩

/-- Whatever the text, the walk over its tokens comes to an end, and answers what the readers do.
At no point does it stand further than behind the last token.  On its trail, a block that is skipped
is entered at a brace, and the counter of open braces is at least one where it is lowered; a step
back undoes the step by which a token was just consumed; and every round after which a loop goes on
has moved the cursor forward. -/
theorem parse_at_cursor (text : String) :
    ∃ trail, Cursor.parse text = some (Schema.parse text, trail) ∧
      ∀ tokens, tokenize text = .ok tokens →
        Sound tokens trail ∧ ∀ earlier, earlier <:+ trail → position earlier ≤ tokens.length := by
  rcases hscan : scan text with e | s
  · have htokens : tokenize text = .error e := by rw [tokenize, hscan]; rfl
    have hparse : Schema.parse text = .error e := by rw [Schema.parse, hscan]; rfl
    refine ⟨[], by rw [parse, htokens, hparse], fun tokens h => ?_⟩
    rw [htokens] at h
    cases h
  · have htokens : tokenize text = .ok s.toList := by rw [tokenize, hscan]; rfl
    obtain ⟨trail, hrun, hsound⟩ := exists_run_schema hscan
    refine ⟨trail, by rw [parse, htokens]; exact hrun, fun tokens h => ?_⟩
    cases htokens.symm.trans h
    exact ⟨hsound, fun _ hearlier => (hsound.of_suffix hearlier).position_le⟩

/-- A block inside of a block is skipped, and the text ends in settings to which the walk goes
back. -/
def cutText : String := "p\x7b\x7b\x7d\x7d\nEnum e\x7b[a"

/-- The tokens of that text. -/
def cutTokens : List PlacedToken :=
  [⟨.ident "p", 1⟩, ⟨.mark .openBrace, 1⟩, ⟨.mark .openBrace, 1⟩, ⟨.mark .closeBrace, 1⟩,
    ⟨.mark .closeBrace, 1⟩, ⟨.newline, 1⟩, ⟨.ident "Enum", 2⟩, ⟨.ident "e", 2⟩,
    ⟨.mark .openBrace, 2⟩, ⟨.mark .openBracket, 2⟩, ⟨.ident "a", 2⟩, ⟨.eof, 2⟩]

theorem parse_at_cursor_cut :
    ∃ trail, Cursor.parse cutText = some (.error ⟨2, .unterminatedBlock .settings⟩, trail) ∧
      tokenize cutText = .ok cutTokens ∧ Sound cutTokens trail ∧
      ∀ earlier, earlier <:+ trail → position earlier ≤ 12 := by
  have htokens : tokenize cutText = .ok cutTokens := eq_ok_of_toOption (by decide +kernel)
  have hparse : Schema.parse cutText = .error ⟨2, .unterminatedBlock .settings⟩ := by
    decide +kernel
  obtain ⟨trail, hwalk, htrail⟩ := parse_at_cursor cutText
  obtain ⟨hsound, hposition⟩ := htrail cutTokens htokens
  exact ⟨trail, by rw [hwalk, hparse], htokens, hsound, hposition⟩

end Mockup.Schema.Cursor
