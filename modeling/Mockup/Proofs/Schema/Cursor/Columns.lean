import Mockup.Proofs.Schema.Cursor.Rules

/-!
# Names, settings, references and columns at a cursor

The walks at a cursor follow the readers.

* `Gathers.of_newlines`, `follows_lineRounds`: loops each round of which starts behind line ends;
* `follows_dropSettings`, `follows_settingGroups`: settings that are skipped, and that are read;
* `follows_entryRounds`: lists in parentheses, which are closed on their line;
* `follows_readRefs`: references, on a line or in a block;
* `follows_readColumn`: columns.
-/

namespace Mockup.Schema.Cursor

open Loop (rounds)
open Follows (rounds_done rounds_error rounds_next peek_cons peek_nil advance_cons advance_nil
  ite_pos ite_neg of_ne_eof)

variable {s : TokenStream} {t : PlacedToken} {ts rest : List PlacedToken} {α : Type}

/-! ### Names and settings -/

theorem follows_dropNewlines (ts : List PlacedToken) :
    Follows s skipNewlines ts (.ok ((), dropNewlines ts)) := by
  induction ts with
  | nil => exact rounds_done (peek_nil.andThen (ite_neg (by decide) (.pure _)))
  | cons t ts ih =>
    by_cases ht : t.token = .newline
    · have hdrop : dropNewlines (t :: ts) = dropNewlines ts := by simp [dropNewlines, ht]
      rw [hdrop]
      exact rounds_next (peek_cons.andThen (ite_pos ht (advance_cons.andThen (.pure _))))
        (Nat.lt_succ_self _) ih
    · have hdrop : dropNewlines (t :: ts) = t :: ts := by simp [dropNewlines, ht]
      rw [hdrop]
      exact rounds_done (peek_cons.andThen (ite_neg ht (.pure _)))

/-- A round that starts behind line ends, for a reader that skips them. -/
theorem Gathers.of_newlines {R : List PlacedToken → Except ReadError (List α × List PlacedToken)}
    {body : Loop (List α) (List α)} {front : List α} (hR : R (dropNewlines ts) = R ts)
    (h : Gathers s R body front (dropNewlines ts)) :
    Gathers s R (fun front => skipNewlines >>= fun _ => body front) front ts := by
  have hskip := follows_dropNewlines (s := s) ts
  have hle := length_dropNewlines ts
  cases h with
  | done rest h hR' => exact .done rest (hskip.andThen h) (hR ▸ hR')
  | failed e h hR' => exact .failed e (hskip.andThen h) (hR ▸ hR')
  | skipped rest h hlt hR' => exact .skipped rest (hskip.andThen h) (by omega) (hR ▸ hR')
  | added a rest h hlt hR' => exact .added a rest (hskip.andThen h) (by omega) (hR ▸ hR')

theorem ne_newline_of_dropNewlines (h : dropNewlines ts = t :: rest) : t.token ≠ .newline := by
  have hhead := List.head?_dropWhile_not (·.token == .newline) ts
  rw [show ts.dropWhile (·.token == .newline) = t :: rest from h] at hhead
  simpa using hhead

/-- Skipping line ends one by one skips all of them. -/
theorem reads_dropNewlines {R : List PlacedToken → Except ReadError (List α × List PlacedToken)}
    (hskip : ∀ t ts, t.token = .newline → R (t :: ts) = R ts) (ts : List PlacedToken) :
    R (dropNewlines ts) = R ts := by
  induction ts with
  | nil => rfl
  | cons t ts ih =>
    by_cases ht : t.token = .newline
    · rw [hskip t ts ht, ← ih]
      simp [dropNewlines, ht]
    · simp [dropNewlines, ht]

/-- A loop each round of which starts behind line ends, for a reader that skips them one by one. -/
theorem follows_lineRounds {R : List PlacedToken → Except ReadError (List α × List PlacedToken)}
    {body : Loop (List α) (List α)}
    (hskip : ∀ t ts, t.token = .newline → R (t :: ts) = R ts)
    (hnil : ∀ front, Gathers s R body front [])
    (hcons : ∀ front t ts, t.token ≠ .newline → t.token ≠ .eof → Gathers s R body front (t :: ts))
    (ts : List PlacedToken) :
    Follows s (rounds (fun front => skipNewlines >>= fun _ => body front) []) ts (R ts) := by
  rw [← withFront_nil (R ts)]
  refine follows_gathered (fun front ts hne => .of_newlines (reads_dropNewlines hskip ts) ?_) [] ts
  -- behind line ends there stands nothing, or a token of another kind
  rcases hts : dropNewlines ts with _ | ⟨t, rest⟩
  · exact hnil front
  · have hmem : t ∈ ts := (List.dropWhile_sublist _).mem (hts ▸ List.mem_cons_self)
    exact hcons front t rest (ne_newline_of_dropNewlines hts) (hne t hmem)

theorem follows_expect (m : Mark) (expected : Expectation) (ts : List PlacedToken) :
    Follows s (expect m expected) ts (match ts with
      | t :: rest =>
        if t.token = .mark m then .ok ((), rest) else unexpected s.endLine expected (t :: rest)
      | [] => unexpected s.endLine expected []) := by
  cases ts with
  | nil => exact peek_nil.andThen (ite_neg (by simp) (.fail _))
  | cons t ts =>
    refine peek_cons.andThen ?_
    dsimp only
    split
    · exact advance_cons.andThen (.pure _)
    · exact .fail _

theorem follows_lastSegment (name : String) (ts : List PlacedToken) :
    Follows s (rounds segmentRound name) ts (.ok (lastSegment name ts)) := by
  fun_induction lastSegment name ts with
  | case1 name d t ts hd next hnext ih =>
    have hround : Follows s (segmentRound name) (d :: t :: ts) (.ok (.inl next, ts)) := by
      refine peek_cons.andThen ((Follows.peekAt 1).andThen (ite_pos ⟨hd, ?_⟩ ?_))
      · exact Option.isSome_iff_exists.2 ⟨next, hnext⟩
      · refine advance_cons.andThen (advance_cons.andThen ?_)
        rw [hnext]
        exact .pure _
    exact rounds_next hround (by simp only [List.length_cons]; omega) ih
  | case2 name d t ts hd hnext =>
    refine rounds_done (peek_cons.andThen ((Follows.peekAt 1).andThen
      (ite_neg (fun h => ?_) (.pure _))))
    have hsome : t.token.name?.isSome = true := h.2
    rw [hnext] at hsome
    cases hsome
  | case3 name d t ts hd =>
    exact rounds_done (peek_cons.andThen ((Follows.peekAt 1).andThen
      (ite_neg (fun h => hd h.1) (.pure _))))
  | case4 name ts hshort =>
    refine rounds_done ((Follows.peekAt 0).andThen ((Follows.peekAt 1).andThen
      (ite_neg (fun h => ?_) (.pure _))))
    rcases ts with _ | ⟨d, _ | ⟨t, ts⟩⟩
    · cases h.2
    · cases h.2
    · exact hshort d t ts rfl

theorem follows_name_none (h : qualifiedName ts = none) :
    Follows s name ts (.ok (none, ts)) := by
  cases ts with
  | nil => exact peek_nil.andThen (.pure _)
  | cons t ts =>
    refine peek_cons.andThen ?_
    rw [Option.map_eq_none_iff.1 h]
    exact .pure _

theorem follows_name_some {n : String} (h : qualifiedName ts = some (n, rest)) :
    Follows s name ts (.ok (some n, rest)) := by
  cases ts with
  | nil => cases h
  | cons t ts =>
    obtain ⟨first, hfirst, hlast⟩ := Option.map_eq_some_iff.1 h
    refine peek_cons.andThen ?_
    rw [hfirst]
    exact advance_cons.andThen ((hlast ▸ follows_lastSegment first ts).andThen (.pure _))

theorem follows_dropSettings_rest (opened : Nat) (ts : List PlacedToken) :
    Follows s (rounds (bracketRound opened) ()) ts
      (dropSettings opened ts >>= fun rest => .ok ((), rest)) := by
  induction ts with
  | nil =>
    exact rounds_error (advance_nil.andThen (ite_neg (by decide) (ite_pos rfl (.throw _))))
  | cons t ts ih =>
    -- the reader has no case for the end of the text, since no token before the cursor is that
    refine of_ne_eof fun hne => ?_
    have heof : t.token ≠ .eof := hne t List.mem_cons_self
    unfold dropSettings
    split
    · next ht => exact rounds_done (advance_cons.andThen (ite_pos ht (.pure _)))
    · next ht =>
      exact rounds_next (advance_cons.andThen (ite_neg ht (ite_neg heof (.pure _))))
        (Nat.lt_succ_self _) ih

theorem follows_dropSettings (t : PlacedToken) (ts : List PlacedToken) :
    Follows s skipSettings (t :: ts) (dropSettings t.line ts >>= fun rest => .ok ((), rest)) :=
  Follows.line.andThen (advance_cons.andThen (follows_dropSettings_rest t.line ts))

theorem pushGroup_eq_append (group : List Token) (groups : List (List Token)) :
    pushGroup group groups = pushGroup group [] ++ groups := by
  unfold pushGroup
  split <;> rfl

theorem follows_settingGroups_rest (opened depth : Nat) (groups : List (List Token))
    (current : List Token) (ts : List PlacedToken) :
    Follows s (rounds (groupRound opened) (groups, current, depth)) ts
      (withFront groups (settingGroups opened depth current ts)) := by
  -- for all groups at once: a comma puts the current one to those before it
  induction ts generalizing groups current depth with
  | nil =>
    refine rounds_error (advance_nil.andThen ?_)
    exact ite_neg (by simp) (ite_neg (by simp) (ite_neg (by simp) (ite_pos rfl (.throw _))))
  | cons t ts ih =>
    refine of_ne_eof fun hne => ?_
    have heof : t.token ≠ .eof := hne t List.mem_cons_self
    unfold settingGroups
    split
    · next hclose => exact rounds_done (advance_cons.andThen (ite_pos hclose (.pure _)))
    next hclose =>
    split
    · next hcomma =>
      have hpush : withFront groups (settingGroups opened 0 [] ts >>= fun p =>
            .ok (pushGroup current p.1, p.2))
          = withFront (groups ++ pushGroup current []) (settingGroups opened 0 [] ts) := by
        rw [← withFront_append]
        simp only [← pushGroup_eq_append current]
      have hrest := ih 0 (groups ++ pushGroup current []) []
      rw [← hpush] at hrest
      exact rounds_next (advance_cons.andThen (ite_neg hclose (ite_pos hcomma (.pure _))))
        (Nat.lt_succ_self _) hrest
    next hcomma =>
    split
    · next hline =>
      exact rounds_next (advance_cons.andThen (ite_neg hclose (ite_neg hcomma
        (ite_pos hline (.pure _))))) (Nat.lt_succ_self _) (ih depth groups current)
    · next hline =>
      exact rounds_next (advance_cons.andThen (ite_neg hclose (ite_neg hcomma
        (ite_neg hline (ite_neg heof (.pure _)))))) (Nat.lt_succ_self _) (ih _ groups _)

theorem follows_settingGroups (t : PlacedToken) (ts : List PlacedToken) :
    Follows s settings (t :: ts) (settingGroups t.line 0 [] ts) := by
  have h := follows_settingGroups_rest (s := s) t.line 0 [] [] ts
  rw [withFront_nil] at h
  exact Follows.line.andThen (advance_cons.andThen h)

/-! ### References -/

theorem follows_refTokens (ts : List PlacedToken) :
    Follows s (rounds refTokenRound []) ts (refTokens ts) := by
  refine follows_rounds (fun front => ?_) (fun front t ts heof => ?_) ts
  · exact .done [] (peek_nil.andThen (ite_pos (by decide) (.pure _))) (by rw [refTokens])
  have hR := refTokens_cons t ts
  by_cases hend : endsLine t.token = true
  · rw [if_pos hend] at hR
    refine .done _ (peek_cons.andThen (ite_pos ?_ (.pure _))) hR
    exact (endsLine_iff.1 hend).imp_right .inr
  rw [if_neg hend] at hR
  have hend' : ¬ (t.token = .newline ∨ t.token = .eof ∨ t.token = .mark .closeBrace) := by
    simpa [endsLine_iff, heof] using hend
  by_cases hopen : t.token = .mark .openBracket
  · rw [if_pos hopen] at hR
    exact .of_skip (fun _ h => peek_cons.andThen (ite_neg hend' (ite_pos hopen h)))
      (follows_dropSettings t ts) (fun _ h => Nat.lt_succ_of_lt (length_dropSettings h)) hR
  · rw [if_neg hopen] at hR
    exact .added t.token ts (peek_cons.andThen (ite_neg hend' (ite_neg hopen
      (advance_cons.andThen (.pure _))))) (Nat.lt_succ_self _) hR

theorem follows_refLine (ts : List PlacedToken) :
    Follows s refLine ts (Schema.refLine s.endLine ts) := by
  rw [refLine_eq]
  refine Follows.line.andThen ((follows_refTokens ts).bind fun tokens rest => ?_)
  exact .ofExcept _

theorem follows_refBlock (opened : Nat) (ts : List PlacedToken) :
    Follows s (rounds (refRound opened) []) ts (refBlock s.endLine opened ts) := by
  refine follows_lineRounds (fun t ts ht => ?_) (fun front => ?_)
    (fun front t ts hline heof => ?_) ts
  · rw [refBlock_cons, if_pos ht]
  · exact .failed _ (peek_nil.andThen (ite_neg (by decide) (ite_pos rfl (.throw _))))
      (by rw [refBlock])
  have hR := refBlock_cons s.endLine opened t ts
  rw [if_neg hline] at hR
  by_cases hclose : t.token = .mark .closeBrace
  · rw [if_pos hclose] at hR
    exact .done ts (peek_cons.andThen (ite_pos hclose (advance_cons.andThen (.pure _)))) hR
  rw [if_neg hclose] at hR
  have hends : endsLine t.token = false := by
    rw [← Bool.not_eq_true, endsLine_iff]
    exact fun h => h.elim hline hclose
  exact .of_read (fun _ h => peek_cons.andThen (ite_neg hclose (ite_neg heof h)))
    (follows_refLine (t :: ts)) (fun _ _ h => length_refLine_lt hends h) hR

theorem follows_skipName (ts : List PlacedToken) :
    Follows s skipName ts (.ok ((), Schema.skipName ts)) := by
  cases ts with
  | nil => exact peek_nil.andThen (ite_neg (by decide) (.pure _))
  | cons t ts =>
    refine peek_cons.andThen ?_
    dsimp only [Schema.skipName]
    split
    · exact advance_cons.andThen (.pure _)
    · exact .pure _

theorem follows_readRefs (ts : List PlacedToken) :
    Follows s refs ts (readRefs s.endLine ts) := by
  refine (follows_skipName ts).andThen ?_
  unfold readRefs
  rcases Schema.skipName ts with _ | ⟨t, rest⟩
  · exact peek_nil.andThen (ite_neg (by decide) (ite_neg (by decide) (.fail _)))
  refine peek_cons.andThen ?_
  dsimp only
  split
  · exact advance_cons.andThen ((follows_refLine rest).bind fun _ _ => .pure _)
  split
  · exact Follows.line.andThen (advance_cons.andThen (follows_refBlock t.line rest))
  · exact .fail _

/-! ### Columns -/

/-- The loop over the entries of a list in parentheses, for a reader that goes over them one by one
and fails where the line or the text ends. -/
theorem follows_entryRounds {textOf : Token → String}
    {unclosed : Walk (List String ⊕ List String)}
    {R : List PlacedToken → Except ReadError (List String × List PlacedToken)}
    {fault : List PlacedToken → ReadError}
    (hunclosed : ∀ ts, Follows s unclosed ts (.error (fault ts))) (hnil : R [] = .error (fault []))
    (hcons : ∀ t ts, R (t :: ts) =
      if t.token = .mark .closeParen then .ok ([], ts)
      else if t.token = .newline then .error (fault ts)
      else if t.token = .mark .comma then R ts
      else do
        let (entries, rest) ← R ts
        return (textOf t.token :: entries, rest))
    (ts : List PlacedToken) : Follows s (rounds (entryRound textOf unclosed) []) ts (R ts) := by
  refine follows_rounds (fun front => ?_) (fun front t ts heof => ?_) ts
  · exact .failed _ (advance_nil.andThen (ite_neg (by decide) (ite_neg (by decide)
      (ite_pos (by decide) (hunclosed []))))) hnil
  have hR := hcons t ts
  by_cases hclose : t.token = .mark .closeParen
  · rw [if_pos hclose] at hR
    exact .done ts (advance_cons.andThen (ite_pos hclose (.pure _))) hR
  rw [if_neg hclose] at hR
  by_cases hline : t.token = .newline
  · rw [if_pos hline] at hR
    exact .failed _ (advance_cons.andThen (ite_neg hclose (ite_neg (by rw [hline]; decide)
      (ite_pos (.inl hline) (hunclosed ts))))) hR
  rw [if_neg hline] at hR
  by_cases hcomma : t.token = .mark .comma
  · rw [if_pos hcomma] at hR
    exact .skipped ts (advance_cons.andThen (ite_neg hclose (ite_pos hcomma (.pure _))))
      (Nat.lt_succ_self _) hR
  · rw [if_neg hcomma] at hR
    exact .added (textOf t.token) ts (advance_cons.andThen (ite_neg hclose (ite_neg hcomma
      (ite_neg (not_or.2 ⟨hline, heof⟩) (.pure _))))) (Nat.lt_succ_self _) hR

theorem follows_typeArguments (start : Nat) (ts : List PlacedToken) :
    Follows s (rounds (argumentRound start) []) ts (typeArguments start ts) :=
  follows_entryRounds (fun _ => .throw _) rfl (fun _ _ => by rw [typeArguments]) ts

theorem follows_readType (start : Nat) (column : String) (ts : List PlacedToken) :
    Follows s (dataType start column) ts (readType start column ts) := by
  unfold readType
  rcases hname : qualifiedName ts with _ | ⟨name, rest⟩
  · exact (follows_name_none hname).andThen (.throw _)
  refine (follows_name_some hname).andThen ?_
  rcases rest with _ | ⟨t, rest⟩
  · exact peek_nil.andThen (ite_neg (by decide) (.pure _))
  refine peek_cons.andThen ?_
  dsimp only
  split
  · exact advance_cons.andThen ((follows_typeArguments start rest).bind fun _ _ => .pure _)
  · exact .pure _

theorem follows_bareConstraint (c : Column) (word : String) (ts : List PlacedToken) :
    Follows s (constraint c word) ts (.ok (bareConstraint c word ts)) := by
  refine (Follows.peekAt 0).andThen ?_
  rw [List.drop_zero]
  unfold bareConstraint
  dsimp only
  split
  · exact Follows.advance.andThen (.pure _)
  split
  · exact Follows.advance.andThen (.pure _)
  · exact .pure _

theorem follows_columnTail (start : Nat) (d : ColumnDraft) (ts : List PlacedToken) :
    Follows s (rounds (constraintRound start) d) ts (columnTail s.endLine start d ts) := by
  -- one case for each way through the reader: the end, settings that are wrong in themselves or in
  -- what they say, settings, a word, and anything else
  fun_induction columnTail s.endLine start d ts with
  | case1 d => exact rounds_done (peek_nil.andThen (ite_pos (by decide) (.pure _)))
  | case2 d t ts hend =>
    refine rounds_done (peek_cons.andThen (ite_pos ?_ (.pure _)))
    exact (endsLine_iff.1 hend).imp_right .inr
  | case3 d t ts hend hopen e hg =>
    have hread := hg ▸ follows_settingGroups (s := s) t ts
    refine rounds_error (peek_cons.andThen ?_)
    rw [hopen]
    exact ite_neg (by decide) hread.orFail
  | case4 d t ts hend hopen groups rest hg e ha =>
    have hread := hg ▸ follows_settingGroups (s := s) t ts
    refine rounds_error (peek_cons.andThen ?_)
    rw [hopen]
    refine ite_neg (by decide) (hread.andThen ?_)
    rw [ha]
    exact (Follows.throw e).orFail
  | case5 d t ts hend hopen groups rest hg d' ha ih =>
    have hread := hg ▸ follows_settingGroups (s := s) t ts
    have hround : Follows s (constraintRound start d) (t :: ts) (.ok (.inl d', rest)) := by
      refine peek_cons.andThen ?_
      rw [hopen]
      refine ite_neg (by decide) (hread.andThen ?_)
      rw [ha]
      exact (Follows.pure d').andThen (.pure _)
    exact rounds_next hround (Nat.lt_succ_of_lt (length_settingGroups hg)) ih
  | case6 d t ts hend word hword next ih =>
    have hround : Follows s (constraintRound start d) (t :: ts)
        (.ok (.inl { d with column := next.1 }, next.2)) := by
      refine peek_cons.andThen ?_
      rw [hword]
      refine ite_neg (by simp) (advance_cons.andThen ?_)
      exact (follows_bareConstraint d.column word ts).andThen (.pure _)
    exact rounds_next hround (Nat.lt_succ_of_le (length_bareConstraint d.column word ts)) ih
  | case7 d t ts hend hopen hword =>
    refine of_ne_eof fun hne => rounds_error (peek_cons.andThen ?_)
    have heof : t.token ≠ .eof := hne t List.mem_cons_self
    refine ite_neg (by simpa [endsLine_iff, heof] using hend) ?_
    split
    · next h => exact (hopen h).elim
    · next h => exact (hword _ h).elim
    · exact .fail _

theorem follows_readColumn {name : String} (ht : t.token.name? = some name)
    (ts : List PlacedToken) :
    Follows s column (t :: ts) (readColumn s.endLine t.line name ts) := by
  rw [readColumn_eq]
  refine Follows.line.andThen (advance_cons.andThen ?_)
  rw [ht]
  exact (follows_readType t.line name ts).bind fun _ rest => follows_columnTail t.line _ rest

end Mockup.Schema.Cursor
