import Mathlib.Data.List.TakeWhile
import Mathlib.Tactic.MkIffOfInductiveProp
import Mockup.Proofs.Schema.Lines
import Mockup.Proofs.Schema.Places
import Mockup.Schema.Review

/-!
# References in the midst of a table

A review counts the braces of each line as characters, while the parser reads tokens.  Where the
lines of a text show its tokens, both count the same blocks; so a text that is parsed has no
reference in the midst of a table for the review either.  A brace in a literal or in a comment can
lead the review astray, and so can a line of settings that starts with a reference.

* `isRow`: the rows of tokens that open at most one block, and close at most one;
* `Nesting`: the open braces after some tokens, and whether they are those of a table that the text
  shows;
* `Nesting.Starts`, `Nesting.Shows`: the text of a line agrees with its tokens;
* `LaidOut`: every line of a text does so; a row may go over several lines within its settings;
* `Tracks`: the review, the tokens and the parser agree, with `Tracks.hold` and `Tracks.next` for
  one line;
* `review_flaw_ne_nestedReference`: the parser and the review agree on misplaced references.
-/

namespace Mockup.Schema

/-! ### Rows of tokens -/

/-- The number of tokens that are this mark. -/
def countMark (m : Mark) (ts : List PlacedToken) : Nat :=
  ts.countP (·.token == .mark m)

/-- A clause, possibly before the brace that closes its block. -/
def mayClose (ts : List PlacedToken) : Bool :=
  isClause ts || isClause ts.dropLast && ts.getLast?.any (·.token == .mark .closeBrace)

/-- The tokens before the first opening brace. -/
def beforeBrace (ts : List PlacedToken) : List PlacedToken :=
  ts.takeWhile (·.token != .mark .openBrace)

/-- The row opens at most one block, and closes at most one, at its end. -/
def isRow (ts : List PlacedToken) : Bool :=
  match ts.dropWhile (·.token != .mark .openBrace) with
  | [] => mayClose ts
  | _ :: block => isClause (beforeBrace ts) && mayClose block

/-- The row is a declaration of references, as opposed to a column of that name. -/
def declaresRef : List PlacedToken → Bool
  | [] => false
  | t :: ts => t.token.isKeyword "ref" && startsRef ts

/-- The last bracket of the tokens opens settings. -/
def leavesOpen (ts : List PlacedToken) : Bool :=
  (ts.reverse.find? fun t => t.token == .mark .openBracket || t.token == .mark .closeBracket).any
    (·.token == .mark .openBracket)

section Rows

variable {last : Nat} {place : Place} {ts us tail : List PlacedToken}

theorem countMark_cons_self (m : Mark) (line : Nat) (ts : List PlacedToken) :
    countMark m (⟨.mark m, line⟩ :: ts) = countMark m ts + 1 :=
  List.countP_cons_of_pos (beq_self_eq_true _)

theorem countMark_cons_of_ne {m m' : Mark} (h : m' ≠ m) (line : Nat) (ts : List PlacedToken) :
    countMark m (⟨.mark m', line⟩ :: ts) = countMark m ts :=
  List.countP_cons_of_neg (by simpa using h)

theorem countMark_clause {m : Mark} (hm : isBound (.mark m) = true) (h : isClause ts = true) :
    countMark m ts = 0 := by
  refine List.countP_eq_zero.2 fun u hu => ?_
  rw [beq_iff_eq]
  obtain ⟨hopen, hclose⟩ := noBrace_of_isClause h u hu
  cases m <;> first | exact hopen | exact hclose | cases hm

theorem countMark_clause_append {m : Mark} (hm : isBound (.mark m) = true) (h : isClause ts = true)
    (us : List PlacedToken) : countMark m (ts ++ us) = countMark m us := by
  rw [countMark, List.countP_append]
  exact (congrArg (· + _) (countMark_clause hm h)).trans (Nat.zero_add _)

theorem mayClose_cases (h : mayClose ts = true) : isClause ts = true ∨
    ∃ us line, ts = us ++ [⟨.mark .closeBrace, line⟩] ∧ isClause us = true := by
  rw [mayClose, Bool.or_eq_true, Bool.and_eq_true] at h
  refine h.imp_right fun ⟨hclause, hlast⟩ => ?_
  obtain ⟨t, ht, hclose⟩ := (Option.any_eq_true _ _).1 hlast
  obtain ⟨us, rfl⟩ := List.getLast?_eq_some_iff.1 ht
  rw [List.dropLast_concat] at hclause
  exact ⟨us, t.line, by rw [← beq_iff_eq.1 hclose], hclause⟩

theorem countMark_openBrace_of_mayClose (h : mayClose ts = true) : countMark .openBrace ts = 0 := by
  rcases mayClose_cases h with hclause | ⟨us, line, rfl, hclause⟩
  · exact countMark_clause rfl hclause
  · exact countMark_clause_append rfl hclause _

theorem beforeBrace_of_mayClose (h : mayClose ts = true) : beforeBrace ts = ts := by
  refine List.takeWhile_eq_self_iff.2 fun u hu => ?_
  have hnone := List.countP_eq_zero.1 (countMark_openBrace_of_mayClose h) u hu
  simpa using hnone

theorem isRow_cases (h : isRow ts = true) : mayClose ts = true ∨
    ∃ us line block, ts = us ++ ⟨.mark .openBrace, line⟩ :: block ∧ beforeBrace ts = us ∧
      isClause us = true ∧ mayClose block = true := by
  unfold isRow at h
  split at h
  · exact .inl h
  · next t block hsplit =>
    rw [Bool.and_eq_true] at h
    obtain ⟨hopen, hts⟩ := eq_append_of_dropWhile hsplit
    have ht : (⟨.mark .openBrace, t.line⟩ : PlacedToken) = t := by rw [← hopen]
    exact .inr ⟨_, t.line, block, by rwa [ht], rfl, h⟩

theorem countMark_openBrace_le (h : isRow ts = true) : countMark .openBrace ts ≤ 1 := by
  rcases isRow_cases h with hclose | ⟨us, line, block, rfl, -, hclause, hclose⟩
  · rw [countMark_openBrace_of_mayClose hclose]
    exact Nat.zero_le 1
  · rw [countMark_clause_append rfl hclause, countMark_cons_self,
      countMark_openBrace_of_mayClose hclose]

theorem startsRef_append (h : startsRef ts = true) : startsRef (ts ++ tail) = true := by
  match ts, h with
  | [t], h =>
    have hpeek : opensRef (peek []) = false := rfl
    rw [startsRef, hpeek, Bool.and_false, Bool.or_false] at h
    rw [List.singleton_append, startsRef, h, Bool.true_or]
  | _ :: _ :: _, h => exact h

theorem startsWith_append {word : String} (h : startsWith word ts = true) (us : List PlacedToken) :
    startsWith word (ts ++ us) = true := by
  cases ts with
  | nil => cases h
  | cons t ts => exact h

theorem startsWith_of_append_brace {word : String} {line : Nat} {block : List PlacedToken}
    (h : startsWith word (us ++ ⟨.mark .openBrace, line⟩ :: block) = true) :
    startsWith word us = true := by
  cases us with
  | nil => cases h
  | cons u us => exact h

/-! ### Rows and places -/

namespace Pending

/-- A row that may close a block, but opens none. -/
theorem closing (h : Pending last place (ts ++ tail)) (hrow : mayClose ts = true)
    (hnamed : place.depth = 0 →
      isSettled ts = true ∨ startsWith "table" ts = true ∨ startsWith "ref" ts = true)
    (hstop : ts ≠ [] → Stops tail) (hdepth : countMark .closeBrace ts ≤ place.depth) :
    ∃ place', place.Leads 0 (countMark .closeBrace ts) place' ∧
      (place.depth = 0 → startsWith "table" ts = true → place'.inTable = true) ∧
      Pending last place' tail := by
  rcases mayClose_cases hrow with hclause | ⟨us, line, rfl, hclause⟩
  · rw [countMark_clause rfl hclause]
    exact h.clause hclause hnamed hstop
  · have hcount : countMark .closeBrace (us ++ [⟨.mark .closeBrace, line⟩]) = 1 :=
      countMark_clause_append rfl hclause _
    rw [hcount] at hdepth ⊢
    rw [List.append_assoc, List.singleton_append] at h
    obtain ⟨q, hq, -, hpending⟩ :=
      h.clause hclause (fun hzero => by omega) fun _ => stops_cons.2 rfl
    have hqdepth : q.depth = place.depth := hq.depth_add
    obtain ⟨r, hr, hpending⟩ := hpending.closeBrace (by omega)
    exact ⟨r, hq.trans hr, fun hzero => by omega, hpending⟩

/-- A row opens and closes as many blocks as it has braces. -/
theorem row (h : Pending last place (ts ++ tail)) (hrow : isRow ts = true)
    (hnamed : place.depth = 0 →
      isSettled (beforeBrace ts) = true ∨ startsWith "table" ts = true ∨ startsWith "ref" ts = true)
    (hstop : ts ≠ [] → Stops tail)
    (hnests : 0 < countMark .openBrace ts →
      place.depth = 0 ∨ place.depth = 1 ∧ place.inTable = true)
    (hdepth : countMark .closeBrace ts ≤ place.depth + countMark .openBrace ts) :
    ∃ place', place.Leads (countMark .openBrace ts) (countMark .closeBrace ts) place' ∧
      (place.depth = 0 → startsWith "table" ts = true →
        countMark .closeBrace ts = 0 ∨ 0 < place'.depth → place'.inTable = true) ∧
      Pending last place' tail := by
  rcases isRow_cases hrow with hclose | ⟨us, line, block, rfl, hbefore, hclause, hclose⟩
  · rw [beforeBrace_of_mayClose hclose] at hnamed
    rw [countMark_openBrace_of_mayClose hclose] at hdepth ⊢
    obtain ⟨q, hq, htable, hpending⟩ := h.closing hclose hnamed hstop hdepth
    exact ⟨q, hq, fun hzero hstart _ => htable hzero hstart, hpending⟩
  · have hopens : countMark .openBrace (us ++ ⟨.mark .openBrace, line⟩ :: block) = 1 := by
      rw [countMark_clause_append rfl hclause, countMark_cons_self,
        countMark_openBrace_of_mayClose hclose]
    have hcloses : countMark .closeBrace (us ++ ⟨.mark .openBrace, line⟩ :: block)
        = countMark .closeBrace block := by
      rw [countMark_clause_append rfl hclause, countMark_cons_of_ne (by decide)]
    rw [hopens] at hnests
    rw [hopens, hcloses] at hdepth ⊢
    rw [List.append_assoc, List.cons_append] at h
    rw [hbefore] at hnamed
    obtain ⟨p, hp, htable, hpending⟩ := h.clause hclause
      (fun hzero => (hnamed hzero).imp_right
        (.imp startsWith_of_append_brace startsWith_of_append_brace))
      fun _ => stops_cons.2 rfl
    have hpdepth : p.depth = place.depth := hp.depth_add
    have hnot : p.takesBraces = false := p.takesBraces_eq_false <| by
      rw [hpdepth]
      exact (hnests Nat.one_pos).imp_right fun ⟨hone, hin⟩ => ⟨hone, hp.inTable hin (.inl rfl)⟩
    obtain ⟨q, hq, hpending⟩ := hpending.openBrace hnot
    have hqdepth : q.depth = p.depth + 1 := hq.depth_add
    obtain ⟨r, hr, -, hpending⟩ := hpending.closing hclose (fun hzero => by omega)
      (fun _ => hstop (by simp)) (by omega)
    refine ⟨r, hp.trans (hq.trans hr), fun hzero hstart hin => ?_, hpending⟩
    have hpTable : p.inTable = true := htable hzero (startsWith_of_append_brace hstart)
    exact hr.inTable (hq.inTable hpTable (.inl rfl)) hin

end Pending

end Rows

/-! ### Lines -/

/-- The text of a line before its settings. -/
def beforeSettings (line : List Char) : List Char :=
  line.takeWhile (· ≠ '[')

/-- The first word of a line, up to a blank, a colon or an opening brace. -/
def leadingWord (line : List Char) : String :=
  String.ofList ((beforeSettings line).takeWhile fun c => !(Text.isBlank c || c == ':' || c == '{'))

theorem declaresReference_iff {line : List Char} : declaresReference line = true ↔
    Text.sameIgnoringCase (leadingWord line) "ref" = true ∧
      (':' ∈ beforeSettings line ∨ '{' ∈ beforeSettings line) := by
  simp [declaresReference, leadingWord, beforeSettings]

/-- The braces that are open after some tokens: their number, whether a row that starts with the
word `table` heads them, and whether the text shows that table. -/
structure Nesting where
  depth : Nat := 0
  inTable : Bool := false
  shown : Bool := false
  deriving DecidableEq, Repr

namespace Nesting

/-- The text shows a table after a line that leaves `depth` braces open: one of its lines looks like
the first one of a table, and only lines without text come between it and the brace. -/
def showsTable (s : Nesting) (line : List Char) (depth : Nat) : Bool :=
  (s.shown || s.depth == 0 && beginsTable line)
    && (depth != 0 || line.isEmpty || beginsTable line && line.count '{' == 0)

/-- The body of a table that the text shows, or a block within a block. -/
def inBody (s : Nesting) : Bool :=
  s.shown && s.depth == 1 || 2 ≤ s.depth

/-- The nesting after a line on which no row ends. -/
def held (s : Nesting) (line : List Char) : Nesting :=
  { s with shown := s.showsTable line s.depth }

/-- The nesting after a line on which the row ends. -/
def after (s : Nesting) (line : List Char) (row : List PlacedToken) : Nesting :=
  let depth := s.depth + countMark .openBrace row - countMark .closeBrace row
  { depth
    inTable := (s.inTable || s.depth == 0 && startsWith "table" row)
      && (countMark .closeBrace row == 0 || depth != 0)
    shown := s.showsTable line depth }

theorem inBody_iff {s : Nesting} :
    s.inBody = true ↔ s.shown = true ∧ s.depth = 1 ∨ 2 ≤ s.depth := by
  simp only [inBody, Bool.or_eq_true, Bool.and_eq_true, beq_iff_eq, decide_eq_true_eq]

theorem showsTable_iff {s : Nesting} {line : List Char} {depth : Nat} :
    s.showsTable line depth = true ↔
      (s.shown = true ∨ s.depth = 0 ∧ beginsTable line = true) ∧
        (depth ≠ 0 ∨ line = [] ∨ beginsTable line = true ∧ line.count '{' = 0) := by
  simp only [showsTable, Bool.and_eq_true, Bool.or_eq_true, beq_iff_eq, bne_iff_ne,
    List.isEmpty_iff, or_assoc]

/-- The table of a row goes on unless the row closes it. -/
theorem inTable_after {s : Nesting} {line : List Char} {row : List PlacedToken} :
    (s.after line row).inTable = true ↔
      (s.inTable = true ∨ s.depth = 0 ∧ startsWith "table" row = true) ∧
        (countMark .closeBrace row = 0 ∨ 0 < (s.after line row).depth) := by
  rw [Nat.pos_iff_ne_zero]
  simp only [after, Bool.and_eq_true, Bool.or_eq_true, beq_iff_eq, bne_iff_ne]

/-- A line whose text starts like a table or like a reference has tokens that do so.  `held` are the
tokens of its row on the lines before. -/
@[mk_iff]
structure Starts (s : Nesting) (line : List Char) (held row : List PlacedToken) : Prop where
  table : s.depth = 0 → s.shown = false → beginsTable line = true →
    held = [] ∧ startsWith "table" row = true
  ref : s.inBody = true → Text.sameIgnoringCase (leadingWord line) "ref" = true →
    ':' ∈ beforeSettings line ∨ '{' ∈ beforeSettings line →
    s.depth = 1 ∧ held = [] ∧ declaresRef row = true

/-- A line on which a row ends has as many braces more on one side as the tokens of the row. -/
@[mk_iff]
structure Shows (s : Nesting) (line : List Char) (row : List PlacedToken) : Prop where
  net_eq : line.count '{' + countMark .closeBrace row = line.count '}' + countMark .openBrace row
  isRow : isRow row = true
  named : s.depth = 0 →
    isSettled (beforeBrace row) = true ∨ startsWith "table" row = true ∨ startsWith "ref" row = true
  nests : 0 < countMark .openBrace row → s.depth = 0 ∨ s.depth = 1 ∧ s.inTable = true
  closes_le : countMark .closeBrace row ≤ s.depth + countMark .openBrace row
  waits : line = [] ∨ beginsTable line = true ∧ line.count '{' = 0 → countMark .closeBrace row = 0

instance (s : Nesting) (line : List Char) (held row : List PlacedToken) :
    Decidable (s.Starts line held row) :=
  decidable_of_iff' _ (starts_iff s line held row)

instance (s : Nesting) (line : List Char) (row : List PlacedToken) : Decidable (s.Shows line row) :=
  decidable_of_iff' _ (shows_iff s line row)

end Nesting

/-- The token stands on one of the first `n` lines, and does not end it. -/
def standsWithin (n : Nat) (t : PlacedToken) : Bool :=
  t.line ≤ n && t.token != .newline

/-- The token ends one of the first `n` lines. -/
def endsWithin (n : Nat) (t : PlacedToken) : Bool :=
  t.line ≤ n && t.token == .newline

/-- The part of a line that counts for a review: nothing of a line that it passes over. -/
def lookedAt (raw : List Char) : List Char :=
  if isIdle (bareLine raw) then [] else bareLine raw

/-- From line `n` on, the lines show the tokens `ts` that are left, where `held` are those of the
first row on the lines before.  A row goes on to the next line within settings, and has no brace
before its last line.  It is over when a line end or a brace follows. -/
def LinesShow (n : Nat) (s : Nesting) (held ts : List PlacedToken) : List (List Char) → Prop
  | [] => True
  | raw :: rest =>
    let line := lookedAt raw
    let here := ts.takeWhile (standsWithin n)
    let tail := ts.dropWhile (standsWithin n)
    let later := tail.dropWhile (endsWithin n)
    s.Starts line held here ∧
      if leavesOpen (held ++ here) then
        line.count '{' = line.count '}' ∧
          LinesShow (n + 1) (s.held line) (held ++ here ++ tail.takeWhile (endsWithin n)) later rest
      else
        (held ++ here ≠ [] → Stops tail) ∧ s.Shows line (held ++ here) ∧
          LinesShow (n + 1) (s.after line (held ++ here)) [] later rest

/-- The lines of the text show its tokens. -/
@[mk_iff]
structure LaidOut (text : String) : Prop where
  show_tokens : ∀ s ∈ (scan text).toOption, LinesShow 1 {} [] s.tokens (Text.lines text.toList)

instance decidableLinesShow (n : Nat) (s : Nesting) (held ts : List PlacedToken) :
    (lines : List (List Char)) → Decidable (LinesShow n s held ts lines)
  | [] => .isTrue trivial
  | raw :: rest =>
    let row := held ++ ts.takeWhile (standsWithin n)
    let tail := ts.dropWhile (standsWithin n)
    let later := tail.dropWhile (endsWithin n)
    -- the lines that follow are looked at once, in the case that applies
    if hopen : leavesOpen row = true then
      have := decidableLinesShow (n + 1) (s.held (lookedAt raw))
        (row ++ tail.takeWhile (endsWithin n)) later rest
      decidable_of_iff' _ (and_congr_right' (Iff.of_eq (if_pos hopen)))
    else
      have := decidableLinesShow (n + 1) (s.after (lookedAt raw) row) [] later rest
      decidable_of_iff' _ (and_congr_right' (Iff.of_eq (if_neg hopen)))

instance (text : String) : Decidable (LaidOut text) :=
  decidable_of_iff' _ (laidOut_iff text)

/-! ### The review and the parser -/

/-- The state of a review after a line, which it may pass over. -/
def Depth.after (d : Depth) (raw : List Char) : Depth :=
  if isIdle (bareLine raw) then d else d.next (bareLine raw)

namespace Depth

variable {d : Depth} {line : List Char}

/-- The table of a review goes on or begins on this line.  It lasts while it waits for its brace, or
while its body is open. -/
theorem next_table_eq_some {k : Int} (h : (d.next line).table = some k) :
    (d.table = some k ∨ d.table = none ∧ beginsTable line = true ∧ k = d.balance + 1) ∧
      (beginsTable line = true ∧ line.count '{' = 0 ∨ k ≤ (d.next line).balance) := by
  obtain ⟨opened, hopened⟩ : ∃ opened, opened =
      if beginsTable line && d.table.isNone then some (d.balance + 1) else d.table := ⟨_, rfl⟩
  have hnext : (d.next line).table =
      if !(beginsTable line && line.count '{' == 0) && opened.any ((d.next line).balance < ·) then
        none
      else opened := by
    rw [hopened]
    rfl
  rw [hnext] at h
  split at h
  · cases h
  · next hlasts =>
    subst h
    refine ⟨?_, ?_⟩
    · split at hopened
      · next hbegins =>
        rw [Bool.and_eq_true, Option.isNone_iff_eq_none] at hbegins
        exact .inr ⟨hbegins.2, hbegins.1, Option.some.inj hopened⟩
      · exact .inl hopened.symm
    · by_cases hwaits : beginsTable line = true ∧ line.count '{' = 0
      · exact .inl hwaits
      · have hbrace : (beginsTable line && line.count '{' == 0) = false :=
          Bool.eq_false_iff.2 fun h => hwaits (by simpa using h)
        exact .inr (Int.not_lt.1 fun hlt => hlasts (by simpa [hbrace] using hlt))

theorem nestedReference_mem_flaws {following : Option (List Char)} :
    .nestedReference ∈ d.flaws line following ↔
      d.inBody = true ∧ declaresReference line = true := by
  have hnot : ∀ (p : Prop) [Decidable p] (f : Flaw), f ≠ .nestedReference →
      .nestedReference ∉ (if p then [f] else []) := by
    intro p _ f hne
    split
    · exact fun h => hne (List.mem_singleton.1 h).symm
    · exact List.not_mem_nil
  rw [flaws, List.mem_append, List.mem_append, or_iff_left (hnot _ _ (by simp)),
    or_iff_left (hnot _ _ (by simp)), ← Bool.and_eq_true]
  split
  · next h => exact ⟨fun _ => h, fun _ => List.mem_singleton_self _⟩
  · next h => exact ⟨nofun, fun h' => absurd h' h⟩

theorem balance_after (d : Depth) (raw : List Char) :
    (d.after raw).balance = d.balance + (lookedAt raw).count '{' - (lookedAt raw).count '}' := by
  unfold Depth.after lookedAt
  split
  · simp
  · rfl

/-- `next_table_eq_some` for a line that the review may pass over. -/
theorem after_table_eq_some {raw : List Char} {k : Int} (h : (d.after raw).table = some k) :
    (d.table = some k ∨
      d.table = none ∧ beginsTable (lookedAt raw) = true ∧ k = d.balance + 1) ∧
      ((lookedAt raw = [] ∨ beginsTable (lookedAt raw) = true ∧ (lookedAt raw).count '{' = 0) ∨
        k ≤ (d.after raw).balance) := by
  unfold Depth.after at h ⊢
  unfold lookedAt
  split at h
  · next hidle => simp [hidle, h]
  · next hidle =>
    rw [if_neg hidle, if_neg hidle]
    exact (next_table_eq_some h).imp_right (.imp_left .inr)

end Depth

/-- The review, the tokens and the parser agree: on the braces that are open, and on whether they
are those of a table.  `held` are the tokens of a row that is not over. -/
structure Tracks (d : Depth) (s : Nesting) (place : Place) (held : List PlacedToken) : Prop where
  balance : d.balance = s.depth
  depth : place.depth = s.depth
  table : ∀ k, d.table = some k → 1 ≤ k ∧ (k = 1 → s.shown = true)
  shown : s.shown = true → s.inTable = true ∨ s.depth = 0 ∧ startsWith "table" held = true
  inTable : s.inTable = true → place.inTable = true
  nested : 2 ≤ s.depth → s.inTable = true

namespace Tracks

variable {last : Nat} {d : Depth} {s : Nesting} {place : Place} {raw : List Char}
  {held here tail : List PlacedToken}

theorem of_leads {place' : Place} (h : Tracks d s place held) (hleads : place.Leads 0 0 place') :
    Tracks d s place' held where
  balance := h.balance
  depth := by rw [← h.depth]; exact hleads.depth_add
  table := h.table
  shown := h.shown
  inTable hin := hleads.inTable (h.inTable hin) (.inl rfl)
  nested := h.nested

/-- The review is in the body of a table only where the text shows one. -/
theorem inBody_of (h : Tracks d s place held) (hbody : d.inBody = true) : s.inBody = true := by
  obtain ⟨k, hk, hle⟩ := (Option.any_eq_true _ _).1 hbody
  obtain ⟨hpos, htable⟩ := h.table k hk
  have hle : k ≤ d.balance := by simpa using hle
  have hbalance := h.balance
  rw [Nesting.inBody_iff]
  by_cases hdeep : 2 ≤ s.depth
  · exact .inr hdeep
  · exact .inl ⟨htable (by omega), by omega⟩

/-- The text shows the table that the review keeps after a line. -/
theorem table_after (h : Tracks d s place held) {depth : Nat}
    (hbalance : (d.after raw).balance = depth) {k : Int} (hk : (d.after raw).table = some k) :
    1 ≤ k ∧ (k = 1 → s.showsTable (lookedAt raw) depth = true) := by
  have hbefore := h.balance
  obtain ⟨hold, hlasts⟩ := Depth.after_table_eq_some hk
  refine ⟨?_, fun hone => Nesting.showsTable_iff.2 ⟨?_, ?_⟩⟩
  · rcases hold with hold | ⟨-, -, rfl⟩
    · exact (h.table k hold).1
    · omega
  · rcases hold with hold | ⟨-, hbegins, rfl⟩
    · exact .inl ((h.table k hold).2 hone)
    · exact .inr ⟨by omega, hbegins⟩
  · exact hlasts.elim .inr fun hle => .inl (by omega)

/-- The tokens of a table that the text shows start with the word `table`. -/
theorem shown_after (h : Tracks d s place held) (hstarts : s.Starts (lookedAt raw) held here)
    {depth : Nat} (hshows : s.showsTable (lookedAt raw) depth = true) :
    s.inTable = true ∨ s.depth = 0 ∧ startsWith "table" (held ++ here) = true := by
  by_cases hshown : s.shown = true
  · exact (h.shown hshown).imp_right (And.imp_right fun hstart => startsWith_append hstart here)
  · obtain ⟨hzero, hbegins⟩ := (Nesting.showsTable_iff.1 hshows).1.resolve_left hshown
    obtain ⟨rfl, hstart⟩ := hstarts.table hzero (Bool.eq_false_iff.2 hshown) hbegins
    exact .inr ⟨hzero, hstart⟩

/-- A line within settings changes nothing but the row. -/
theorem hold (h : Tracks d s place held) (hstarts : s.Starts (lookedAt raw) held here)
    (hcount : (lookedAt raw).count '{' = (lookedAt raw).count '}') (ends : List PlacedToken) :
    Tracks (d.after raw) (s.held (lookedAt raw)) place (held ++ here ++ ends) := by
  have hbalance : (d.after raw).balance = s.depth := by
    rw [Depth.balance_after, h.balance]
    omega
  exact
    { balance := hbalance
      depth := h.depth
      table := fun _ => h.table_after hbalance
      shown := fun hshows => (h.shown_after hstarts hshows).imp_right
        (And.imp_right fun hstart => startsWith_append hstart ends)
      inTable := h.inTable
      nested := h.nested }

/-- A line on which a row ends leads all of them to the same place. -/
theorem next (h : Tracks d s place held) (hstarts : s.Starts (lookedAt raw) held here)
    (hshows : s.Shows (lookedAt raw) (held ++ here)) (hstop : held ++ here ≠ [] → Stops tail)
    (hpending : Pending last place (held ++ here ++ tail)) :
    ∃ place', Tracks (d.after raw) (s.after (lookedAt raw) (held ++ here)) place' [] ∧
      Pending last place' tail := by
  have hbalance := h.balance
  have hdepth := h.depth
  have hcloses := hshows.closes_le
  have hnests : 0 < countMark .openBrace (held ++ here) →
      place.depth = 0 ∨ place.depth = 1 ∧ place.inTable = true := fun hpos => by
    rw [hdepth]
    exact (hshows.nests hpos).imp_right (And.imp_right h.inTable)
  obtain ⟨place', hleads, htable, hlater⟩ := hpending.row hshows.isRow
    (by rw [hdepth]; exact hshows.named) hstop hnests (by rw [hdepth]; exact hcloses)
  have hdepth' : place'.depth = (s.after (lookedAt raw) (held ++ here)).depth := by
    have := hleads.depth_add
    change place'.depth = s.depth + _ - _
    omega
  have hbalance' : (d.after raw).balance = (s.after (lookedAt raw) (held ++ here)).depth := by
    have hnet := hshows.net_eq
    have := hleads.depth_add
    rw [Depth.balance_after, ← hdepth']
    omega
  refine ⟨place', ⟨hbalance', hdepth', fun _ => h.table_after hbalance', fun hshown => .inl ?_,
    fun hin => ?_, fun htwo => ?_⟩, hlater⟩
  · refine Nesting.inTable_after.2 ⟨h.shown_after hstarts hshown, ?_⟩
    exact (Nesting.showsTable_iff.1 hshown).2.symm.imp hshows.waits Nat.pos_of_ne_zero
  · obtain ⟨hold | ⟨hzero, hstart⟩, hgoesOn⟩ := Nesting.inTable_after.1 hin
    · exact hleads.inTable (h.inTable hold) (by rwa [hdepth'])
    · exact htable (by omega) hstart (by rwa [hdepth'])
  · have hle := countMark_openBrace_le hshows.isRow
    have := hleads.depth_add
    refine Nesting.inTable_after.2 ⟨.inl ?_, .inr (by omega)⟩
    by_cases hdeep : 2 ≤ s.depth
    · exact h.nested hdeep
    · exact ((hshows.nests (by omega)).resolve_left (by omega)).2

/-- No line shows a reference in the midst of a table. -/
theorem no_reference (h : Tracks d s place held) (hstarts : s.Starts (lookedAt raw) held here)
    (hpending : Pending last place (held ++ here ++ tail)) (hbody : d.inBody = true) :
    declaresReference (lookedAt raw) = false := by
  refine Bool.eq_false_iff.2 fun hdeclares => ?_
  obtain ⟨hword, hopens⟩ := declaresReference_iff.1 hdeclares
  obtain ⟨hone, rfl, href⟩ := hstarts.ref (h.inBody_of hbody) hword hopens
  have hshown : s.shown = true := by
    obtain ⟨hshown, -⟩ | hdeep := Nesting.inBody_iff.1 (h.inBody_of hbody)
    · exact hshown
    · omega
  have hin : s.inTable = true := (h.shown hshown).resolve_right fun hzero => by omega
  cases here with
  | nil => cases href
  | cons t here =>
    obtain ⟨hkeyword, href⟩ := Bool.and_eq_true_iff.1 href
    have hnone : startsRef (here ++ tail) = false :=
      hpending.not_ref (h.depth.trans hone) (h.inTable hin) hkeyword
    rw [startsRef_append href] at hnone
    cases hnone

end Tracks

/-- Line ends lead to the same place. -/
theorem Pending.newlines {last : Nat} {place : Place} {ts : List PlacedToken}
    (h : Pending last place ts) (n : Nat) :
    ∃ place', place.Leads 0 0 place' ∧ Pending last place' (ts.dropWhile (endsWithin n)) := by
  induction ts generalizing place with
  | nil => exact ⟨place, .refl place, h⟩
  | cons t ts ih =>
    rw [List.dropWhile_cons]
    split
    · next hends =>
      have ht : t = ⟨.newline, t.line⟩ := by
        rw [← beq_iff_eq.1 (Bool.and_eq_true_iff.1 hends).2]
      rw [ht] at h
      obtain ⟨q, hq, hpending⟩ := h.newline
      obtain ⟨r, hr, hpending⟩ := ih hpending
      exact ⟨r, hq.trans hr, hpending⟩
    · exact ⟨place, .refl place, h⟩

/-- The induction is on the lines: where they show their tokens, the review and the parser agree
after each of them. -/
theorem reviewLines_flaw_ne_nestedReference {last n : Nat} {d : Depth} {s : Nesting} {place : Place}
    {held ts : List PlacedToken} {lines : List (List Char)} (h : Tracks d s place held)
    (hpending : Pending last place (held ++ ts)) (hshow : LinesShow n s held ts lines) :
    ∀ i ∈ (reviewLines n d lines).1, i.flaw ≠ .nestedReference := by
  induction lines generalizing n d s place held ts with
  | nil => exact nofun
  | cons raw rest ih =>
    obtain ⟨hstarts, hshow⟩ := hshow
    have hsplit : ts = ts.takeWhile (standsWithin n) ++ ts.dropWhile (standsWithin n) :=
      List.takeWhile_append_dropWhile.symm
    rw [hsplit, ← List.append_assoc] at hpending
    have hlater : ∀ i ∈ (reviewLines (n + 1) (d.after raw) rest).1, i.flaw ≠ .nestedReference := by
      split at hshow
      · obtain ⟨hcount, hshow⟩ := hshow
        refine ih (h.hold hstarts hcount _) ?_ hshow
        rw [List.append_assoc, List.takeWhile_append_dropWhile]
        exact hpending
      · obtain ⟨hstop, hshows, hshow⟩ := hshow
        obtain ⟨q, hq, hpending⟩ := h.next hstarts hshows hstop hpending
        obtain ⟨r, hr, hpending⟩ := hpending.newlines n
        exact ih (hq.of_leads hr) hpending hshow
    rw [Depth.after] at hlater
    rw [reviewLines]
    split
    · next hidle => rwa [if_pos hidle] at hlater
    · next hidle =>
      rw [if_neg hidle] at hlater
      intro i hi
      rcases List.mem_append.1 hi with hi | hi
      · obtain ⟨f, hf, rfl⟩ := List.mem_map.1 hi
        rintro rfl
        obtain ⟨hbody, hdeclares⟩ := Depth.nestedReference_mem_flaws.1 hf
        have hnone := h.no_reference hstarts hpending hbody
        rw [lookedAt, if_neg hidle, hdeclares] at hnone
        cases hnone
      · exact hlater i hi

/-- A text that is parsed, and whose lines show its tokens, has no reference in the midst of a table
for the review. -/
theorem review_flaw_ne_nestedReference {text : String} {s : Schema} (hparse : parse text = .ok s)
    (hlaid : LaidOut text) : ∀ i ∈ review text, i.flaw ≠ .nestedReference := by
  obtain ⟨stream, hscan, hstatements⟩ := exists_ok_of_bind hparse
  obtain ⟨statements, hstatements, -⟩ := exists_ok_of_bind hstatements
  have hshow : LinesShow 1 {} [] stream.tokens (Text.lines text.toList) :=
    hlaid.show_tokens stream (by rw [hscan]; rfl)
  have htracks : Tracks {} {} .top [] := ⟨rfl, rfl, nofun, nofun, nofun, by decide⟩
  have hlines := reviewLines_flaw_ne_nestedReference htracks (.top hstatements) hshow
  intro i hi
  rcases List.mem_append.1 hi with hi | hi
  · rcases List.mem_append.1 hi with hi | hi
    · split at hi
      · rw [List.mem_singleton.1 hi]; exact nofun
      · cases hi
    · exact hlines i hi
  · split at hi
    · cases hi
    · rw [List.mem_singleton.1 hi]; exact nofun

/-- Braces, slashes and quotes in literals, references in comments, and settings over several
lines. -/
def literals : String :=
  "/* Tables\n*/\nTable users \x7b\n  id int [note: '\x7bid\x7d // \"one\"'] // Ref: \x7d > \x7b\n"
    ++ "  ref int [\n    // Ref: \x7b\n    not null, note: '[\x7bref\x7d'\n  ]\n"
    ++ "  Note: '''\n    Ref of a user\n  '''\n  indexes \x7b\n    (id, ref) [unique,\n"
    ++ "      name: '//']\n  \x7d\n\x7d\nRef: users.ref > users.id [\n  delete: cascade\n]\n"

theorem review_flaw_ne_nestedReference_literals :
    ∃ s, parse literals = .ok s ∧ LaidOut literals ∧
      ∀ i ∈ review literals, i.flaw ≠ .nestedReference := by
  have hholds : (parse literals).toOption.isSome = true ∧ LaidOut literals := by decide +kernel
  obtain ⟨hsome, hlaid⟩ := hholds
  obtain ⟨s, hs⟩ := Option.isSome_iff_exists.1 hsome
  have hparse := eq_ok_of_toOption hs
  exact ⟨s, hparse, hlaid, review_flaw_ne_nestedReference hparse hlaid⟩

/-- A brace in a literal, which has its counterpart in another one further down. -/
def strayBrace : String :=
  "Table a \x7b\n  id int [note: 'opens \x7b']\n\x7d\nRef: a.id > b.id\nEnum e \x7b\n"
    ++ "  \"closes \x7d\"\n\x7d\n"

/-- The table goes on for the review, although the text is parsed. -/
theorem nestedReference_mem_review_strayBrace :
    ∃ s, parse strayBrace = .ok s ∧ ⟨4, .nestedReference⟩ ∈ review strayBrace := by
  have hsome : (parse strayBrace).toOption.isSome = true := by decide +kernel
  have hissue : ⟨4, .nestedReference⟩ ∈ review strayBrace := by decide +kernel
  obtain ⟨s, hs⟩ := Option.isSome_iff_exists.1 hsome
  have hparse := eq_ok_of_toOption hs
  exact ⟨s, hparse, hissue⟩

end Mockup.Schema
