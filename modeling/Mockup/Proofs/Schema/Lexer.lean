import Mockup.Schema.Lexer

/-!
# Cutting texts that follow each other

A text that can be cut into tokens ends where a token ends.  So what follows it on the next line is
cut as it would be alone, only that its lines are counted on.

* `PlacedToken.moved`, `ReadError.moved`, `TokenStream.moved`: the same, some lines further down;
* `Carried`: the result of a reading when the text is moved down and goes on;
* `skipGap_carried`, `readToken_carried`: gaps and tokens in a text that goes on;
* `scanFrom_goesOn`: the tokens of a text that goes on with a new line;
* `scanFrom_moved`: the tokens of a text that is moved down.
-/

namespace Mockup.Schema

theorem eq_ok_of_toOption {ε α : Type} {x : Except ε α} {a : α} (h : x.toOption = some a) :
    x = .ok a := by
  cases x with
  | error e => cases h
  | ok b => cases h; rfl

/-- The token, some lines further down. -/
def PlacedToken.moved (k : Nat) (t : PlacedToken) : PlacedToken :=
  { t with line := t.line + k }

@[simp] theorem PlacedToken.moved_token (k : Nat) (t : PlacedToken) :
    (t.moved k).token = t.token := rfl

theorem map_moved_zero (ts : List PlacedToken) : ts.map (·.moved 0) = ts :=
  List.map_id ts

/-- The error, some lines further down. -/
def ReadError.moved (k : Nat) (e : ReadError) : ReadError :=
  { e with line := e.line + k }

/-- The tokens, some lines further down. -/
def TokenStream.moved (k : Nat) (s : TokenStream) : TokenStream :=
  ⟨s.tokens.map (·.moved k), s.endLine + k⟩

/-- The result of a reading when the text is moved down by `k` lines and goes on: an answer is
carried over by `f`.  An error is only known to stay one if the text does not go on. -/
def Carried {α β : Type} (k : Nat) (alone : Prop) (f : α → β) (r : Except ReadError α)
    (r' : Except ReadError β) : Prop :=
  match r with
  | .ok a => r' = .ok (f a)
  | .error e => alone → r' = .error (e.moved k)

section Carried

variable {α β : Type} {k : Nat} {alone : Prop} {f : α → β} {r : Except ReadError α}
  {r' : Except ReadError β}

theorem Carried.eq_ok (h : Carried k alone f r r') {a : α} (hr : r = .ok a) : r' = .ok (f a) := by
  subst hr
  exact h

theorem Carried.eq_error (h : Carried k alone f r r') {e : ReadError} (hr : r = .error e)
    (halone : alone) : r' = .error (e.moved k) := by
  subst hr
  exact h halone

end Carried

/-! ### Where a text goes on -/

/-- A text that goes on where `p` stops is cut by `p` as it was. -/
theorem takeWhile_append_of_stop {p : Char → Bool} {tail : List Char}
    (h : ∀ c ∈ tail.head?, p c = false) (cs : List Char) :
    (cs ++ tail).takeWhile p = cs.takeWhile p := by
  induction cs with
  | nil => cases tail with
    | nil => rfl
    | cons c tail => simp [h c rfl]
  | cons c cs ih => simp only [List.cons_append, List.takeWhile_cons, ih]

theorem dropWhile_append_of_stop {p : Char → Bool} {tail : List Char}
    (h : ∀ c ∈ tail.head?, p c = false) (cs : List Char) :
    (cs ++ tail).dropWhile p = cs.dropWhile p ++ tail := by
  induction cs with
  | nil => cases tail with
    | nil => rfl
    | cons c tail => simp [h c rfl]
  | cons c cs ih =>
    simp only [List.cons_append, List.dropWhile_cons, ih]
    split <;> rfl

theorem delimited_close (close : Char) (cs : List Char) :
    delimited close (close :: cs) = some ⟨[], 0, cs⟩ := by
  rw [delimited.eq_def]
  simp

theorem delimited_escape {close : Char} (hclose : '\\' ≠ close) (c : Char) (cs : List Char) :
    delimited close ('\\' :: c :: cs)
      = (delimited close cs).map (.pushEscaped (unescape c)) := by
  rw [delimited.eq_def]
  simp [hclose]

theorem delimited_cons {close c : Char} (hclose : c ≠ close) (hescape : c ≠ '\\')
    (cs : List Char) : delimited close (c :: cs) = (delimited close cs).map (.push c) := by
  rw [delimited.eq_def]
  simp [hclose, hescape]

theorem delimited_append {close : Char} {cs : List Char} {l : Literal}
    (h : delimited close cs = some l) (tail : List Char) :
    delimited close (cs ++ tail) = some { l with rest := l.rest ++ tail } := by
  fun_induction delimited close cs generalizing l with
  | case1 => cases h
  | case2 =>
    cases h
    exact delimited_close _ _
  | case3 => cases h
  | case4 hclose c cs ih =>
    obtain ⟨l, hl, rfl⟩ := Option.map_eq_some_iff.1 h
    rw [List.cons_append, List.cons_append, delimited_escape ‹_›, ih hl]
    rfl
  | case5 c cs hclose hescape ih =>
    obtain ⟨l, hl, rfl⟩ := Option.map_eq_some_iff.1 h
    rw [List.cons_append, delimited_cons hclose hescape, ih hl]
    rfl

theorem tripleQuoted_append {cs : List Char} {l : Literal} (h : tripleQuoted cs = some l)
    (tail : List Char) : tripleQuoted (cs ++ tail) = some { l with rest := l.rest ++ tail } := by
  fun_induction tripleQuoted cs generalizing l with
  | case1 cs => cases h; simp [tripleQuoted]
  | case2 c cs hne ih =>
    obtain ⟨l, hl, rfl⟩ := Option.map_eq_some_iff.1 h
    have hshort : ∀ cs', c = '\'' → cs ++ tail = '\'' :: '\'' :: cs' → False := by
      match cs, hl with
      | [], hl => simp [tripleQuoted] at hl
      | [d], hl => simp [tripleQuoted] at hl
      | d :: e :: cs, _ =>
        intro cs' hc heq
        simp only [List.cons_append, List.cons.injEq] at heq
        obtain ⟨rfl, rfl, -⟩ := heq
        exact hne cs hc rfl
    rw [List.cons_append, tripleQuoted.eq_2 _ _ hshort, ih hl]
    rfl
  | case3 => cases h

section Newline

variable {k : Nat} {tail : List Char}

theorem ofLiteral_carried {line : Nat} (make : String → Token) {o o' : Option Literal}
    (hsome : ∀ l, o = some l → o' = some { l with rest := l.rest ++ tail })
    (hnone : tail = [] → o' = o) :
    Carried k (tail = []) (fun r : Reading => ⟨r.token, r.line + k, r.rest ++ tail⟩)
      (ofLiteral line make o) (ofLiteral (line + k) make o') := by
  cases o with
  | none =>
    intro h
    rw [hnone h]
    rfl
  | some l =>
    rw [hsome l rfl]
    simp [Carried, ofLiteral, Nat.add_right_comm]

variable (htail : ∀ c ∈ tail.head?, c = '\n')
include htail

theorem singleQuoted_append {cs : List Char} {l : Literal} (h : singleQuoted cs = some l) :
    singleQuoted (cs ++ tail) = some { l with rest := l.rest ++ tail } := by
  unfold singleQuoted at h
  split at h
  · obtain ⟨l, hl, rfl⟩ := Option.map_eq_some_iff.1 h
    simp [singleQuoted, tripleQuoted_append hl]
  · next hne =>
    have hshort : ∀ cs', cs ++ tail = '\'' :: '\'' :: cs' → False := by
      intro cs' heq
      match cs, h with
      | [], h => simp [delimited] at h
      | [c], _ =>
        obtain ⟨rfl, rfl⟩ := List.cons.inj heq
        exact absurd (htail '\'' rfl) (by decide)
      | c :: d :: cs, _ =>
        simp only [List.cons_append, List.cons.injEq] at heq
        obtain ⟨rfl, rfl, -⟩ := heq
        exact hne cs rfl
    rw [singleQuoted.eq_2 _ hshort, delimited_append h]

theorem restOfNumber_append (cs : List Char) :
    restOfNumber (cs ++ tail) = ((restOfNumber cs).1, (restOfNumber cs).2 ++ tail) := by
  have hdigit : ∀ c ∈ tail.head?, c.isDigit = false := by
    intro c hc
    rw [htail c hc]
    decide
  simp only [restOfNumber, takeWhile_append_of_stop hdigit, dropWhile_append_of_stop hdigit]
  rcases cs.dropWhile Char.isDigit with _ | ⟨c, _ | ⟨d, rest⟩⟩
  · rcases tail with _ | ⟨c, more⟩
    · rfl
    · obtain rfl := htail c rfl
      rfl
  · rcases tail with _ | ⟨d, more⟩
    · simp
    · obtain rfl := htail d rfl
      by_cases hc : c = '.'
      · subst hc; rfl
      · simp [hc]
  · by_cases hc : c = '.'
    · subst hc
      simp only [List.cons_append, takeWhile_append_of_stop hdigit,
        dropWhile_append_of_stop hdigit]
      split <;> simp
    · simp [hc]

theorem readToken_carried (line : Nat) (c : Char) (cs : List Char) :
    Carried k (tail = []) (fun r : Reading => ⟨r.token, r.line + k, r.rest ++ tail⟩)
      (readToken line c cs) (readToken (line + k) c (cs ++ tail)) := by
  have hname : ∀ c ∈ tail.head?, isNameChar c = false := by
    intro c hc
    rw [htail c hc]
    decide
  have hdelimited : ∀ close, tail = [] → delimited close (cs ++ tail) = delimited close cs := by
    rintro close rfl
    rw [List.append_nil]
  have hsingle : tail = [] → singleQuoted (cs ++ tail) = singleQuoted cs := by
    rintro rfl
    rw [List.append_nil]
  have hhead : (cs ++ tail).head? = some '>' ↔ cs.head? = some '>' := by
    rcases cs with _ | ⟨d, cs⟩
    · simp only [List.nil_append, List.head?_nil, reduceCtorEq, iff_false]
      exact fun h => absurd (htail _ h) (by decide)
    · simp
  unfold readToken
  simp only [hhead]
  split
  · simp [Carried, Nat.add_right_comm]
  split
  · next h =>
    obtain ⟨d, cs, rfl⟩ : ∃ d cs', cs = d :: cs' := by
      rcases cs with _ | ⟨d, cs⟩
      · simp at h
      · exact ⟨d, cs, rfl⟩
    rfl
  split
  · rfl
  split
  · exact ofLiteral_carried .quoted (fun l h => delimited_append h tail) (hdelimited _)
  split
  · exact ofLiteral_carried .str (fun l h => singleQuoted_append htail h) hsingle
  split
  · exact ofLiteral_carried .expr (fun l h => delimited_append h tail) (hdelimited _)
  split
  · simp only [Carried, restOfNumber_append htail]
  split
  · simp only [Carried, takeWhile_append_of_stop hname, dropWhile_append_of_stop hname]
  · rfl

/-- The state of the skipping, some lines further down. -/
def Gap.moved (k : Nat) : Gap → Gap
  | .plain => .plain
  | .lineComment => .lineComment
  | .blockComment opened => .blockComment (opened + k)

theorem skipGap_newline (line : Nat) : skipGap .plain line tail = .ok (line, tail) := by
  rcases tail with _ | ⟨c, more⟩
  · rfl
  · obtain rfl := htail c rfl
    rw [skipGap.eq_4 _ _ _ (by simp) (by simp), if_neg (by simp)]

theorem skipGap_carried (g : Gap) (line : Nat) (cs : List Char) :
    Carried k (tail = []) (fun p : Nat × List Char => (p.1 + k, p.2 ++ tail))
      (skipGap g line cs) (skipGap (g.moved k) (line + k) (cs ++ tail)) := by
  -- Two characters that start or end a comment do not come together across a new line.
  have halone : ∀ {a c d : Char} {cs cs' : List Char}, d ≠ '\n' →
      (∀ cs', c = a → cs = d :: cs' → False) → c = a → cs ++ tail = d :: cs' → False := by
    intro a c d cs cs' hd hne hc heq
    rcases cs with _ | ⟨e, cs⟩
    · exact hd (htail d (by rw [← List.nil_append tail, heq]; rfl))
    · obtain ⟨rfl, -⟩ := List.cons.inj heq
      exact hne cs hc rfl
  fun_induction skipGap g line cs with
  | case1 line => exact skipGap_newline htail _
  | case2 line cs ih => exact ih
  | case3 line cs ih => exact ih
  | case4 line c cs _ _ hblank ih =>
    have hc : c ≠ '/' := by
      rintro rfl
      exact absurd hblank.2 (by decide)
    rw [Gap.moved, List.cons_append, skipGap.eq_4 _ _ _ (fun _ h => absurd h hc)
      (fun _ h => absurd h hc), if_pos hblank]
    exact ih
  | case5 line c cs hline hblock hblank =>
    rw [Gap.moved, List.cons_append, skipGap.eq_4 _ _ _ (fun _ => halone (by decide) hline)
      (fun _ => halone (by decide) hblock), if_neg hblank]
    rfl
  | case6 line =>
    rcases tail with _ | ⟨c, more⟩
    · rfl
    · obtain rfl := htail c rfl
      rfl
  | case7 line cs => rfl
  | case8 line c cs hc ih =>
    rw [Gap.moved, List.cons_append, skipGap, if_neg hc]
    exact ih
  | case9 opened line =>
    rintro rfl
    rfl
  | case10 opened line cs ih => exact ih
  | case11 opened line c cs hclose ih =>
    rw [Gap.moved, List.cons_append, skipGap.eq_9 _ _ _ _ fun _ => halone (by decide) hclose]
    have hline : (if c = '\n' then line + k + 1 else line + k)
        = (if c = '\n' then line + 1 else line) + k := by
      split <;> omega
    rw [hline]
    exact ih

end Newline

/-! ### All tokens -/

section Equations

variable {line line' : Nat} {c : Char} {cs rest : List Char}

theorem scanFrom_of_end (hgap : skipGap .plain line cs = .ok (line', [])) :
    scanFrom line cs = .ok ⟨[], line'⟩ := by
  rw [scanFrom]
  split
  · next h => rw [hgap] at h; cases h
  · next h => rw [hgap] at h; cases h; rfl
  · next h => rw [hgap] at h; cases h

theorem scanFrom_of_gap_error {e : ReadError} (hgap : skipGap .plain line cs = .error e) :
    scanFrom line cs = .error e := by
  rw [scanFrom]
  split
  · next h => rw [hgap] at h; cases h; rfl
  · next h => rw [hgap] at h; cases h
  · next h => rw [hgap] at h; cases h

theorem scanFrom_of_token {r : Reading} (hgap : skipGap .plain line cs = .ok (line', c :: rest))
    (htoken : readToken line' c rest = .ok r) :
    scanFrom line cs = TokenStream.push ⟨r.token, line'⟩ <$> scanFrom r.line r.rest := by
  rw [scanFrom]
  split
  · next h => rw [hgap] at h; cases h
  · next h => rw [hgap] at h; cases h
  · next h =>
    rw [hgap] at h
    cases h
    split
    · next h => rw [htoken] at h; cases h
    · next h => rw [htoken] at h; cases h; rfl

theorem scanFrom_of_token_error {e : ReadError}
    (hgap : skipGap .plain line cs = .ok (line', c :: rest))
    (htoken : readToken line' c rest = .error e) : scanFrom line cs = .error e := by
  rw [scanFrom]
  split
  · next h => rw [hgap] at h; cases h
  · next h => rw [hgap] at h; cases h
  · next h =>
    rw [hgap] at h
    cases h
    split
    · next h => rw [htoken] at h; cases h; rfl
    · next h => rw [htoken] at h; cases h

end Equations

/-- The tokens after a gap depend on what follows it only. -/
theorem scanFrom_congr {line line' : Nat} {cs cs' : List Char}
    (hgap : skipGap .plain line cs = skipGap .plain line' cs') :
    scanFrom line cs = scanFrom line' cs' := by
  rcases h : skipGap .plain line cs with e | ⟨l, _ | ⟨c, rest⟩⟩
  · rw [scanFrom_of_gap_error h, scanFrom_of_gap_error (hgap.symm.trans h)]
  · rw [scanFrom_of_end h, scanFrom_of_end (hgap.symm.trans h)]
  · rcases htoken : readToken l c rest with e | r
    · rw [scanFrom_of_token_error h htoken, scanFrom_of_token_error (hgap.symm.trans h) htoken]
    · rw [scanFrom_of_token h htoken, scanFrom_of_token (hgap.symm.trans h) htoken]

/-- A text is moved down and goes on with a new line, if with anything: first come its own tokens,
then those of what follows, and an error stays one if nothing follows. -/
theorem scanFrom_goesOn {k : Nat} {tail : List Char} (htail : ∀ c ∈ tail.head?, c = '\n')
    (line : Nat) (cs : List Char) :
    (∀ s, scanFrom line cs = .ok s → scanFrom (line + k) (cs ++ tail)
      = (fun t => ⟨(s.moved k).tokens ++ t.tokens, t.endLine⟩) <$> scanFrom (s.endLine + k) tail) ∧
    ∀ e, scanFrom line cs = .error e → tail = [] →
      scanFrom (line + k) (cs ++ tail) = .error (e.moved k) := by
  fun_induction scanFrom line cs with
  | case1 line cs e hgap =>
    refine ⟨nofun, fun e h hnil => ?_⟩
    cases h
    exact scanFrom_of_gap_error ((skipGap_carried htail .plain line cs).eq_error hgap hnil)
  | case2 line cs line' hgap =>
    refine ⟨fun s h => ?_, nofun⟩
    cases h
    have hgap' := (skipGap_carried (k := k) htail .plain line cs).eq_ok hgap
    rw [scanFrom_congr (hgap'.trans (skipGap_newline htail _).symm)]
    exact (id_map _).symm
  | case3 line cs line' c rest hgap e htoken =>
    refine ⟨nofun, fun e h hnil => ?_⟩
    cases h
    exact scanFrom_of_token_error ((skipGap_carried htail .plain line cs).eq_ok hgap)
      ((readToken_carried htail line' c rest).eq_error htoken hnil)
  | case4 line cs line' c rest hgap r htoken ih =>
    rw [scanFrom_of_token ((skipGap_carried (k := k) htail .plain line cs).eq_ok hgap)
      ((readToken_carried htail line' c rest).eq_ok htoken)]
    cases hs : scanFrom r.line r.rest with
    | ok s' =>
      refine ⟨fun s h => ?_, nofun⟩
      cases h
      rw [ih.1 s' hs]
      change _ = _ <$> scanFrom (s'.endLine + k) tail
      cases scanFrom (s'.endLine + k) tail <;> rfl
    | error e' =>
      refine ⟨nofun, fun e h hnil => ?_⟩
      cases h
      rw [ih.2 e' hs hnil]
      rfl

/-- The tokens of a text that is moved down. -/
theorem scanFrom_moved (k line : Nat) (cs : List Char) :
    Carried k True (TokenStream.moved k) (scanFrom line cs) (scanFrom (line + k) cs) := by
  have hnil : ∀ c ∈ ([] : List Char).head?, c = '\n' := nofun
  have h := scanFrom_goesOn (k := k) hnil line cs
  rw [List.append_nil] at h
  cases hs : scanFrom line cs with
  | ok s =>
    rw [Carried, h.1 s hs, scanFrom_of_end rfl]
    simp [TokenStream.moved, Functor.map, Except.map]
  | error e => exact fun _ => h.2 e hs rfl

end Mockup.Schema
