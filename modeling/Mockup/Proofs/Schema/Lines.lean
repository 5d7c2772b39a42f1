import Mockup.Proofs.Schema.Lexer

/-!
# The lines of tokens

A text is cut into tokens and the gaps before them.  The line that a token bears is one more than
the number of line ends before it, unless a literal before it hides some: a line end after a
backslash becomes part of the literal without being counted.

* `Piece`, `Cut`: a text cut into pieces;
* `hiddenLineEnds`: the line ends that a token hides;
* `skipGap_lines`, `readToken_lines`: the lines of a gap and of a token;
* `Cut.HasLines`: the lines that the tokens of a text bear;
* `tokenize_lines`: the tokens of every text bear these lines, and they are the right ones just if
  no literal hides a line end.
-/

namespace Mockup.Schema

/-! ### Gaps and tokens -/

/-- A token with what stands before it. -/
structure Piece where
  gap : List Char
  written : List Char
  token : Token

/-- The characters of the gap and of the token. -/
def Piece.chars (p : Piece) : List Char :=
  p.gap ++ p.written

/-- The text is cut into these pieces, and nothing but a gap is left at its end.  On which lines the
readers believe to be makes no difference. -/
inductive Cut : List Char → List Piece → List Char → Prop
  | done {line line' : Nat} {last : List Char} (hgap : skipGap .plain line last = .ok (line', [])) :
      Cut last [] last
  | token {line line' line'' : Nat} {gap cs rest last : List Char} {c : Char} {t : Token}
      {pieces : List Piece}
      (hgap : skipGap .plain line (gap ++ (c :: cs ++ rest)) = .ok (line', c :: cs ++ rest))
      (htoken : readToken line' c (cs ++ rest) = .ok ⟨t, line'', rest⟩)
      (h : Cut rest pieces last) : Cut (gap ++ (c :: cs ++ rest)) (⟨gap, c :: cs, t⟩ :: pieces) last

theorem Cut.eq_append {cs last : List Char} {pieces : List Piece} (h : Cut cs pieces last) :
    cs = pieces.flatMap Piece.chars ++ last := by
  induction h with
  | done => rfl
  | token _ _ _ ih => simp [Piece.chars, ← ih]

/-- The number of line ends right after a backslash that is not itself after one. -/
def escapedLineEnds : List Char → Nat
  | '\\' :: c :: cs => (if c = '\n' then 1 else 0) + escapedLineEnds cs
  | _ :: cs => escapedLineEnds cs
  | [] => 0

/-- The number of line ends that a token hides: those that are escaped, in a literal in which a
backslash escapes. -/
def hiddenLineEnds : List Char → Nat
  | '\'' :: '\'' :: '\'' :: _ => 0
  | c :: cs => if c = '"' ∨ c = '\'' ∨ c = '`' then escapedLineEnds cs else 0
  | [] => 0

/-! ### How lines are counted -/

/-- In a gap every line end is counted. -/
theorem skipGap_lines {g : Gap} {line line' : Nat} {cs rest : List Char}
    (h : skipGap g line cs = .ok (line', rest)) :
    ∃ gap, cs = gap ++ rest ∧ line' = line + gap.count '\n' := by
  fun_induction skipGap g line cs with
  | case1 => cases h; exact ⟨[], rfl, rfl⟩
  | case2 line cs ih =>
    obtain ⟨gap, rfl, rfl⟩ := ih h
    exact ⟨'/' :: '/' :: gap, rfl, by simp⟩
  | case3 line cs ih =>
    obtain ⟨gap, rfl, rfl⟩ := ih h
    exact ⟨'/' :: '*' :: gap, rfl, by simp⟩
  | case4 line c cs _ _ hblank ih =>
    obtain ⟨gap, rfl, rfl⟩ := ih h
    exact ⟨c :: gap, rfl, by simp [hblank.1]⟩
  | case5 => cases h; exact ⟨[], rfl, rfl⟩
  | case6 => cases h; exact ⟨[], rfl, rfl⟩
  | case7 => cases h; exact ⟨[], rfl, rfl⟩
  | case8 line c cs hc ih =>
    obtain ⟨gap, rfl, rfl⟩ := ih h
    exact ⟨c :: gap, rfl, by simp [hc]⟩
  | case9 => cases h
  | case10 opened line cs ih =>
    obtain ⟨gap, rfl, rfl⟩ := ih h
    exact ⟨'*' :: '/' :: gap, rfl, by simp⟩
  | case11 opened line c cs _ ih =>
    obtain ⟨gap, rfl, rfl⟩ := ih h
    refine ⟨c :: gap, rfl, ?_⟩
    by_cases hc : c = '\n'
    · simp [hc]; omega
    · simp [hc]

theorem escapedLineEnds_cons {c : Char} (hc : c ≠ '\\') (cs : List Char) :
    escapedLineEnds (c :: cs) = escapedLineEnds cs := by
  rw [escapedLineEnds.eq_2 _ _ fun _ _ h => absurd h hc]

/-- Up to the closing quote every line end is counted that is not escaped. -/
theorem delimited_lines {close : Char} (hclose : close ≠ '\n') {cs : List Char} {l : Literal}
    (h : delimited close cs = some l) :
    ∃ written, cs = written ++ l.rest ∧ l.lines + escapedLineEnds written = written.count '\n' := by
  fun_induction delimited close cs generalizing l with
  | case1 => cases h
  | case2 cs =>
    cases h
    exact ⟨[close], rfl, by simp [escapedLineEnds, hclose]⟩
  | case3 => cases h
  | case4 c cs _ ih =>
    obtain ⟨l, hl, rfl⟩ := Option.map_eq_some_iff.1 h
    obtain ⟨written, hcs, hcount⟩ := ih hl
    refine ⟨'\\' :: c :: written, by rw [hcs]; rfl, ?_⟩
    by_cases hc : c = '\n' <;> simp [escapedLineEnds, Literal.pushEscaped, hc] <;> omega
  | case5 c cs _ hescape ih =>
    obtain ⟨l, hl, rfl⟩ := Option.map_eq_some_iff.1 h
    obtain ⟨written, hcs, hcount⟩ := ih hl
    refine ⟨c :: written, by rw [hcs]; rfl, ?_⟩
    rw [escapedLineEnds_cons hescape]
    by_cases hc : c = '\n' <;> simp [Literal.push, hc] <;> omega

/-- Up to three single quotes every line end is counted. -/
theorem tripleQuoted_lines {cs : List Char} {l : Literal} (h : tripleQuoted cs = some l) :
    ∃ written, cs = written ++ l.rest ∧ l.lines = written.count '\n' := by
  fun_induction tripleQuoted cs generalizing l with
  | case1 cs => cases h; exact ⟨['\'', '\'', '\''], rfl, rfl⟩
  | case2 c cs _ ih =>
    obtain ⟨l, hl, rfl⟩ := Option.map_eq_some_iff.1 h
    obtain ⟨written, hcs, hcount⟩ := ih hl
    refine ⟨c :: written, by rw [hcs]; rfl, ?_⟩
    by_cases hc : c = '\n' <;> simp [Literal.push, hc, hcount]
  | case3 => cases h

theorem singleQuoted_lines {cs : List Char} {l : Literal} (h : singleQuoted cs = some l) :
    ∃ written, cs = written ++ l.rest ∧
      l.lines + hiddenLineEnds ('\'' :: written) = written.count '\n' := by
  unfold singleQuoted at h
  split at h
  · obtain ⟨l, hl, rfl⟩ := Option.map_eq_some_iff.1 h
    obtain ⟨written, hcs, hcount⟩ := tripleQuoted_lines hl
    exact ⟨'\'' :: '\'' :: written, by rw [hcs]; rfl, by simp [hiddenLineEnds, hcount]⟩
  · next hne =>
    obtain ⟨written, rfl, hcount⟩ := delimited_lines (by decide) h
    refine ⟨written, rfl, ?_⟩
    rw [hiddenLineEnds.eq_2 _ _ fun more _ htriple => hne (more ++ l.rest) (by rw [htriple]; rfl),
      if_pos (by simp)]
    exact hcount

/-- A token of which no line end is hidden. -/
theorem hiddenLineEnds_of_ne {c : Char} (hc : c ≠ '"' ∧ c ≠ '\'' ∧ c ≠ '`') (cs : List Char) :
    hiddenLineEnds (c :: cs) = 0 := by
  rw [hiddenLineEnds.eq_2 _ _ fun _ h _ => absurd h hc.2.1, if_neg (by simp [hc])]

/-- A token without quotes and without line ends. -/
theorem count_of_unquoted {c : Char} {written : List Char} (hc : c ≠ '"' ∧ c ≠ '\'' ∧ c ≠ '`')
    (hwritten : '\n' ∉ c :: written) (line : Nat) :
    line + hiddenLineEnds (c :: written) = line + (c :: written).count '\n' := by
  rw [hiddenLineEnds_of_ne hc, List.count_eq_zero.2 hwritten]

theorem ofLiteral_lines {line : Nat} {c : Char} {make : String → Token} {cs : List Char}
    {o : Option Literal} {r : Reading} (hc : c ≠ '\n') (h : ofLiteral line make o = .ok r)
    (ho : ∀ l, o = some l → ∃ written, cs = written ++ l.rest ∧
      l.lines + hiddenLineEnds (c :: written) = written.count '\n') :
    ∃ written, cs = written ++ r.rest ∧
      r.line + hiddenLineEnds (c :: written) = line + (c :: written).count '\n' := by
  cases o with
  | none => cases h
  | some l =>
    cases h
    obtain ⟨written, hcs, hcount⟩ := ho l rfl
    refine ⟨written, hcs, ?_⟩
    rw [List.count_cons_of_ne hc, Nat.add_assoc, hcount]

theorem not_mem_takeWhile {p : Char → Bool} {c : Char} (hc : p c = false) (cs : List Char) :
    c ∉ cs.takeWhile p := by
  intro h
  have := List.all_eq_true.1 List.all_takeWhile c h
  rw [hc] at this
  cases this

/-- The digits of a number and what follows them make up the text again. -/
theorem restOfNumber_split (cs : List Char) :
    cs = (restOfNumber cs).1 ++ (restOfNumber cs).2 ∧ '\n' ∉ (restOfNumber cs).1 := by
  have hwhole := List.takeWhile_append_dropWhile (p := Char.isDigit) (l := cs)
  have hdigits := fun ds => not_mem_takeWhile (p := Char.isDigit) (c := '\n') (by decide) ds
  simp only [restOfNumber]
  split
  · next d rest heq =>
    rw [heq] at hwhole
    split
    · next hd =>
      have hne : '\n' ≠ d := by
        rintro rfl
        cases hd
      refine ⟨?_, ?_⟩
      · rw [List.append_assoc, List.cons_append, List.cons_append,
          List.takeWhile_append_dropWhile, hwhole]
      · simp [hdigits, hne]
    · exact ⟨hwhole.symm, hdigits cs⟩
  · exact ⟨hwhole.symm, hdigits cs⟩

/-- Over a token the line goes up by all its line ends but those that it hides. -/
theorem readToken_lines {line : Nat} {c : Char} {cs : List Char} {r : Reading}
    (h : readToken line c cs = .ok r) :
    ∃ written, cs = written ++ r.rest ∧
      r.line + hiddenLineEnds (c :: written) = line + (c :: written).count '\n' := by
  unfold readToken at h
  split at h
  · next hc =>
    cases h
    exact ⟨[], rfl, by rw [hc]; rfl⟩
  next hline =>
  split at h
  · next hc =>
    obtain ⟨rfl, hhead⟩ := hc
    obtain ⟨rest, rfl⟩ := List.head?_eq_some_iff.1 hhead
    cases h
    exact ⟨['>'], rfl, rfl⟩
  have hempty : '\n' ∉ [c] := by simpa using Ne.symm hline
  split at h
  · next m hm =>
    cases h
    have hquote : c ≠ '"' ∧ c ≠ '\'' ∧ c ≠ '`' := by
      refine ⟨?_, ?_, ?_⟩ <;> rintro rfl <;> cases hm
    exact ⟨[], rfl, count_of_unquoted hquote hempty line⟩
  split at h
  · next hc =>
    subst hc
    refine ofLiteral_lines hline h fun l hl => ?_
    simpa [hiddenLineEnds] using delimited_lines (by decide) hl
  next hdouble =>
  split at h
  · next hc =>
    subst hc
    exact ofLiteral_lines hline h fun l hl => singleQuoted_lines hl
  next hsingle =>
  split at h
  · next hc =>
    subst hc
    refine ofLiteral_lines hline h fun l hl => ?_
    simpa [hiddenLineEnds] using delimited_lines (by decide) hl
  next hback =>
  have hquote : c ≠ '"' ∧ c ≠ '\'' ∧ c ≠ '`' := ⟨hdouble, hsingle, hback⟩
  split at h
  · cases h
    obtain ⟨hcs, hdigits⟩ := restOfNumber_split cs
    exact ⟨_, hcs, count_of_unquoted hquote (by simp [Ne.symm hline, hdigits]) line⟩
  split at h
  · cases h
    have hname := not_mem_takeWhile (p := isNameChar) (c := '\n') (by decide) cs
    exact ⟨cs.takeWhile isNameChar, List.takeWhile_append_dropWhile.symm,
      count_of_unquoted hquote (by simp [Ne.symm hline, hname]) line⟩
  · cases h
    exact ⟨[], rfl, count_of_unquoted hquote hempty line⟩

/-! ### All tokens -/

/-- The number of line ends that tokens hide. -/
def hiddenBy : List Piece → Nat
  | [] => 0
  | p :: pieces => hiddenLineEnds p.written + hiddenBy pieces

/-- The text before the token with this number, the end of the text being the last token. -/
def charsBefore (pieces : List Piece) (last : List Char) (i : Nat) : List Char :=
  (pieces.take i).flatMap Piece.chars ++ ((pieces[i]?).map (·.gap)).getD last

/-- The tokens of a text from this line on, its end included, bear the lines at which the count
of line ends arrives, without those that are hidden. -/
structure Cut.HasLines (line : Nat) (pieces : List Piece) (last : List Char)
    (tokens : List PlacedToken) : Prop where
  tokens_eq : tokens.map (·.token) = pieces.map (·.token) ++ [.eof]
  line_add : ∀ (i : Nat) t, tokens[i]? = some t →
    t.line + hiddenBy (pieces.take i) = line + (charsBefore pieces last i).count '\n'

/-- One more piece in front: the count goes on over its gap, and then over its token. -/
theorem Cut.HasLines.push {line line' line'' : Nat} {gap written last : List Char} {t : Token}
    {pieces : List Piece} {s : TokenStream} (h : HasLines line'' pieces last s.toList)
    (hline : line' = line + gap.count '\n')
    (hcount : line'' + hiddenLineEnds written = line' + written.count '\n') :
    HasLines line (⟨gap, written, t⟩ :: pieces) last (s.push ⟨t, line'⟩).toList where
  tokens_eq := by simp [h.tokens_eq]
  line_add := by
    rw [TokenStream.toList_push]
    rintro (_ | i) u hu
    · cases hu
      simpa [hiddenBy, charsBefore] using hline
    · have := h.line_add i u hu
      simp only [hiddenBy, charsBefore, List.take_succ_cons, List.flatMap_cons, List.append_assoc,
        Piece.chars, List.count_append,
        List.getElem?_cons_succ] at this ⊢
      omega

theorem scanFrom_lines {line : Nat} {cs : List Char} {s : TokenStream}
    (h : scanFrom line cs = .ok s) :
    ∃ pieces last, Cut cs pieces last ∧ Cut.HasLines line pieces last s.toList := by
  fun_induction scanFrom line cs generalizing s with
  | case1 => cases h
  | case2 line cs line' hgap =>
    cases h
    obtain ⟨gap, hcs, hline⟩ := skipGap_lines hgap
    refine ⟨[], cs, .done hgap, rfl, fun i t ht => ?_⟩
    rcases i with _ | i
    · cases ht
      simpa [hiddenBy, charsBefore, hcs] using hline
    · cases ht
  | case3 => cases h
  | case4 line cs line' c rest hgap r htoken ih =>
    cases hs : scanFrom r.line r.rest with
    | error e => rw [hs] at h; cases h
    | ok s' =>
      rw [hs] at h
      cases h
      obtain ⟨pieces, last, hcut, hlines⟩ := ih hs
      obtain ⟨gap, hcs, hline⟩ := skipGap_lines hgap
      obtain ⟨written, hrest, hcount⟩ := readToken_lines htoken
      rw [hrest] at hgap htoken hcs
      rw [hcs] at hgap ⊢
      exact ⟨_, last, .token hgap htoken hcut, hlines.push hline hcount⟩

theorem escapedLineEnds_eq_zero {cs : List Char} (h : ¬ ['\\', '\n'] <:+: cs) :
    escapedLineEnds cs = 0 := by
  fun_induction escapedLineEnds cs with
  | case1 c cs ih =>
    have hc : c ≠ '\n' := by
      rintro rfl
      exact h (List.prefix_append ['\\', '\n'] cs).isInfix
    rw [if_neg hc, ih fun hcs => h (hcs.trans (List.suffix_append ['\\', c] cs).isInfix)]
  | case2 c cs _ ih => exact ih fun hcs => h (hcs.trans (List.suffix_cons c cs).isInfix)
  | case3 => rfl

theorem hiddenLineEnds_eq_zero {cs : List Char} (h : ¬ ['\\', '\n'] <:+: cs) :
    hiddenLineEnds cs = 0 := by
  unfold hiddenLineEnds
  split
  · rfl
  · next c cs _ =>
    split
    · exact escapedLineEnds_eq_zero fun hcs => h (hcs.trans (List.suffix_cons c cs).isInfix)
    · rfl
  · rfl

/-- Without a line end after a backslash, none is hidden. -/
theorem Cut.hiddenBy_eq_zero {cs last : List Char} {pieces : List Piece} (hcut : Cut cs pieces last)
    (h : ¬ ['\\', '\n'] <:+: cs) : hiddenBy pieces = 0 := by
  induction hcut with
  | done => rfl
  | @token _ _ _ gap cs rest _ c _ pieces _ _ _ ih =>
    have hwritten : ¬ ['\\', '\n'] <:+: c :: cs := fun hcs =>
      h ((hcs.trans (List.prefix_append _ rest).isInfix).trans (List.suffix_append gap _).isInfix)
    have hrest : hiddenBy pieces = 0 := ih fun hcs =>
      h ((hcs.trans (List.suffix_append (c :: cs) rest).isInfix).trans
        (List.suffix_append gap _).isInfix)
    rw [hiddenBy, hiddenLineEnds_eq_zero hwritten, hrest]

theorem hiddenBy_take_le (pieces : List Piece) (i : Nat) :
    hiddenBy (pieces.take i) ≤ hiddenBy pieces := by
  induction pieces generalizing i with
  | nil => exact Nat.le_of_eq (congrArg hiddenBy List.take_nil)
  | cons p pieces ih =>
    cases i with
    | zero => exact Nat.zero_le _
    | succ i => exact Nat.add_le_add_left (ih i) _

/-- Every token bears the line at which the count of line ends before it arrives, and all of them
bear the right one just if no token hides a line end; for instance, where none stands after a
backslash. -/
theorem tokenize_lines {text : String} {tokens : List PlacedToken}
    (h : tokenize text = .ok tokens) :
    ∃ pieces last, Cut text.toList pieces last ∧ text.toList = pieces.flatMap Piece.chars ++ last ∧
      Cut.HasLines 1 pieces last tokens ∧
      ((∀ (i : Nat) t, tokens[i]? = some t →
        t.line = 1 + (charsBefore pieces last i).count '\n') ↔ hiddenBy pieces = 0) ∧
      (¬ ['\\', '\n'] <:+: text.toList → hiddenBy pieces = 0) := by
  obtain ⟨s, hs, rfl⟩ : ∃ s, scan text = .ok s ∧ s.toList = tokens := by
    unfold tokenize at h
    cases hs : scan text with
    | error e => rw [hs] at h; cases h
    | ok s => rw [hs] at h; cases h; exact ⟨s, rfl, rfl⟩
  obtain ⟨pieces, last, hcut, hlines⟩ := scanFrom_lines hs
  refine ⟨pieces, last, hcut, hcut.eq_append, hlines, ⟨fun hall => ?_, fun hnone i t ht => ?_⟩,
    hcut.hiddenBy_eq_zero⟩
  · -- the end of the text stands behind all tokens
    have hlen : s.toList.length = pieces.length + 1 := by
      simpa using congrArg List.length hlines.tokens_eq
    have hend : s.toList[pieces.length]? = some s.toList[pieces.length] :=
      List.getElem?_eq_getElem (by omega)
    have hadd := hlines.line_add _ _ hend
    rw [hall _ _ hend, List.take_length] at hadd
    omega
  · have hadd := hlines.line_add i t ht
    have hle := hiddenBy_take_le pieces i
    omega

theorem tokenize_lines_comment :
    tokenize "/* a\n*/ 'b' '''c\nd''' e" = .ok
      [⟨.str "b", 2⟩, ⟨.str "c\nd", 2⟩, ⟨.ident "e", 3⟩, ⟨.eof, 3⟩] ∧
    ∃ pieces last, Cut "/* a\n*/ 'b' '''c\nd''' e".toList pieces last ∧
      ∀ (i : Nat) (t : PlacedToken),
        [⟨.str "b", 2⟩, ⟨.str "c\nd", 2⟩, ⟨.ident "e", 3⟩, ⟨.eof, 3⟩][i]? = some t →
          t.line = 1 + (charsBefore pieces last i).count '\n' := by
  have htokens : tokenize "/* a\n*/ 'b' '''c\nd''' e" = .ok
      [⟨.str "b", 2⟩, ⟨.str "c\nd", 2⟩, ⟨.ident "e", 3⟩, ⟨.eof, 3⟩] :=
    eq_ok_of_toOption (by decide +kernel)
  obtain ⟨pieces, last, hcut, -, -, hright, hnone⟩ := tokenize_lines htokens
  exact ⟨htokens, pieces, last, hcut, hright.2 (hnone (by decide +kernel))⟩

/-- The name after a literal that hides a line end stands behind one line end, but bears the first
line. -/
theorem line_astray_escape :
    ∃ pieces last tokens, Cut "'a\\\nb' c".toList pieces last ∧
      tokenize "'a\\\nb' c" = .ok tokens ∧
      ¬ ∀ (i : Nat) t, tokens[i]? = some t →
        t.line = 1 + (charsBefore pieces last i).count '\n' := by
  have htext : "'a\\\nb' c".toList = ['\'', 'a', '\\', '\n', 'b', '\'', ' ', 'c'] := by decide
  have hend : Cut [] [] [] := @Cut.done 1 _ _ rfl
  have hname : Cut [' ', 'c'] [⟨[' '], ['c'], .ident "c"⟩] [] :=
    @Cut.token 1 1 1 [' '] [] [] [] 'c' _ _ rfl rfl hend
  have hcut : Cut ['\'', 'a', '\\', '\n', 'b', '\'', ' ', 'c']
      [⟨[], ['\'', 'a', '\\', '\n', 'b', '\''], .str "a\nb"⟩, ⟨[' '], ['c'], .ident "c"⟩] [] :=
    @Cut.token 1 1 1 [] ['a', '\\', '\n', 'b', '\''] _ _ '\'' _ _ rfl rfl hname
  have htokens : tokenize "'a\\\nb' c" = .ok
      [⟨.str "a\nb", 1⟩, ⟨.ident "c", 1⟩, ⟨.eof, 1⟩] := eq_ok_of_toOption (by decide +kernel)
  refine ⟨_, _, _, htext ▸ hcut, htokens, fun hright => ?_⟩
  exact absurd (hright 1 ⟨.ident "c", 1⟩ rfl) (by decide)

end Mockup.Schema
