import Mathlib.Data.List.TakeWhile
import Mockup.Proofs.Schema.Spelling

/-!
# Tokens as written

Every token that a text can have can also be written, and is read back as itself wherever a blank
follows it.

* `Token.isLexeme`: the tokens that texts are made of;
* `Token.written`, `spaced`: a token as written, and tokens with blanks between them;
* `Token.EndsBefore`: the characters that cannot go on with a token, with `Spells.written`;
* `tokenize_spaced`: tokens that are written are read back;
* `isLexeme_of_mem_scan`: the tokens of a text are those that can be written.
-/

namespace Mockup.Schema

/-! ### What tokens are made of -/

/-- The text is a bare name, or a color such as `#3498DB`. -/
def isWord (cs : List Char) : Bool :=
  match cs with
  | [] => false
  | c :: cs => (c = '#' || isNameStart c) && cs.all isNameChar

/-- The text is a row of digits, with a point and more digits after it or without. -/
def isNumeral (cs : List Char) : Bool :=
  !(cs.takeWhile Char.isDigit).isEmpty &&
    match cs.dropWhile Char.isDigit with
    | [] => true
    | c :: ds => c = '.' && !ds.isEmpty && ds.all Char.isDigit

/-- The characters that stand for themselves: no blanks, and none that starts another token. -/
def isSymbolChar (c : Char) : Bool :=
  !Text.isBlank c && (Mark.ofChar? c).isNone && !(['"', '\'', '`', '#'].contains c) && !c.isDigit
    && !isNameStart c

namespace Token

/-- The token can be one of a text, before its end. -/
def isLexeme : Token → Bool
  | .ident s => isWord s.toList
  | .num s => isNumeral s.toList
  | .symbol c => isSymbolChar c
  | .eof => false
  | .quoted _ | .str _ | .expr _ | .mark _ | .newline => true

end Token

/-! ### Writing -/

/-- The text with a backslash before each backslash and each delimiter. -/
def escaped (delimiter : Char) (cs : List Char) : List Char :=
  cs.flatMap fun c => if c = '\\' ∨ c = delimiter then ['\\', c] else [c]

/-- The text between two delimiters. -/
def enclosed (delimiter : Char) (s : String) : List Char :=
  delimiter :: (escaped delimiter s.toList ++ [delimiter])

namespace Token

/-- The token as written. -/
def written : Token → List Char
  | .ident s | .num s => s.toList
  | .quoted s => enclosed '"' s
  | .str s => enclosed '\'' s
  | .expr s => enclosed '`' s
  | .mark m => m.chars
  | .symbol c => [c]
  | .newline => ['\n']
  | .eof => []

/-- The character cannot go on with the token that it follows. -/
def EndsBefore (c : Char) : Token → Prop
  | .ident _ => isNameChar c = false
  | .num _ => c.isDigit = false ∧ c ≠ '.'
  | .str _ => c ≠ '\''
  | .mark .less => c ≠ '>'
  | .symbol d => d = '/' → c ≠ '/' ∧ c ≠ '*'
  | _ => True

theorem endsBefore_blank (t : Token) : t.EndsBefore ' ' := by
  unfold EndsBefore
  split <;> first | trivial | decide | exact fun _ => by decide

end Token

/-- The tokens as written, with a blank between each two. -/
def spaced (ts : List Token) : String :=
  String.ofList ([' '].intercalate (ts.map Token.written))

/-! ### Reading names and numbers -/

section Words

variable {p : Char → Bool} {cs tail : List Char}

theorem takeWhile_eq_of_stop (hcs : ∀ c ∈ cs, p c = true) (htail : ∀ c ∈ tail.head?, p c = false) :
    (cs ++ tail).takeWhile p = cs := by
  rw [takeWhile_append_of_stop htail, List.takeWhile_eq_self_iff.2 hcs]

theorem dropWhile_eq_of_stop (hcs : ∀ c ∈ cs, p c = true) (htail : ∀ c ∈ tail.head?, p c = false) :
    (cs ++ tail).dropWhile p = tail := by
  rw [dropWhile_append_of_stop htail, List.dropWhile_eq_nil_iff.2 hcs, List.nil_append]

theorem startsToken_of_isWord {c : Char} (h : (c = '#' || isNameStart c) = true) :
    StartsToken c := by
  rcases (Bool.or_eq_true _ _).mp h with h | h
  · obtain rfl := of_decide_eq_true h
    exact ⟨by decide, .inr (by decide)⟩
  · exact startsToken_of_isNameStart h

theorem readToken_word {c : Char} (h : (c = '#' || isNameStart c) = true) (line : Nat)
    (cs : List Char) :
    readToken line c cs
      = .ok ⟨.ident (String.ofList (c :: cs.takeWhile isNameChar)), line,
          cs.dropWhile isNameChar⟩ := by
  rcases (Bool.or_eq_true _ _).mp h with h | h
  · obtain rfl := of_decide_eq_true h
    rfl
  · exact readToken_name h line cs

/-- The part of a numeral after its first digit is what the reader takes. -/
theorem restOfNumber_numeral {d : Char} (h : isNumeral (d :: cs) = true)
    (htail : ∀ c ∈ tail.head?, c.isDigit = false ∧ c ≠ '.') :
    d.isDigit = true ∧ restOfNumber (cs ++ tail) = (cs, tail) := by
  have hstop : ∀ c ∈ tail.head?, c.isDigit = false := fun c hc => (htail c hc).1
  obtain ⟨hwhole, hrest⟩ := (Bool.and_eq_true _ _).mp h
  have hd : d.isDigit = true := by
    by_cases hd : d.isDigit = true
    · exact hd
    · simp [hd] at hwhole
  refine ⟨hd, ?_⟩
  rw [List.dropWhile_cons_of_pos hd] at hrest
  unfold restOfNumber
  dsimp only
  rw [takeWhile_append_of_stop hstop, dropWhile_append_of_stop hstop]
  have hsplit := List.takeWhile_append_dropWhile (p := Char.isDigit) (l := cs)
  rcases hcs : cs.dropWhile Char.isDigit with _ | ⟨c, fraction⟩
  · rw [hcs, List.append_nil] at hsplit
    rw [hsplit, List.nil_append]
    rcases tail with _ | ⟨c, tail⟩
    · rfl
    · have hdot : c ≠ '.' := (htail c rfl).2
      simp [hdot]
  · rw [hcs] at hrest hsplit
    simp only [Bool.and_eq_true, decide_eq_true_eq, Bool.not_eq_true', List.all_eq_true] at hrest
    obtain ⟨⟨rfl, hne⟩, hall⟩ := hrest
    rcases fraction with _ | ⟨e, fraction⟩
    · simp at hne
    · obtain ⟨he, hfraction⟩ := List.forall_mem_cons.1 hall
      simp only [List.cons_append, he, if_true, takeWhile_eq_of_stop hfraction hstop,
        dropWhile_eq_of_stop hfraction hstop, hsplit]

end Words

/-! ### Reading literals -/

theorem delimited_escaped {close : Char} (hclose : close ≠ '\\') (hline : close ≠ '\n')
    (hself : unescape close = close) (cs tail : List Char) :
    delimited close (escaped close cs ++ close :: tail) = some ⟨cs, cs.count '\n', tail⟩ := by
  induction cs with
  | nil => exact delimited_close close tail
  | cons c cs ih =>
    have hcons : escaped close (c :: cs)
        = (if c = '\\' ∨ c = close then ['\\', c] else [c]) ++ escaped close cs := rfl
    rw [hcons]
    by_cases hc : c = '\\' ∨ c = close
    · -- after a backslash the character stands for itself, and is no line end
      have hunescape : unescape c = c := by
        rcases hc with rfl | rfl
        · rfl
        · exact hself
      have hcount : c ≠ '\n' := by
        rcases hc with rfl | rfl
        · decide
        · exact hline
      rw [if_pos hc, List.append_assoc]
      show delimited close ('\\' :: c :: (escaped close cs ++ close :: tail)) = _
      rw [delimited_escape hclose.symm, ih, hunescape, List.count_cons_of_ne hcount]
      rfl
    · obtain ⟨hescape, hne⟩ := not_or.1 hc
      rw [if_neg hc, List.append_assoc]
      show delimited close (c :: (escaped close cs ++ close :: tail)) = _
      rw [delimited_cons hne hescape, ih]
      simp only [Option.map_some, Literal.push, List.count_cons, beq_iff_eq]
      split <;> rfl

/-- Two single quotes with nothing between them do not open a longer literal, if no third one
follows. -/
theorem singleQuoted_escaped (cs : List Char) {tail : List Char}
    (htail : ∀ c ∈ tail.head?, c ≠ '\'') :
    singleQuoted (escaped '\'' cs ++ '\'' :: tail) = some ⟨cs, cs.count '\n', tail⟩ := by
  have htwo : ∀ ds, escaped '\'' cs ++ '\'' :: tail = '\'' :: '\'' :: ds → False := by
    intro ds heq
    rcases cs with _ | ⟨c, cs⟩
    · obtain rfl : tail = '\'' :: ds := (List.cons.inj heq).2
      exact htail '\'' rfl rfl
    · by_cases hc : c = '\\' ∨ c = '\'' <;> simp [escaped, hc] at heq
      exact hc (.inr heq.1)
  rw [singleQuoted.eq_2 _ htwo]
  exact delimited_escaped (by decide) (by decide) rfl cs tail

/-! ### Reading tokens -/

theorem skipGap_symbol {c : Char} (hblank : Text.isBlank c = false) {tail : List Char}
    (htail : ∀ d ∈ tail.head?, c = '/' → d ≠ '/' ∧ d ≠ '*') (line : Nat) :
    skipGap .plain line (c :: tail) = .ok (line, c :: tail) := by
  have hcomment : ∀ ds, c = '/' → tail = '/' :: ds → False := by
    rintro ds hc rfl
    exact (htail '/' rfl hc).1 rfl
  have hblock : ∀ ds, c = '/' → tail = '*' :: ds → False := by
    rintro ds hc rfl
    exact (htail '*' rfl hc).2 rfl
  rw [skipGap.eq_4 _ _ _ hcomment hblock, if_neg (by simp [hblank])]

theorem readToken_symbol {c : Char} (h : isSymbolChar c = true) (line : Nat) (cs : List Char) :
    readToken line c cs = .ok ⟨.symbol c, line, cs⟩ := by
  have hne : ∀ d, isSymbolChar d = false → c ≠ d := by
    rintro d hd rfl
    rw [h] at hd
    cases hd
  have hmark : Mark.ofChar? c = none := by
    simp only [isSymbolChar, Bool.and_eq_true, Option.isNone_iff_eq_none] at h
    exact h.1.1.1.2
  have hdigit : c.isDigit = false ∧ isNameStart c = false := by
    simp only [isSymbolChar, Bool.and_eq_true, Bool.not_eq_true'] at h
    exact ⟨h.1.2, h.2⟩
  simp [readToken, hmark, hdigit, hne '\n' (by decide), hne '<' (by decide), hne '"' (by decide),
    hne '\'' (by decide), hne '`' (by decide), hne '#' (by decide)]

section Written

variable {t : Token} {tail : List Char}

/-- A token is read back as itself from any text in which it is seen to end.  The cases are those
of the token; only a slash can be taken for something else before a token is read at all. -/
theorem scanFrom_written (ht : t.isLexeme = true) (htail : ∀ c ∈ tail.head?, t.EndsBefore c)
    (line : Nat) :
    scanFrom line (t.written ++ tail)
      = TokenStream.push ⟨t, line⟩ <$> scanFrom (t.endLine line) tail := by
  have hread : ∀ {c} cs, StartsToken c →
      readToken line c (cs ++ tail) = .ok ⟨t, t.endLine line, tail⟩ →
      scanFrom line (c :: cs ++ tail)
        = TokenStream.push ⟨t, line⟩ <$> scanFrom (t.endLine line) tail :=
    fun _ hc hread => scanFrom_of_token (hc.skipGap_eq line _) hread
  have hliteral : ∀ {close s}, StartsToken close →
      readToken line close (escaped close s.toList ++ close :: tail)
        = .ok ⟨t, t.endLine line, tail⟩ →
      scanFrom line (enclosed close s ++ tail)
        = TokenStream.push ⟨t, line⟩ <$> scanFrom (t.endLine line) tail := by
    intro close s hc hread
    rw [enclosed, List.cons_append, List.append_assoc, List.singleton_append]
    exact scanFrom_of_token (hc.skipGap_eq line _) hread
  cases t with
  | ident s =>
    rcases hs : s.toList with _ | ⟨c, cs⟩
    · simp [Token.isLexeme, hs, isWord] at ht
    · rw [Token.isLexeme, hs] at ht
      obtain ⟨hc, hcs⟩ := (Bool.and_eq_true _ _).mp ht
      have hall : ∀ d ∈ cs, isNameChar d = true := List.all_eq_true.1 hcs
      rw [Token.written, hs]
      refine hread cs (startsToken_of_isWord hc) ?_
      rw [readToken_word hc, takeWhile_eq_of_stop hall htail, dropWhile_eq_of_stop hall htail,
        ← hs, String.ofList_toList]
      rfl
  | num s =>
    rcases hs : s.toList with _ | ⟨d, cs⟩
    · simp [Token.isLexeme, hs, isNumeral] at ht
    · rw [Token.isLexeme, hs] at ht
      obtain ⟨hd, hrest⟩ := restOfNumber_numeral ht htail
      rw [Token.written, hs]
      refine hread cs (startsToken_of_isDigit hd) ?_
      rw [readToken_number hd, hrest, ← hs, String.ofList_toList]
      rfl
  | quoted s =>
    have hdelimited := delimited_escaped (by decide) (by decide)
      (rfl : unescape '"' = '"') s.toList tail
    refine hliteral ⟨by decide, .inr (by decide)⟩ ?_
    simp [readToken, Mark.ofChar?, hdelimited, ofLiteral, Token.endLine]
  | str s =>
    have hsingle := singleQuoted_escaped s.toList htail
    refine hliteral ⟨by decide, .inr (by decide)⟩ ?_
    simp [readToken, Mark.ofChar?, hsingle, ofLiteral, Token.endLine]
  | expr s =>
    have hdelimited := delimited_escaped (by decide) (by decide)
      (rfl : unescape '`' = '`') s.toList tail
    refine hliteral ⟨by decide, .inr (by decide)⟩ ?_
    simp [readToken, Mark.ofChar?, hdelimited, ofLiteral, Token.endLine]
  | mark m =>
    cases m with
    | less =>
      refine hread [] (startsToken_of_mark (c := '<') rfl) ?_
      have hhead : tail.head? ≠ some '>' := fun h => htail '>' h rfl
      simp [readToken, hhead, Mark.ofChar?, Token.endLine]
    | lessGreater => exact hread ['>'] (startsToken_of_mark (c := '<') rfl) rfl
    | _ => exact hread [] (startsToken_of_mark rfl) (readToken_mark rfl (by decide) _ _)
  | symbol c =>
    have hblank : Text.isBlank c = false := by
      simp only [Token.isLexeme, isSymbolChar, Bool.and_eq_true, Bool.not_eq_true'] at ht
      exact ht.1.1.1.1
    exact scanFrom_of_token (skipGap_symbol hblank htail line) (readToken_symbol ht line tail)
  | newline => exact hread [] ⟨by decide, .inl rfl⟩ rfl
  | eof => cases ht

/-- A token, before something that cannot go on with it. -/
theorem Spells.written (ht : t.isLexeme = true) {c : Char} {cs : List Char} {ts : List Token}
    (hc : t.EndsBefore c) (h : Spells (c :: cs) ts) : Spells (t.written ++ c :: cs) (t :: ts) := by
  intro line tail
  have hhead : ∀ d ∈ (c :: cs ++ tail).head?, t.EndsBefore d := by
    rintro d hd
    cases hd
    exact hc
  rw [List.append_assoc, scanFrom_written ht hhead, h, ← comp_map]
  rfl

/-- A token with a blank after it. -/
theorem Spells.writtenBlank (ht : t.isLexeme = true) {cs : List Char} {ts : List Token}
    (h : Spells cs ts) : Spells (t.written ++ ' ' :: cs) (t :: ts) :=
  .written ht t.endsBefore_blank h.blank

end Written

/-- The tokens with their lines, as they stand in the text. -/
theorem scanFrom_spaced {ts : List Token} (h : ∀ t ∈ ts, t.isLexeme = true) (line : Nat) :
    scanFrom line ([' '].intercalate (ts.map Token.written))
      = .ok ⟨placed line ts, lineAfter line ts⟩ := by
  induction ts generalizing line with
  | nil => exact scanFrom_of_end rfl
  | cons t ts ih =>
    obtain ⟨ht, hts⟩ := List.forall_mem_cons.1 h
    cases ts with
    | nil =>
      have hend : scanFrom (t.endLine line) [] = .ok ⟨[], t.endLine line⟩ := scanFrom_of_end rfl
      rw [List.map_singleton, List.intercalate_singleton, ← List.append_nil t.written,
        scanFrom_written ht (by simp), hend]
      rfl
    | cons u ts =>
      have hhead : ∀ c ∈ (' ' :: [' '].intercalate ((u :: ts).map Token.written)).head?,
          t.EndsBefore c := by
        rintro c hc
        cases hc
        exact t.endsBefore_blank
      have hgap : ∀ line cs, scanFrom line (' ' :: cs) = scanFrom line cs := by
        intro line cs
        refine scanFrom_congr ?_
        rw [skipGap.eq_4 _ _ _ (fun _ hc => absurd hc (by decide))
          (fun _ hc => absurd hc (by decide)), if_pos (by decide)]
      rw [List.map_cons, List.map_cons, List.intercalate_cons_cons, ← List.map_cons,
        List.append_assoc, List.singleton_append, scanFrom_written ht hhead, hgap, ih hts]
      rfl

theorem map_token_placed (line : Nat) (ts : List Token) :
    (placed line ts).map PlacedToken.token = ts := by
  induction ts generalizing line with
  | nil => rfl
  | cons t ts ih => exact congrArg (t :: ·) (ih _)

/-- Tokens that are written with blanks between them are read back, with the end of the text after
them. -/
theorem tokenize_spaced {ts : List Token} (h : ∀ t ∈ ts, t.isLexeme = true) :
    List.map PlacedToken.token <$> tokenize (spaced ts) = .ok (ts ++ [.eof]) := by
  have hscan : scan (spaced ts) = .ok ⟨placed 1 ts, lineAfter 1 ts⟩ := by
    rw [scan, spaced, String.toList_ofList]
    exact scanFrom_spaced h 1
  rw [tokenize, hscan]
  show Except.ok ((placed 1 ts ++ [(⟨.eof, lineAfter 1 ts⟩ : PlacedToken)]).map _) = _
  rw [List.map_append, map_token_placed]
  rfl

theorem tokenize_spaced_sample :
    spaced [.str "", .str "it's", .quoted "a\\", .mark .less, .mark .greater, .num "1", .mark .dot,
      .num "2.5", .symbol '/', .symbol '*', .newline, .ident "#f0"]
        = "'' 'it\\'s' \"a\\\\\" < > 1 . 2.5 / * \n #f0" ∧
    List.map PlacedToken.token <$> tokenize "'' 'it\\'s' \"a\\\\\" < > 1 . 2.5 / * \n #f0"
      = .ok [.str "", .str "it's", .quoted "a\\", .mark .less, .mark .greater, .num "1", .mark .dot,
        .num "2.5", .symbol '/', .symbol '*', .newline, .ident "#f0", .eof] := by
  have htext : spaced [.str "", .str "it's", .quoted "a\\", .mark .less, .mark .greater, .num "1",
      .mark .dot, .num "2.5", .symbol '/', .symbol '*', .newline, .ident "#f0"]
        = "'' 'it\\'s' \"a\\\\\" < > 1 . 2.5 / * \n #f0" := by
    decide +kernel
  refine ⟨htext, ?_⟩
  rw [← htext]
  exact tokenize_spaced (by decide +kernel)

/-! ### Tokens that are read can be written -/

/-- A gap ends before a line end or before a character that is no blank. -/
theorem not_isBlank_of_skipGap {g : Gap} {line line' : Nat} {cs rest : List Char} {c : Char}
    (h : skipGap g line cs = .ok (line', c :: rest)) : c = '\n' ∨ Text.isBlank c = false := by
  fun_induction skipGap g line cs with
  | case1 => cases h
  | case2 line cs ih => exact ih h
  | case3 line cs ih => exact ih h
  | case4 line d cs _ _ hblank ih => exact ih h
  | case5 line d cs _ _ hblank =>
    cases h
    by_cases hline : c = '\n'
    · exact .inl hline
    · exact .inr (Bool.eq_false_iff.2 fun hc => hblank ⟨hline, hc⟩)
  | case6 => cases h
  | case7 => cases h; exact .inl rfl
  | case8 line d cs _ ih => exact ih h
  | case9 => cases h
  | case10 opened line cs ih => exact ih h
  | case11 opened line d cs _ ih => exact ih h

theorem isNumeral_restOfNumber {c : Char} (hc : c.isDigit = true) (cs : List Char) :
    isNumeral (c :: (restOfNumber cs).1) = true := by
  have hwhole : ∀ d ∈ cs.takeWhile Char.isDigit, d.isDigit = true :=
    fun d hd => List.all_eq_true.1 List.all_takeWhile d hd
  have hdigits : ∀ ds : List Char, (∀ d ∈ ds.head?, d.isDigit = false) →
      (c :: (cs.takeWhile Char.isDigit ++ ds)).takeWhile Char.isDigit
        = c :: cs.takeWhile Char.isDigit ∧
      (c :: (cs.takeWhile Char.isDigit ++ ds)).dropWhile Char.isDigit = ds := by
    intro ds hds
    rw [List.takeWhile_cons_of_pos hc, List.dropWhile_cons_of_pos hc,
      takeWhile_eq_of_stop hwhole hds, dropWhile_eq_of_stop hwhole hds]
    exact ⟨rfl, rfl⟩
  have hnone : isNumeral (c :: cs.takeWhile Char.isDigit) = true := by
    obtain ⟨htake, hdrop⟩ := hdigits [] (by simp)
    rw [List.append_nil] at htake hdrop
    simp [isNumeral, htake, hdrop]
  simp only [restOfNumber]
  split
  · next d rest _ =>
    by_cases hd : d.isDigit = true
    · obtain ⟨htake, hdrop⟩ := hdigits ('.' :: d :: rest.takeWhile Char.isDigit) (by simp)
      rw [if_pos hd]
      simp [isNumeral, htake, hdrop, hd]
    · rw [if_neg hd]
      exact hnone
  · exact hnone

theorem exists_token_of_ofLiteral {line : Nat} {make : String → Token} {o : Option Literal}
    {r : Reading} (h : ofLiteral line make o = .ok r) : ∃ s, r.token = make s := by
  cases o with
  | none => cases h
  | some l => cases h; exact ⟨_, rfl⟩

theorem isLexeme_of_readToken {line : Nat} {c : Char} {cs : List Char} {r : Reading}
    (hc : c = '\n' ∨ Text.isBlank c = false) (h : readToken line c cs = .ok r) :
    r.token.isLexeme = true := by
  unfold readToken at h
  split at h
  · cases h; rfl
  split at h
  · cases h; rfl
  split at h
  · cases h; rfl
  next hline _ _ hmark =>
  split at h
  · obtain ⟨s, hs⟩ := exists_token_of_ofLiteral h
    rw [hs]
    rfl
  split at h
  · obtain ⟨s, hs⟩ := exists_token_of_ofLiteral h
    rw [hs]
    rfl
  split at h
  · obtain ⟨s, hs⟩ := exists_token_of_ofLiteral h
    rw [hs]
    rfl
  next hquoted hstr hexpr =>
  split at h
  · next hdigit =>
    cases h
    rw [Token.isLexeme, String.toList_ofList]
    exact isNumeral_restOfNumber hdigit cs
  split at h
  · next hstart =>
    cases h
    rw [Token.isLexeme, String.toList_ofList, isWord, hstart, Bool.true_and]
    exact List.all_takeWhile
  · next hdigit hstart =>
    cases h
    have hblank := hc.resolve_left hline
    have hword : c ≠ '#' ∧ isNameStart c = false := by simpa using hstart
    simp [Token.isLexeme, isSymbolChar, hblank, hmark, hquoted, hstr, hexpr, hdigit, hword]

theorem isLexeme_of_mem_scanFrom {line : Nat} {cs : List Char} {s : TokenStream}
    (h : scanFrom line cs = .ok s) : ∀ t ∈ s.tokens, t.token.isLexeme = true := by
  fun_induction scanFrom line cs generalizing s with
  | case1 => cases h
  | case2 => cases h; simp
  | case3 => cases h
  | case4 line cs line' c rest hgap r htoken ih =>
    obtain ⟨s', hs', hpush⟩ := exists_ok_of_bind h
    cases hpush
    have hfirst := isLexeme_of_readToken (not_isBlank_of_skipGap hgap) htoken
    exact List.forall_mem_cons.2 ⟨hfirst, ih hs'⟩

/-- The tokens of a text are those that can be written. -/
theorem isLexeme_of_mem_scan {text : String} {s : TokenStream} (h : scan text = .ok s) :
    ∀ t ∈ s.tokens, t.token.isLexeme = true :=
  isLexeme_of_mem_scanFrom h

end Mockup.Schema
