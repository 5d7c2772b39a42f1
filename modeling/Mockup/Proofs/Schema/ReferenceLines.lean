import Mockup.Proofs.Schema.SettledBlocks

/-!
# The lines of references

A reference that is no setting stands on a line: after its keyword and a colon, or between the
braces of a block.  Here is what such a line is made of, what makes it a reference, and that the
whole text is refused at this line when it is none.

* `LineTokens`: the tokens that count on a line, with `refTokens_of_lineTokens`;
* `IsEndpoint`, `isSome_endpoint?_iff`: names with points between them;
* `Malformed`, `reference_of_malformed`: tokens that are no reference;
* `Reaches`, `ReachesLine`, `Standalone`: the places where a line of references starts;
* `parse_of_malformed`: a line that is no reference is an error of the text.
-/

namespace Mockup.Schema

/-! ### What counts on a line -/

/-- The tokens that count on the line of a reference: all but the settings in brackets. -/
inductive LineTokens : List PlacedToken → List Token → Prop where
  | nil : LineTokens [] []
  | token {t : PlacedToken} {ts : List PlacedToken} {tokens : List Token} :
    endsLine t.token = false → t.token ≠ .mark .openBracket → LineTokens ts tokens →
      LineTokens (t :: ts) (t.token :: tokens)
  | settings {opening closing : PlacedToken} {inner ts : List PlacedToken} {tokens : List Token} :
    opening.token = .mark .openBracket → (∀ u ∈ inner, u.token ≠ .mark .closeBracket) →
      closing.token = .mark .closeBracket → LineTokens ts tokens →
      LineTokens (opening :: (inner ++ closing :: ts)) tokens

/-- The line of a reference ends with the tokens, the line, or a closing brace. -/
def EndsLine (after : List PlacedToken) : Prop :=
  ∀ t ∈ after.head?, endsLine t.token = true

theorem dropSettings_inner {inner : List PlacedToken} (opened : Nat)
    (hinner : ∀ u ∈ inner, u.token ≠ .mark .closeBracket) {closing : PlacedToken}
    (hclosing : closing.token = .mark .closeBracket) (rest : List PlacedToken) :
    dropSettings opened (inner ++ closing :: rest) = .ok rest := by
  induction inner with
  | nil => rw [List.nil_append, dropSettings, if_pos hclosing]
  | cons u inner ih =>
    obtain ⟨hu, hinner⟩ := List.forall_mem_cons.1 hinner
    rw [List.cons_append, dropSettings, if_neg hu, ih hinner]

theorem refTokens_of_lineTokens {line after : List PlacedToken} {tokens : List Token}
    (h : LineTokens line tokens) (hafter : EndsLine after) :
    refTokens (line ++ after) = .ok (tokens, after) := by
  induction h with
  | nil =>
    cases after with
    | nil => rw [List.nil_append, refTokens]
    | cons t after => rw [List.nil_append, refTokens_cons, if_pos (hafter t rfl)]
  | token hend hopen _ ih =>
    rw [List.cons_append, refTokens_cons, hend, if_neg Bool.false_ne_true, if_neg hopen, ih]
    rfl
  | @settings opening closing inner ts tokens hopening hinner hclosing _ ih =>
    have hend : ¬ endsLine opening.token = true := by
      rw [hopening]
      decide
    rw [List.cons_append, refTokens_cons, if_neg hend, if_pos hopening, List.append_assoc,
      List.cons_append, dropSettings_inner _ hinner hclosing]
    exact ih

/-! ### Ends of references -/

/-- Two names or more, with single points between them. -/
def IsEndpoint (ts : List Token) : Prop :=
  ∃ names : List Token, 2 ≤ names.length ∧ (∀ n ∈ names, n.name?.isSome = true) ∧
    ts = names.intersperse (.mark .dot)

theorem isEndpoint_of_isSome {ts : List Token} (h : (endpoint? ts).isSome = true) :
    IsEndpoint ts := by
  fun_induction endpoint? ts with
  | case1 table column =>
    refine ⟨[table, column], Nat.le_refl 2, ?_, rfl⟩
    cases htable : table.name? with
    | none => simp [htable] at h
    | some name =>
      cases hcolumn : column.name? with
      | none => simp [htable, hcolumn] at h
      | some other => simp [htable, hcolumn]
  | case2 qualifier ts hlong ih =>
    cases hqualifier : qualifier.name? with
    | none =>
      rw [hqualifier] at h
      exact absurd h Bool.false_ne_true
    | some name =>
      rw [hqualifier] at h
      obtain ⟨names, hlength, hnames, rfl⟩ := ih h
      rcases names with _ | ⟨n, names⟩
      · simp at hlength
      · refine ⟨qualifier :: n :: names, by simp, ?_, rfl⟩
        exact List.forall_mem_cons.2 ⟨by simp [hqualifier], hnames⟩
  | case3 => cases h

theorem isSome_of_isEndpoint {ts : List Token} (h : IsEndpoint ts) :
    (endpoint? ts).isSome = true := by
  obtain ⟨names, hlength, hnames, rfl⟩ := h
  induction names with
  | nil => simp at hlength
  | cons a names ih =>
    obtain ⟨ha, hnames⟩ := List.forall_mem_cons.1 hnames
    obtain ⟨name, ha⟩ := Option.isSome_iff_exists.1 ha
    rcases names with _ | ⟨b, _ | ⟨c, names⟩⟩
    · simp at hlength
    · obtain ⟨other, hb⟩ := Option.isSome_iff_exists.1 (hnames b List.mem_cons_self)
      simp [endpoint?, ha, hb]
    · have hrest := ih (by simp) hnames
      show (a.name? *> endpoint? _).isSome = true
      rw [ha]
      exact hrest

/-- The ends of a reference are names with points between them. -/
theorem isSome_endpoint?_iff {ts : List Token} : (endpoint? ts).isSome = true ↔ IsEndpoint ts :=
  ⟨isEndpoint_of_isSome, isSome_of_isEndpoint⟩

theorem endpoint_of_not_isEndpoint {ts : List Token} (h : ¬ IsEndpoint ts) (line : Nat) :
    endpoint line ts = .error ⟨line, .malformedReference (Token.join ts)⟩ := by
  have hnone : endpoint? ts = none := by simpa using mt isSome_endpoint?_iff.1 h
  rw [endpoint, hnone]

theorem endpoint_of_isEndpoint {ts : List Token} (h : IsEndpoint ts) (line : Nat) :
    ∃ c, endpoint line ts = .ok c := by
  obtain ⟨c, hc⟩ := Option.isSome_iff_exists.1 (isSome_endpoint?_iff.2 h)
  exact ⟨c, by rw [endpoint, hc]⟩

/-! ### Tokens that are no reference -/

/-- There is no sign among the tokens, or what stands on one of the sides of the first sign is not
made of names with points between them. -/
def Malformed (tokens : List Token) : Prop :=
  (∀ t ∈ tokens, t.cardinality? = none) ∨
  ∃ before sign after, tokens = before ++ sign :: after ∧ (∀ t ∈ before, t.cardinality? = none) ∧
    sign.cardinality?.isSome = true ∧ (¬ IsEndpoint before ∨ ¬ IsEndpoint after)

theorem reference_of_sign {before after : List Token} {sign : Token}
    (hbefore : ∀ t ∈ before, t.cardinality? = none) (hsign : sign.cardinality?.isSome = true)
    (line : Nat) :
    reference line (before ++ sign :: after) = do
      let source ← endpoint line before
      let target ← endpoint line after
      return ⟨sign.cardinality?.getD .manyToOne, source, target⟩ := by
  have hnone : ∀ t ∈ before, t.cardinality?.isNone = true := by
    intro t ht
    rw [hbefore t ht]
    rfl
  obtain ⟨kind, hkind⟩ := Option.isSome_iff_exists.1 hsign
  have hstop : ¬ sign.cardinality?.isNone = true := by simp [hkind]
  unfold reference
  rw [List.dropWhile_append_of_pos hnone, List.takeWhile_append_of_pos hnone,
    List.dropWhile_cons_of_neg (p := fun t : Token => t.cardinality?.isNone) hstop,
    List.takeWhile_cons_of_neg (p := fun t : Token => t.cardinality?.isNone) hstop, List.append_nil]

theorem reference_of_malformed {tokens : List Token} (h : Malformed tokens) (line : Nat) :
    ∃ written, reference line tokens = .error ⟨line, .malformedReference written⟩ := by
  rcases h with hnone | ⟨before, sign, after, rfl, hbefore, hsign, hends⟩
  · have hdrop : tokens.dropWhile (·.cardinality?.isNone) = [] := by
      rw [← List.append_nil tokens, List.dropWhile_append_of_pos fun t ht => by simp [hnone t ht]]
      rfl
    exact ⟨Token.join tokens, by rw [reference, hdrop]⟩
  · rw [reference_of_sign hbefore hsign]
    by_cases hsource : IsEndpoint before
    · obtain ⟨source, hsource'⟩ := endpoint_of_isEndpoint hsource line
      have htarget : ¬ IsEndpoint after := hends.resolve_left (not_not_intro hsource)
      rw [hsource', endpoint_of_not_isEndpoint htarget]
      exact ⟨_, rfl⟩
    · rw [endpoint_of_not_isEndpoint hsource]
      exact ⟨_, rfl⟩

theorem refLine_of_malformed {line after : List PlacedToken} {tokens : List Token}
    (hline : LineTokens line tokens) (hafter : EndsLine after) (h : Malformed tokens)
    (last : Nat) :
    ∃ written, refLine last (line ++ after)
      = .error ⟨lineOf last (line ++ after), .malformedReference written⟩ := by
  obtain ⟨written, herror⟩ := reference_of_malformed h (lineOf last (line ++ after))
  refine ⟨written, ?_⟩
  rw [refLine_eq, refTokens_of_lineTokens hline hafter]
  change reference _ tokens >>= _ = _
  rw [herror]
  rfl

/-! ### Where lines start -/

/-- Reading statements, one after the other, gets to the tokens `rest`. -/
inductive Reaches (last : Nat) : (ts rest : List PlacedToken) → Prop where
  | here (ts : List PlacedToken) : Reaches last ts ts
  | newline {t : PlacedToken} {ts rest : List PlacedToken} :
    t.token = .newline → Reaches last ts rest → Reaches last (t :: ts) rest
  | statement {t : PlacedToken} {ts after rest : List PlacedToken} {s : Statement} :
    t.token ≠ .newline → readStatement last t ts = .ok (s, after) → Reaches last after rest →
      Reaches last (t :: ts) rest

/-- Reading the lines of a block, one after the other, gets to the tokens `rest`. -/
inductive ReachesLine (last : Nat) : (ts rest : List PlacedToken) → Prop where
  | here (ts : List PlacedToken) : ReachesLine last ts ts
  | newline {t : PlacedToken} {ts rest : List PlacedToken} :
    t.token = .newline → ReachesLine last ts rest → ReachesLine last (t :: ts) rest
  | line {t : PlacedToken} {ts after rest : List PlacedToken} {r : Relationship} :
    endsLine t.token = false → refLine last (t :: ts) = .ok (r, after) →
      ReachesLine last after rest → ReachesLine last (t :: ts) rest

/-- The tokens after the keyword of a reference and its name, if it has one. -/
def Named (ts rest : List PlacedToken) : Prop :=
  ts = rest ∨ ∃ n : PlacedToken, n.token.name?.isSome = true ∧ ts = n :: rest

/-- Reading the tokens `ts` of a text gets to the line of a reference that starts the tokens
`rest`. -/
inductive Standalone (last : Nat) (ts : List PlacedToken) : (rest : List PlacedToken) → Prop where
  | line {keyword colon : PlacedToken} {us rest : List PlacedToken} :
    Reaches last ts (keyword :: us) → keyword.token.isKeyword "ref" = true →
      Named us (colon :: rest) → colon.token = .mark .colon → Standalone last ts rest
  | block {keyword brace first : PlacedToken} {us inner rest : List PlacedToken} :
    Reaches last ts (keyword :: us) → keyword.token.isKeyword "ref" = true →
      Named us (brace :: inner) → brace.token = .mark .openBrace →
      ReachesLine last inner (first :: rest) → endsLine first.token = false →
      Standalone last ts (first :: rest)

section Places

variable {last : Nat} {ts rest : List PlacedToken} {e : ReadError}

theorem skipName_of_named {t : PlacedToken} (ht : t.token.name? = none)
    (h : Named ts (t :: rest)) : skipName ts = t :: rest := by
  rcases h with rfl | ⟨n, hn, rfl⟩
  · rw [skipName, ht]
    rfl
  · rw [skipName, if_pos hn]

theorem readStatements_of_reaches {t : PlacedToken} (h : Reaches last ts (t :: rest))
    (ht : t.token ≠ .newline) (herror : readStatement last t rest = .error e) :
    readStatements last ts = .error e := by
  generalize hend : t :: rest = end' at h
  induction h with
  | here ts =>
    subst hend
    rw [readStatements_cons, if_neg ht, herror]
    rfl
  | newline hline _ ih => rw [readStatements_cons, if_pos hline, ih hend]
  | statement hline hread _ ih =>
    rw [readStatements_cons, if_neg hline, hread]
    change _ <$> readStatements _ _ = _
    rw [ih hend]
    rfl

/-- A line of a block that neither is empty nor closes the block is read as a reference. -/
theorem refBlock_of_goesOn {opened : Nat} {t : PlacedToken} (ht : endsLine t.token = false)
    (ts : List PlacedToken) :
    refBlock last opened (t :: ts) = do
      let (r, rest) ← refLine last (t :: ts)
      let (rs, rest) ← refBlock last opened rest
      return (r :: rs, rest) := by
  have hline : t.token ≠ .newline := by
    intro heq
    rw [heq] at ht
    cases ht
  have hbrace : t.token ≠ .mark .closeBrace := by
    intro heq
    rw [heq] at ht
    cases ht
  rw [refBlock_cons, if_neg hline, if_neg hbrace]

theorem refBlock_of_reachesLine {opened : Nat} {t : PlacedToken}
    (h : ReachesLine last ts (t :: rest)) (ht : endsLine t.token = false)
    (herror : refLine last (t :: rest) = .error e) : refBlock last opened ts = .error e := by
  generalize hend : t :: rest = end' at h
  induction h with
  | here ts =>
    subst hend
    rw [refBlock_of_goesOn ht, herror]
    rfl
  | newline hline _ ih => rw [refBlock_cons, if_pos hline, ih hend]
  | line hline hread _ ih =>
    rw [refBlock_of_goesOn hline, hread]
    change refBlock _ _ _ >>= _ = _
    rw [ih hend]
    rfl

/-- An error on a line of references is an error of the text. -/
theorem readStatements_of_standalone (h : Standalone last ts rest)
    (herror : refLine last rest = .error e) : readStatements last ts = .error e := by
  have hstatement : ∀ {keyword : PlacedToken} {us : List PlacedToken},
      Reaches last ts (keyword :: us) → keyword.token.isKeyword "ref" = true →
      readRefs last us = .error e → readStatements last ts = .error e := by
    intro keyword us hreach hkeyword hrefs
    have htable : keyword.token.isKeyword "table" = false :=
      Token.isKeyword_eq_false hkeyword (by decide)
    refine readStatements_of_reaches hreach (Token.ne_newline_of_isKeyword hkeyword) ?_
    rw [readStatement_eq, htable, if_neg Bool.false_ne_true, if_pos hkeyword, hrefs]
    rfl
  cases h with
  | line hreach hkeyword hnamed hcolon =>
    refine hstatement hreach hkeyword ?_
    unfold readRefs
    rw [skipName_of_named (by rw [hcolon]; rfl) hnamed]
    simp only [hcolon, if_true, herror]
    rfl
  | block hreach hkeyword hnamed hbrace hlines hfirst =>
    refine hstatement hreach hkeyword ?_
    unfold readRefs
    rw [skipName_of_named (by rw [hbrace]; rfl) hnamed]
    simp only [hbrace, if_true]
    exact refBlock_of_reachesLine hlines hfirst herror

/-- A line of references that is none is an error of the text, at this line. -/
theorem parse_of_malformed {text : String} {line after : List PlacedToken} {tokens : List Token}
    (hscan : scan text = .ok ⟨ts, last⟩) (hplace : Standalone last ts (line ++ after))
    (hline : LineTokens line tokens) (hafter : EndsLine after) (h : Malformed tokens) :
    ∃ written, parse text
      = .error ⟨lineOf last (line ++ after), .malformedReference written⟩ := by
  obtain ⟨written, herror⟩ := refLine_of_malformed hline hafter h last
  refine ⟨written, ?_⟩
  rw [parse, hscan]
  change readStatements last ts >>= _ = _
  rw [readStatements_of_standalone hplace herror]
  rfl

end Places

end Mockup.Schema
