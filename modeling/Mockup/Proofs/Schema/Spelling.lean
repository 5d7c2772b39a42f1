import Mockup.Proofs.Schema.Canonical
import Mockup.Proofs.Schema.Lexer

/-!
# The tokens of words

* `placed`, `lineAfter`: the lines of tokens that follow each other;
* `Spells`: a text that is cut into given tokens before any rest;
* `Spells.name`, `Spells.digits`, `Spells.literal`, `Spells.mark`: the parts of a schema text.  A
  name and a number end where a character follows that cannot go on with them.
-/

namespace Mockup.Schema

/-! ### Tokens that follow each other -/

/-- The line that is reached with a token of this line. -/
def Token.endLine (line : Nat) : Token → Nat
  | .newline => line + 1
  | .quoted s | .str s | .expr s => line + s.toList.count '\n'
  | _ => line

/-- The tokens from this line on. -/
def placed (line : Nat) : List Token → List PlacedToken
  | [] => []
  | t :: ts => ⟨t, line⟩ :: placed (t.endLine line) ts

/-- The line that is reached with tokens from this line on. -/
def lineAfter (line : Nat) (ts : List Token) : Nat :=
  ts.foldl Token.endLine line

@[simp] theorem placed_nil (line : Nat) : placed line [] = [] := rfl

@[simp] theorem placed_cons (line : Nat) (t : Token) (ts : List Token) :
    placed line (t :: ts) = ⟨t, line⟩ :: placed (t.endLine line) ts := rfl

@[simp] theorem placed_append (line : Nat) (ts us : List Token) :
    placed line (ts ++ us) = placed line ts ++ placed (lineAfter line ts) us := by
  induction ts generalizing line with
  | nil => rfl
  | cons t ts ih => exact congrArg (List.cons _) (ih _)

theorem lineAfter_append (line : Nat) (ts us : List Token) :
    lineAfter line (ts ++ us) = lineAfter (lineAfter line ts) us :=
  List.foldl_append

/-- The stream with more tokens in front. -/
def TokenStream.prepend (ts : List PlacedToken) (s : TokenStream) : TokenStream :=
  { s with tokens := ts ++ s.tokens }

/-- Whatever follows the characters, they are cut into these tokens. -/
def Spells (cs : List Char) (ts : List Token) : Prop :=
  ∀ line tail, scanFrom line (cs ++ tail)
    = TokenStream.prepend (placed line ts) <$> scanFrom (lineAfter line ts) tail

theorem Spells.nil : Spells [] [] :=
  fun _ _ => (id_map _).symm

theorem Spells.append {cs ds : List Char} {ts us : List Token} (h : Spells cs ts)
    (h' : Spells ds us) : Spells (cs ++ ds) (ts ++ us) := by
  intro line tail
  rw [List.append_assoc, h, h', ← comp_map, lineAfter_append, placed_append]
  refine congrArg (· <$> _) (funext fun s => ?_)
  simp [TokenStream.prepend]

theorem Spells.flatMap {α : Type} {f : α → List Char} {g : α → List Token} {xs : List α}
    (h : ∀ x ∈ xs, Spells (f x) (g x)) : Spells (xs.flatMap f) (xs.flatMap g) := by
  induction xs with
  | nil => exact .nil
  | cons x xs ih =>
    rw [List.flatMap_cons, List.flatMap_cons]
    exact (h x List.mem_cons_self).append (ih fun y hy => h y (List.mem_cons_of_mem x hy))

/-- The tokens of a text that is cut in this way from its first line on. -/
theorem Spells.scan_eq {s : String} {ts : List Token} (h : Spells s.toList ts) :
    scan s = .ok ⟨placed 1 ts, lineAfter 1 ts⟩ := by
  have hall := h 1 []
  have hend : skipGap .plain (lineAfter 1 ts) [] = .ok (lineAfter 1 ts, []) := rfl
  rw [List.append_nil, scanFrom_of_end hend] at hall
  rw [scan, hall]
  simp [Functor.map, Except.map, TokenStream.prepend]

/-! ### The start of a token -/

/-- No gap starts with the character. -/
def StartsToken (c : Char) : Prop :=
  c ≠ '/' ∧ (c = '\n' ∨ Text.isBlank c = false)

theorem StartsToken.skipGap_eq {c : Char} (h : StartsToken c) (line : Nat) (cs : List Char) :
    skipGap .plain line (c :: cs) = .ok (line, c :: cs) := by
  rw [skipGap.eq_4 _ _ _ (fun _ hc => absurd hc h.1) (fun _ hc => absurd hc h.1), if_neg]
  rintro ⟨hne, hblank⟩
  rcases h.2 with hc | hc
  · exact hne hc
  · rw [hc] at hblank
    cases hblank

/-- A token that ends where it can be seen to end. -/
theorem Spells.of_token {c : Char} (cs ds : List Char) {t : Token} {ts : List Token}
    (hc : StartsToken c)
    (ht : ∀ line tail, readToken line c (cs ++ (ds ++ tail)) = .ok ⟨t, t.endLine line, ds ++ tail⟩)
    (h : Spells ds ts) : Spells (c :: cs ++ ds) (t :: ts) := by
  intro line tail
  have hgap := hc.skipGap_eq line (cs ++ (ds ++ tail))
  rw [List.append_assoc, List.cons_append, scanFrom_of_token hgap (ht line tail), h, ← comp_map]
  rfl

theorem Spells.blankChar {c : Char} (hc : Text.isBlank c = true) (hline : c ≠ '\n')
    {cs : List Char} {ts : List Token} (h : Spells cs ts) : Spells (c :: cs) ts := by
  have hslash : c ≠ '/' := by
    rintro rfl
    exact absurd hc (by decide)
  intro line tail
  have hgap : skipGap .plain line (c :: (cs ++ tail)) = skipGap .plain line (cs ++ tail) := by
    rw [skipGap.eq_4 _ _ _ (fun _ h => absurd h hslash) (fun _ h => absurd h hslash),
      if_pos ⟨hline, hc⟩]
  rw [List.cons_append, scanFrom_congr hgap]
  exact h line tail

theorem Spells.blank {cs : List Char} {ts : List Token} (h : Spells cs ts) :
    Spells (' ' :: cs) ts :=
  h.blankChar (by decide) (by decide)

theorem Spells.newline {cs : List Char} {ts : List Token} (h : Spells cs ts) :
    Spells ('\n' :: cs) (.newline :: ts) :=
  .of_token [] cs ⟨by decide, .inl rfl⟩ (fun _ _ => rfl) h

theorem readToken_mark {c : Char} {m : Mark} (hm : Mark.ofChar? c = some m) (hc : c ≠ '<')
    (line : Nat) (cs : List Char) : readToken line c cs = .ok ⟨.mark m, line, cs⟩ := by
  have hline : c ≠ '\n' := by
    rintro rfl
    cases hm
  simp [readToken, hm, hc, hline]

theorem startsToken_of_mark {c : Char} {m : Mark} (hm : Mark.ofChar? c = some m) :
    StartsToken c := by
  unfold Mark.ofChar? at hm
  split at hm <;> first | cases hm; done | exact ⟨by decide, .inr (by decide)⟩

/-- Marks of one character that cannot start a longer one. -/
theorem Spells.mark {c : Char} {m : Mark} {cs : List Char} {ts : List Token}
    (hm : Mark.ofChar? c = some m) (hc : c ≠ '<') (h : Spells cs ts) :
    Spells (c :: cs) (.mark m :: ts) :=
  .of_token [] cs (startsToken_of_mark hm) (fun _ _ => readToken_mark hm hc _ _) h

/-! ### Names -/

theorem covers_of_isAlphabetic {c : Char} (h : Text.isAlphabetic c = true) :
    Text.alphabeticRanges.covers c = true := by
  unfold Text.isAlphabetic at h
  split at h
  · rcases (Bool.or_eq_true _ _).mp h with h | h
    · have hrange : 0x41 ≤ c.val ∧ c.val ≤ 0x5A := of_decide_eq_true h
      simp only [UInt32.le_iff_toNat_le] at hrange
      exact Text.Ranges.covers_iff.2 ⟨(0x41, 0x5A), by decide, hrange⟩
    · have hrange : decide (0x61 ≤ c.val) = true ∧ decide (c.val ≤ 0x7A) = true :=
        (Bool.and_eq_true _ _).mp h
      simp only [decide_eq_true_eq, UInt32.le_iff_toNat_le] at hrange
      exact Text.Ranges.covers_iff.2 ⟨(0x61, 0x7A), by decide, hrange⟩
  · exact h

/-- No name starts with a character of a class that has no letters and no underscore. -/
theorem covers_of_isNameStart {r : Text.Ranges} (hunderscore : r.covers '_' = false)
    (hletters : ∀ s ∈ r, ∀ t ∈ Text.alphabeticRanges, s.2 < t.1 ∨ t.2 < s.1) {c : Char}
    (h : isNameStart c = true) : r.covers c = false := by
  rcases (Bool.or_eq_true _ _).mp h with h | h
  · exact Text.Ranges.covers_eq_false hletters (covers_of_isAlphabetic h)
  · obtain rfl := of_decide_eq_true h
    exact hunderscore

theorem isBlank_of_isNameStart {c : Char} (h : isNameStart c = true) : Text.isBlank c = false :=
  covers_of_isNameStart (by decide) (by decide +kernel) h

theorem isDigit_of_isNameStart {c : Char} (h : isNameStart c = true) : c.isDigit = false := by
  have hcovers : Text.Ranges.covers [(0x30, 0x39)] c = false :=
    covers_of_isNameStart (by decide) (by decide +kernel) h
  refine Bool.eq_false_iff.2 fun hdigit => ?_
  have : Text.Ranges.covers [(0x30, 0x39)] c = true := Text.Ranges.covers_iff.2
    ⟨(0x30, 0x39), List.mem_singleton.2 rfl,
      by simpa [Char.isDigit, UInt32.le_iff_toNat_le] using hdigit⟩
  rw [hcovers] at this
  cases this

/-- Marks are of no class that the single marks are not of. -/
theorem mark_eq_none {p : Char → Bool} (hp : "\x7b\x7d()[],:.><-".toList.all (!p ·) = true)
    {c : Char} (hc : p c = true) : Mark.ofChar? c = none := by
  have hne : ∀ d ∈ "\x7b\x7d()[],:.><-".toList, c ≠ d := by
    rintro d hd rfl
    have := List.all_eq_true.1 hp c hd
    rw [hc] at this
    cases this
  cases hm : Mark.ofChar? c with
  | none => rfl
  | some m =>
    unfold Mark.ofChar? at hm
    split at hm <;> first | cases hm; done | exact absurd rfl (hne _ (by decide))

theorem takeWhile_append_cons {p : Char → Bool} {ds : List Char} (hds : ∀ d ∈ ds, p d = true)
    {c : Char} (hc : p c = false) (cs : List Char) : (ds ++ c :: cs).takeWhile p = ds := by
  rw [List.takeWhile_append_of_pos hds, List.takeWhile_cons_of_neg (by simp [hc]), List.append_nil]

theorem dropWhile_append_cons {p : Char → Bool} {ds : List Char} (hds : ∀ d ∈ ds, p d = true)
    {c : Char} (hc : p c = false) (cs : List Char) : (ds ++ c :: cs).dropWhile p = c :: cs := by
  rw [List.dropWhile_append_of_pos hds, List.dropWhile_cons_of_neg (by simp [hc])]

theorem startsToken_of_isNameStart {c : Char} (h : isNameStart c = true) : StartsToken c := by
  refine ⟨?_, .inr (isBlank_of_isNameStart h)⟩
  rintro rfl
  exact absurd h (by decide)

theorem readToken_name {c : Char} (hc : isNameStart c = true) (line : Nat) (cs : List Char) :
    readToken line c cs
      = .ok ⟨.ident (String.ofList (c :: cs.takeWhile isNameChar)), line,
          cs.dropWhile isNameChar⟩ := by
  have hne : ∀ d, isNameStart d = false → c ≠ d := by
    rintro d hd rfl
    rw [hc] at hd
    cases hd
  have hmark : Mark.ofChar? c = none := mark_eq_none (p := isNameStart) (by decide) hc
  simp [readToken, hmark, hne '\n' (by decide), hne '<' (by decide), hne '"' (by decide),
    hne '\'' (by decide), hne '`' (by decide), isDigit_of_isNameStart hc, hc]

/-- A name, before something that cannot go on with it. -/
theorem Spells.name {w : String} (hw : Canonical.isName w = true) {c : Char} {cs : List Char}
    {ts : List Token} (hc : isNameChar c = false) (h : Spells (c :: cs) ts) :
    Spells (w.toList ++ c :: cs) (.ident w :: ts) := by
  unfold Canonical.isName at hw
  rcases hlist : w.toList with _ | ⟨first, others⟩
  · rw [hlist] at hw
    cases hw
  · rw [hlist] at hw
    obtain ⟨hfirst, hothers⟩ := (Bool.and_eq_true _ _).mp hw
    have hall : ∀ d ∈ others, isNameChar d = true := List.all_eq_true.1 hothers
    refine .of_token others (c :: cs) (startsToken_of_isNameStart hfirst) (fun line tail => ?_) h
    rw [List.cons_append, readToken_name hfirst, takeWhile_append_cons hall hc,
      dropWhile_append_cons hall hc, ← hlist, String.ofList_toList]
    rfl

/-! ### Numbers -/

theorem startsToken_of_isDigit {c : Char} (h : c.isDigit = true) : StartsToken c := by
  constructor
  · rintro rfl
    exact absurd h (by decide)
  · refine .inr (Bool.eq_false_iff.2 fun hblank => ?_)
    obtain ⟨s, hs, hs₁, hs₂⟩ := Text.Ranges.covers_iff.1 hblank
    have hc : 0x30 ≤ c.toNat ∧ c.toNat ≤ 0x39 := by
      simpa [Char.isDigit, UInt32.le_iff_toNat_le] using h
    have hall : ∀ s ∈ Text.blankRanges, s.2 < 0x30 ∨ 0x39 < s.1 := by decide
    have := hall s hs
    omega

theorem readToken_number {c : Char} (hc : c.isDigit = true) (line : Nat) (cs : List Char) :
    readToken line c cs
      = .ok ⟨.num (String.ofList (c :: (restOfNumber cs).1)), line, (restOfNumber cs).2⟩ := by
  have hne : ∀ d, d.isDigit = false → c ≠ d := by
    rintro d hd rfl
    rw [hc] at hd
    cases hd
  have hmark : Mark.ofChar? c = none := mark_eq_none (p := Char.isDigit) (by decide) hc
  simp [readToken, hmark, hne '\n' (by decide), hne '<' (by decide), hne '"' (by decide),
    hne '\'' (by decide), hne '`' (by decide), hc]

theorem restOfNumber_digits {ds : List Char} (hds : ∀ d ∈ ds, d.isDigit = true) {c : Char}
    (hdigit : c.isDigit = false) (hdot : c ≠ '.') (cs : List Char) :
    restOfNumber (ds ++ c :: cs) = (ds, c :: cs) := by
  unfold restOfNumber
  rw [takeWhile_append_cons hds hdigit, dropWhile_append_cons hds hdigit]
  simp [hdot]

/-- A number, before something that cannot go on with it. -/
theorem Spells.digits (d : Canonical.Digits) {c : Char} {cs : List Char} {ts : List Token}
    (hdigit : c.isDigit = false) (hdot : c ≠ '.') (h : Spells (c :: cs) ts) :
    Spells (d.text.toList ++ c :: cs) (.num d.text :: ts) := by
  rcases hlist : d.text.toList with _ | ⟨first, others⟩
  · exact absurd (String.toList_eq_nil_iff.1 hlist) d.text_ne_empty
  · have hall : ∀ e ∈ first :: others, e.isDigit = true := hlist ▸ d.isDigit_of_mem
    obtain ⟨hfirst, hothers⟩ := List.forall_mem_cons.1 hall
    refine .of_token others (c :: cs) (startsToken_of_isDigit hfirst) (fun line tail => ?_) h
    rw [List.cons_append, readToken_number hfirst, restOfNumber_digits hothers hdigit hdot, ← hlist,
      String.ofList_toList]
    rfl

/-! ### Characters of names and numbers -/

theorem isBlank_of_isDigit {c : Char} (h : c.isDigit = true) : Text.isBlank c = false :=
  (startsToken_of_isDigit h).2.resolve_left (by rintro rfl; exact absurd h (by decide))

theorem isBlank_of_isNameChar {c : Char} (h : isNameChar c = true) : Text.isBlank c = false := by
  rcases (Bool.or_eq_true _ _).mp h with h | h
  · rcases (Bool.or_eq_true _ _).mp h with h | h
    · exact isBlank_of_isNameStart (by simp [isNameStart, h])
    · unfold Text.isNumeric at h
      split at h
      · exact isBlank_of_isDigit h
      · exact Text.Ranges.covers_eq_false (by decide +kernel) h
  · obtain rfl := of_decide_eq_true h
    decide

theorem isNameChar_of_isDigit {c : Char} (h : c.isDigit = true) : isNameChar c = true := by
  have hascii : c.toNat < 0x80 := by
    have hrange : 0x30 ≤ c.toNat ∧ c.toNat ≤ 0x39 := by
      simpa [Char.isDigit, UInt32.le_iff_toNat_le] using h
    omega
  simp [isNameChar, Text.isAlphanumeric, Text.isNumeric, hascii, h]

theorem isNameChar_of_isNameStart {c : Char} (h : isNameStart c = true) : isNameChar c = true := by
  simp only [isNameChar, isNameStart, Text.isAlphanumeric, Bool.or_eq_true] at h ⊢
  exact h.imp_left .inl

/-! ### Texts between single quotes -/

theorem delimited_plain {s : List Char} (hs : ∀ c ∈ s, c ≠ '\'' ∧ c ≠ '\\') (rest : List Char) :
    delimited '\'' (s ++ '\'' :: rest) = some ⟨s, s.count '\n', rest⟩ := by
  induction s with
  | nil => exact delimited_close _ _
  | cons c s ih =>
    obtain ⟨hquote, hescape⟩ := hs c List.mem_cons_self
    rw [List.cons_append, delimited_cons hquote hescape, ih fun d hd => hs d (by simp [hd])]
    simp only [Option.map_some, Literal.push, List.count_cons, beq_iff_eq]
    split <;> rfl

theorem singleQuoted_plain (s : Canonical.PlainText) {c : Char} (hc : c ≠ '\'') (rest : List Char) :
    singleQuoted (s.text.toList ++ '\'' :: c :: rest)
      = some ⟨s.text.toList, s.text.toList.count '\n', c :: rest⟩ := by
  have htwo : ∀ cs, s.text.toList ++ '\'' :: c :: rest = '\'' :: '\'' :: cs → False := by
    intro cs heq
    rcases hs : s.text.toList with _ | ⟨first, others⟩
    · rw [hs] at heq
      simp at heq
      exact hc heq.1
    · rw [hs] at heq
      exact (s.plain first (by rw [hs]; exact List.mem_cons_self)).1 (List.cons.inj heq).1
  rw [singleQuoted.eq_2 _ htwo, delimited_plain s.plain]

/-- A text between single quotes, before something that is no single quote. -/
theorem Spells.literal (s : Canonical.PlainText) {c : Char} {cs : List Char} {ts : List Token}
    (hc : c ≠ '\'') (h : Spells (c :: cs) ts) :
    Spells ('\'' :: (s.text.toList ++ '\'' :: c :: cs)) (.str s.text :: ts) := by
  have htoken : ∀ line tail, readToken line '\'' (s.text.toList ++ ['\''] ++ (c :: cs ++ tail))
      = .ok ⟨.str s.text, Token.endLine line (.str s.text), c :: cs ++ tail⟩ := by
    intro line tail
    have hsingle := singleQuoted_plain s hc (cs ++ tail)
    simp [readToken, Mark.ofChar?, hsingle, ofLiteral, Token.endLine]
  have hall := Spells.of_token _ _ ⟨by decide, .inr (by decide)⟩ htoken h
  simpa using hall

end Mockup.Schema
