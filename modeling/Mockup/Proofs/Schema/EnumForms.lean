import Mockup.Proofs.Schema.ReferenceForms

/-!
# All ways of writing an enumeration agree

The values of an enumeration may be set apart by commas, line ends and blanks, in any mixture, and
settings in brackets may follow them; the opening brace may stand on a later line than the name.
None of this makes a difference: the values are read as they are, in order and with repeats.

* `CutInto`: a text that is cut into given tokens, on whatever lines;
* `isSeparating`: the characters that end a token before them;
* `EnumForm.Value`, `EnumForm.Filler`, `EnumForm.Entry`: a value, what stands between values, and a
  value with something after it;
* `EnumForm.Declaration`: an enumeration as written, with its `text` and `tokens`;
* `EnumForm.enumValues_fillers`, `EnumForm.enumValues_entries`: the values that are read;
* `EnumForm.parse_written`: an enumeration is read back from its text.
-/

namespace Mockup.Schema

open Reference (Name qualifiersWritten qualifierTokens spells_qualifiers qualifiedName_of_map)

/-! ### Texts that are cut into tokens -/

/-- Whatever follows the characters, they are cut into these tokens, on some lines.  Other than for
`Spells`, the lines do not have to be those that the tokens show: there may be comments over several
lines. -/
def CutInto (cs : List Char) (tokens : List Token) : Prop :=
  ∀ line tail, ∃ (line' : Nat) (ts : List PlacedToken), ts.map PlacedToken.token = tokens ∧
    scanFrom line (cs ++ tail) = TokenStream.prepend ts <$> scanFrom line' tail

theorem Spells.cutInto {cs : List Char} {tokens : List Token} (h : Spells cs tokens) :
    CutInto cs tokens :=
  fun line tail => ⟨_, _, map_token_placed line tokens, h line tail⟩

namespace CutInto

variable {cs ds : List Char} {tokens tokens' : List Token}

theorem append (h : CutInto cs tokens) (h' : CutInto ds tokens') :
    CutInto (cs ++ ds) (tokens ++ tokens') := by
  intro line tail
  obtain ⟨line₁, ts, rfl, hts⟩ := h line (ds ++ tail)
  obtain ⟨line₂, us, rfl, hus⟩ := h' line₁ tail
  refine ⟨line₂, ts ++ us, List.map_append, ?_⟩
  rw [List.append_assoc, hts, hus, ← comp_map]
  refine congrArg (· <$> _) (funext fun s => ?_)
  simp [TokenStream.prepend]

theorem flatMap {α : Type} {f : α → List Char} {g : α → List Token} {xs : List α}
    (h : ∀ x ∈ xs, CutInto (f x) (g x)) : CutInto (xs.flatMap f) (xs.flatMap g) := by
  induction xs with
  | nil => exact Spells.nil.cutInto
  | cons x xs ih =>
    rw [List.flatMap_cons, List.flatMap_cons]
    exact (h x List.mem_cons_self).append (ih fun y hy => h y (List.mem_cons_of_mem x hy))

/-- A token, before something that cannot go on with it. -/
theorem written {t : Token} (ht : t.isLexeme = true) {c : Char} (hc : t.EndsBefore c)
    (h : CutInto (c :: cs) tokens) : CutInto (t.written ++ c :: cs) (t :: tokens) := by
  intro line tail
  obtain ⟨line', ts, rfl, hts⟩ := h (t.endLine line) tail
  have hhead : ∀ d ∈ (c :: cs ++ tail).head?, t.EndsBefore d := by
    rintro d hd
    cases hd
    exact hc
  refine ⟨line', ⟨t, line⟩ :: ts, rfl, ?_⟩
  rw [List.append_assoc, scanFrom_written ht hhead, hts, ← comp_map]
  rfl

theorem exists_scan {s : String} (h : CutInto s.toList tokens) :
    ∃ ts last, ts.map PlacedToken.token = tokens ∧ scan s = .ok ⟨ts, last⟩ := by
  obtain ⟨last, ts, hts, hscan⟩ := h 1 []
  have hend : scanFrom last [] = .ok ⟨[], last⟩ := scanFrom_of_end rfl
  rw [List.append_nil, hend] at hscan
  refine ⟨ts, last, hts, ?_⟩
  rw [scan, hscan]
  simp [Functor.map, Except.map, TokenStream.prepend]

end CutInto

/-! ### Characters that end a token -/

/-- The blanks, the comma, the opening bracket and the braces. -/
def isSeparating (c : Char) : Bool :=
  Text.isBlank c || [',', '[', '\x7b', '\x7d'].contains c

theorem isSeparating_of_isBlank {c : Char} (h : Text.isBlank c = true) : isSeparating c = true := by
  rw [isSeparating, h, Bool.true_or]

theorem isNameChar_of_isSeparating {c : Char} (h : isSeparating c = true) :
    isNameChar c = false := by
  refine Bool.eq_false_iff.2 fun hname => ?_
  rw [isSeparating, isBlank_of_isNameChar hname, Bool.false_or, List.contains_iff_mem] at h
  have hnone : [',', '[', '\x7b', '\x7d'].all (!isNameChar ·) = true := by decide
  have hother := List.all_eq_true.1 hnone c h
  rw [hname] at hother
  cases hother

theorem endsBefore_of_isSeparating {c : Char} (h : isSeparating c = true) (t : Token) :
    t.EndsBefore c := by
  have hne : ∀ d, isSeparating d = false → c ≠ d := by
    rintro d hd rfl
    rw [h] at hd
    cases hd
  have hname := isNameChar_of_isSeparating h
  have hdigit : c.isDigit = false :=
    Bool.eq_false_iff.2 fun hdigit => by rw [isNameChar_of_isDigit hdigit] at hname; cases hname
  unfold Token.EndsBefore
  split
  · exact hname
  · exact ⟨hdigit, hne _ (by decide)⟩
  · exact hne _ (by decide)
  · exact hne _ (by decide)
  · exact fun _ => ⟨hne _ (by decide), hne _ (by decide)⟩
  · trivial

/-- The tokens of a blank: line ends are tokens. -/
def blankTokens (c : Char) : List Token :=
  if c = '\n' then [.newline] else []

theorem spells_blankTokens {c : Char} (hc : Text.isBlank c = true) :
    Spells [c] (blankTokens c) := by
  by_cases hline : c = '\n'
  · subst hline
    exact Spells.nil.newline
  · rw [blankTokens, if_neg hline]
    exact Spells.nil.blankChar hc hline

/-- Blanks, line ends included. -/
structure Blanks where
  chars : List Char
  isBlank_chars : chars.all Text.isBlank = true

namespace Blanks

theorem isBlank_of_mem (b : Blanks) : ∀ c ∈ b.chars, Text.isBlank c = true :=
  List.all_eq_true.1 b.isBlank_chars

/-- The tokens of blanks are their line ends. -/
def tokens (b : Blanks) : List Token :=
  b.chars.flatMap blankTokens

theorem cutInto (b : Blanks) : CutInto b.chars b.tokens := by
  have hall : CutInto (b.chars.flatMap fun c => [c]) (b.chars.flatMap blankTokens) :=
    .flatMap fun c hc => (spells_blankTokens (b.isBlank_of_mem c hc)).cutInto
  rwa [List.flatMap_singleton'] at hall

/-- Blanks before a character that ends a token start with such a character as well. -/
theorem exists_head (b : Blanks) {c : Char} (hc : isSeparating c = true) (cs : List Char) :
    ∃ d ds, b.chars ++ c :: cs = d :: ds ∧ isSeparating d = true := by
  rcases hb : b.chars with _ | ⟨d, ds⟩
  · exact ⟨c, cs, rfl, hc⟩
  · exact ⟨d, ds ++ c :: cs, rfl, isSeparating_of_isBlank (b.isBlank_of_mem d (by simp [hb]))⟩

theorem eq_newline_of_mem {b : Blanks} {t : Token} (ht : t ∈ b.tokens) : t = .newline := by
  obtain ⟨c, -, ht⟩ := List.mem_flatMap.1 ht
  unfold blankTokens at ht
  split at ht
  · exact List.mem_singleton.1 ht
  · cases ht

theorem token_eq_newline {b : Blanks} {ts : List PlacedToken}
    (h : ts.map PlacedToken.token = b.tokens) : ∀ u ∈ ts, u.token = .newline := by
  have hall : ∀ t ∈ ts.map PlacedToken.token, t = .newline := by
    rw [h]
    exact fun _ => eq_newline_of_mem
  exact List.forall_mem_map.1 hall

end Blanks

namespace EnumForm

/-! ### Values and what stands between them -/

/-- A value as written. -/
inductive Value where
  | word (s : String) (isWord_s : isWord s.toList = true)
  | number (s : String) (isNumeral_s : isNumeral s.toList = true)
  | single (s : String)
  | double (s : String)

namespace Value

/-- The text of the value. -/
def text : Value → String
  | word s _ | number s _ | single s | double s => s

/-- The token of the value. -/
def token : Value → Token
  | word s _ => .ident s
  | number s _ => .num s
  | single s => .str s
  | double s => .quoted s

theorem isLexeme_token (v : Value) : v.token.isLexeme = true := by
  cases v with
  | word s h => exact h
  | number s h => exact h
  | single s => rfl
  | double s => rfl

@[simp] theorem content_token (v : Value) : v.token.content = v.text := by
  cases v <;> rfl

@[simp] theorem token_ne_mark (v : Value) (m : Mark) : v.token ≠ .mark m := by
  cases v <;> simp [token]

@[simp] theorem token_ne_newline (v : Value) : v.token ≠ .newline := by
  cases v <;> simp [token]

end Value

/-- Settings between brackets, of any tokens but a closing bracket, in any layout. -/
structure Settings where
  chars : List Char
  inner : List Token
  notMem_inner : .mark .closeBracket ∉ inner
  cutInto_inner : CutInto (chars ++ [']']) (inner ++ [.mark .closeBracket])

/-- Settings of any tokens, with a blank between each two. -/
def Settings.ofTokens (inner : List Token) (isLexeme_inner : ∀ t ∈ inner, t.isLexeme = true)
    (notMem_inner : .mark .closeBracket ∉ inner) : Settings where
  chars := (spaced inner).toList
  inner := inner
  notMem_inner := notMem_inner
  cutInto_inner := by
    have hclose := Spells.mark (c := ']') rfl (by decide) .nil
    exact (Reference.Settings.spells_spaced isLexeme_inner hclose).cutInto

/-- The fillers before, between and after values. -/
inductive Filler where
  | comma
  | blank (c : Char) (isBlank_c : Text.isBlank c = true)
  | settings (s : Settings)

namespace Filler

/-- The filler as written. -/
def written : Filler → List Char
  | comma => [',']
  | blank c _ => [c]
  | settings s => '[' :: (s.chars ++ [']'])

/-- The tokens of the filler. -/
def tokens : Filler → List Token
  | comma => [.mark .comma]
  | blank c _ => blankTokens c
  | settings s => .mark .openBracket :: (s.inner ++ [.mark .closeBracket])

theorem cutInto (f : Filler) : CutInto f.written f.tokens := by
  cases f with
  | comma => exact (Spells.mark rfl (by decide) .nil).cutInto
  | blank c hc => exact (spells_blankTokens hc).cutInto
  | settings s =>
    exact (Spells.mark (c := '[') rfl (by decide) .nil).cutInto.append s.cutInto_inner

theorem exists_head (f : Filler) : ∃ c cs, f.written = c :: cs ∧ isSeparating c = true := by
  cases f with
  | comma => exact ⟨',', [], rfl, by decide⟩
  | blank c hc => exact ⟨c, [], rfl, isSeparating_of_isBlank hc⟩
  | settings s => exact ⟨'[', _, rfl, by decide⟩

end Filler

/-- A value that is set apart from what follows. -/
structure Entry where
  value : Value
  filler : Filler
  fillers : List Filler

namespace Entry

/-- The entry as written. -/
def written (e : Entry) : List Char :=
  e.value.token.written ++ (e.filler.written ++ e.fillers.flatMap Filler.written)

/-- The tokens of the entry. -/
def tokens (e : Entry) : List Token :=
  e.value.token :: (e.filler.tokens ++ e.fillers.flatMap Filler.tokens)

theorem cutInto (e : Entry) : CutInto e.written e.tokens := by
  have hfillers := e.filler.cutInto.append (.flatMap fun f (_ : f ∈ e.fillers) => f.cutInto)
  obtain ⟨c, cs, hhead, hc⟩ := e.filler.exists_head
  rw [written, tokens]
  rw [hhead, List.cons_append] at hfillers ⊢
  exact hfillers.written e.value.isLexeme_token (endsBefore_of_isSeparating hc _)

end Entry

/-! ### Declarations -/

/-- An enumeration as written. -/
structure Declaration where
  before : Blanks
  keyword : String
  isWord_keyword : isWord keyword.toList = true
  isKeyword_keyword : (Token.ident keyword).isKeyword "enum" = true
  gap : Blanks
  gap_ne_nil : gap.chars ≠ []
  tokens_gap : gap.tokens = []
  qualifiers : List Name
  name : Name
  head : Blanks
  fillers : List Filler
  entries : List Entry
  last : Option Value
  after : Blanks

namespace Declaration

/-- The values, in order. -/
def values (d : Declaration) : List Value :=
  d.entries.map Entry.value ++ d.last.toList

/-- The enumeration that is declared. -/
def enumeration (d : Declaration) : Enumeration :=
  ⟨d.name.text, d.values.map Value.text⟩

/-- The text between the braces, with the closing brace. -/
def bodyWritten (d : Declaration) : List Char :=
  d.fillers.flatMap Filler.written ++ (d.entries.flatMap Entry.written
    ++ (d.last.elim [] (·.token.written) ++ ['\x7d']))

/-- The tokens between the braces, with the closing brace. -/
def bodyTokens (d : Declaration) : List Token :=
  d.fillers.flatMap Filler.tokens ++ (d.entries.flatMap Entry.tokens
    ++ (d.last.elim [] (fun v => [v.token]) ++ [.mark .closeBrace]))

/-- The declaration as text. -/
def text (d : Declaration) : String :=
  String.ofList (d.before.chars ++ ((Token.ident d.keyword).written ++ (d.gap.chars
    ++ (qualifiersWritten d.qualifiers ++ (d.name.token.written ++ (d.head.chars
      ++ '\x7b' :: (d.bodyWritten ++ d.after.chars)))))))

/-- The tokens of the declaration. -/
def tokens (d : Declaration) : List Token :=
  d.before.tokens ++ .ident d.keyword :: (qualifierTokens d.qualifiers ++ d.name.token ::
    (d.head.tokens ++ .mark .openBrace :: (d.bodyTokens ++ d.after.tokens)))

theorem cutInto_body (d : Declaration) : CutInto d.bodyWritten d.bodyTokens := by
  have hclose : CutInto ['\x7d'] [.mark .closeBrace] :=
    (Spells.mark rfl (by decide) .nil).cutInto
  have hlast : CutInto (d.last.elim [] (·.token.written) ++ ['\x7d'])
      (d.last.elim [] (fun v => [v.token]) ++ [.mark .closeBrace]) := by
    cases d.last with
    | none => exact hclose
    | some v => exact hclose.written v.isLexeme_token (endsBefore_of_isSeparating (by decide) _)
  have hentries := CutInto.flatMap fun e (_ : e ∈ d.entries) => e.cutInto
  have hfillers := CutInto.flatMap fun f (_ : f ∈ d.fillers) => f.cutInto
  exact hfillers.append (hentries.append hlast)

theorem cutInto (d : Declaration) : CutInto d.text.toList d.tokens := by
  rw [text, String.toList_ofList]
  have hopen : CutInto ['\x7b'] [.mark .openBrace] :=
    (Spells.mark rfl (by decide) .nil).cutInto
  have hbody := d.head.cutInto.append (hopen.append (d.cutInto_body.append d.after.cutInto))
  obtain ⟨c, cs, hhead, hc⟩ :=
    d.head.exists_head (c := '\x7b') (by decide) (d.bodyWritten ++ d.after.chars)
  rw [List.singleton_append, List.singleton_append, hhead] at hbody
  have hname := (spells_qualifiers d.qualifiers).cutInto.append
    (hbody.written d.name.isLexeme_token (endsBefore_of_isSeparating hc _))
  rw [← hhead] at hname
  have hgap := d.gap.cutInto.append hname
  obtain ⟨b, bs, hb⟩ := List.exists_cons_of_ne_nil d.gap_ne_nil
  have hblank : isSeparating b = true :=
    isSeparating_of_isBlank (d.gap.isBlank_of_mem b (by simp [hb]))
  rw [hb, List.cons_append, d.tokens_gap, List.nil_append] at hgap
  have hkeyword := hgap.written (t := .ident d.keyword) d.isWord_keyword
    (endsBefore_of_isSeparating hblank _)
  rw [← List.cons_append, ← hb] at hkeyword
  exact d.before.cutInto.append hkeyword

end Declaration

/-! ### Reading -/

section Reading

variable {opened : Nat} {ts : List PlacedToken}

theorem enumValues_filler {f : Filler} (h : ts.map PlacedToken.token = f.tokens)
    (rest : List PlacedToken) :
    enumValues opened (ts ++ rest) = enumValues opened rest := by
  cases f with
  | comma =>
    obtain ⟨t, rfl, ht⟩ := List.map_eq_singleton_iff.1 h
    rw [List.singleton_append, enumValues_cons, if_neg (by simp [ht]), if_pos (.inl ht)]
  | blank c hc =>
    rw [Filler.tokens, blankTokens] at h
    split at h
    · obtain ⟨t, rfl, ht⟩ := List.map_eq_singleton_iff.1 h
      rw [List.singleton_append, enumValues_cons, if_neg (by simp [ht]), if_pos (.inr ht)]
    · rw [List.map_eq_nil_iff.1 h, List.nil_append]
  | settings s =>
    obtain ⟨t, us, rfl, ht, h⟩ := List.map_eq_cons_iff.1 h
    obtain ⟨inner, closing, rfl, hinner, hclosing⟩ := List.map_eq_append_iff.1 h
    obtain ⟨u, rfl, hu⟩ := List.map_eq_singleton_iff.1 hclosing
    have hnone : ∀ v ∈ inner, v.token ≠ .mark .closeBracket := by
      intro v hv heq
      have hmem : v.token ∈ inner.map PlacedToken.token := List.mem_map_of_mem hv
      rw [hinner, heq] at hmem
      exact s.notMem_inner hmem
    rw [List.cons_append, enumValues_cons, if_neg (by simp [ht]), if_neg (by simp [ht]),
      if_pos ht, List.append_assoc, List.singleton_append, dropSettings_inner _ hnone hu]
    rfl

/-- Fillers between values are skipped. -/
theorem enumValues_fillers {fs : List Filler}
    (h : ts.map PlacedToken.token = fs.flatMap Filler.tokens) (rest : List PlacedToken) :
    enumValues opened (ts ++ rest) = enumValues opened rest := by
  induction fs generalizing ts with
  | nil => rw [List.map_eq_nil_iff.1 h, List.nil_append]
  | cons f fs ih =>
    obtain ⟨us, vs, rfl, hus, hvs⟩ := List.map_eq_append_iff.1 h
    rw [List.append_assoc, enumValues_filler hus, ih hvs]

theorem enumValues_value {v : Value} {t : PlacedToken} (ht : t.token = v.token)
    (rest : List PlacedToken) :
    enumValues opened (t :: rest)
      = (fun p => (v.text :: p.1, p.2)) <$> enumValues opened rest := by
  rw [enumValues_cons, if_neg (by simp [ht]), if_neg (by simp [ht]), if_neg (by simp [ht]), ht,
    v.content_token]
  cases enumValues opened rest <;> rfl

/-- Of entries their values are read, in order. -/
theorem enumValues_entries {es : List Entry}
    (h : ts.map PlacedToken.token = es.flatMap Entry.tokens) (rest : List PlacedToken) :
    enumValues opened (ts ++ rest)
      = (fun p => (es.map (·.value.text) ++ p.1, p.2)) <$> enumValues opened rest := by
  induction es generalizing ts with
  | nil =>
    rw [List.map_eq_nil_iff.1 h]
    exact (id_map _).symm
  | cons e es ih =>
    obtain ⟨us, vs, rfl, hus, hvs⟩ := List.map_eq_append_iff.1 h
    obtain ⟨t, us, rfl, ht, hus⟩ := List.map_eq_cons_iff.1 hus
    have hfillers : us.map PlacedToken.token = (e.filler :: e.fillers).flatMap Filler.tokens := hus
    rw [List.append_assoc, List.cons_append, enumValues_value ht, enumValues_fillers hfillers,
      ih hvs, ← comp_map]
    rfl

theorem enumValues_body {d : Declaration} (h : ts.map PlacedToken.token = d.bodyTokens)
    (rest : List PlacedToken) :
    enumValues opened (ts ++ rest) = .ok (d.values.map Value.text, rest) := by
  obtain ⟨fillers, us, rfl, hfillers, h⟩ := List.map_eq_append_iff.1 h
  obtain ⟨entries, us, rfl, hentries, h⟩ := List.map_eq_append_iff.1 h
  obtain ⟨last, us, rfl, hlast, h⟩ := List.map_eq_append_iff.1 h
  obtain ⟨t, rfl, ht⟩ := List.map_eq_singleton_iff.1 h
  have hclose : enumValues opened (t :: rest) = .ok ([], rest) := by
    rw [enumValues_cons, if_pos ht]
  have hlast : enumValues opened (last ++ t :: rest)
      = .ok (d.last.toList.map Value.text, rest) := by
    cases hd : d.last with
    | none =>
      rw [hd] at hlast
      rw [List.map_eq_nil_iff.1 hlast]
      exact hclose
    | some v =>
      rw [hd] at hlast
      obtain ⟨u, rfl, hu⟩ := List.map_eq_singleton_iff.1 hlast
      rw [List.singleton_append, enumValues_value hu, hclose]
      rfl
  rw [List.append_assoc, enumValues_fillers hfillers, List.append_assoc,
    enumValues_entries hentries, List.append_assoc, List.singleton_append, hlast,
    Declaration.values, List.map_append, List.map_map]
  rfl

theorem dropNewlines_blanks {b : Blanks} (h : ts.map PlacedToken.token = b.tokens)
    {t : PlacedToken} (ht : t.token ≠ .newline) (rest : List PlacedToken) :
    dropNewlines (ts ++ t :: rest) = t :: rest := by
  have hall : ∀ u ∈ ts, (u.token == Token.newline) = true :=
    fun u hu => beq_iff_eq.2 (Blanks.token_eq_newline h u hu)
  rw [dropNewlines, List.dropWhile_append_of_pos hall]
  exact dropNewlines_of_ne ht

theorem readStatements_blanks {last : Nat} {b : Blanks}
    (h : ts.map PlacedToken.token = b.tokens) (rest : List PlacedToken) :
    readStatements last (ts ++ rest) = readStatements last rest := by
  have hall := Blanks.token_eq_newline h
  clear h
  induction ts with
  | nil => rfl
  | cons t ts ih =>
    obtain ⟨ht, hall⟩ := List.forall_mem_cons.1 hall
    rw [List.cons_append, readStatements_cons, if_pos ht, ih hall]

theorem readEnum_tokens {d : Declaration}
    (h : ts.map PlacedToken.token = qualifierTokens d.qualifiers ++ d.name.token ::
      (d.head.tokens ++ .mark .openBrace :: d.bodyTokens)) (last : Nat) (rest : List PlacedToken) :
    readEnum last (ts ++ rest) = .ok (.enum d.enumeration, rest) := by
  rw [List.append_cons] at h
  obtain ⟨name, us, rfl, hname, h⟩ := List.map_eq_append_iff.1 h
  obtain ⟨head, us, rfl, hhead, h⟩ := List.map_eq_append_iff.1 h
  obtain ⟨brace, body, rfl, hbrace, hbody⟩ := List.map_eq_cons_iff.1 h
  have hdrop : dropNewlines (head ++ brace :: (body ++ rest)) = brace :: (body ++ rest) :=
    dropNewlines_blanks hhead (by simp [hbrace]) _
  have hqualified : qualifiedName (name ++ (head ++ brace :: (body ++ rest)))
      = some (d.name.text, head ++ brace :: (body ++ rest)) := by
    -- neither the brace nor a line end goes on with the name, as a point would
    rcases head with _ | ⟨t, head⟩
    · exact qualifiedName_of_map (by simp [hbrace]) hname _
    · have ht : t.token = .newline := Blanks.token_eq_newline hhead t List.mem_cons_self
      exact qualifiedName_of_map (by simp [ht]) hname _
  rw [List.append_assoc, List.append_assoc, List.cons_append]
  unfold readEnum
  rw [hqualified]
  simp only [expectBrace, hdrop, hbrace, if_true]
  change enumValues _ _ >>= _ = _
  rw [enumValues_body hbody]
  rfl

theorem readStatements_tokens {d : Declaration} (h : ts.map PlacedToken.token = d.tokens)
    (last : Nat) : readStatements last ts = .ok [.enum d.enumeration] := by
  have hsplit : d.tokens = d.before.tokens ++ .ident d.keyword ::
      ((qualifierTokens d.qualifiers ++ d.name.token ::
        (d.head.tokens ++ .mark .openBrace :: d.bodyTokens)) ++ d.after.tokens) := by
    simp [Declaration.tokens]
  obtain ⟨before, us, rfl, hbefore, h⟩ := List.map_eq_append_iff.1 (h.trans hsplit)
  obtain ⟨t, us, rfl, ht, h⟩ := List.map_eq_cons_iff.1 h
  obtain ⟨inner, after, rfl, hinner, hafter⟩ := List.map_eq_append_iff.1 h
  have henum : t.token.isKeyword "enum" = true := ht ▸ d.isKeyword_keyword
  have htable := Token.isKeyword_eq_false (w := "table") henum (by decide)
  have href := Token.isKeyword_eq_false (w := "ref") henum (by decide)
  have hend : readStatements last after = .ok [] := by
    rw [← List.append_nil after, readStatements_blanks hafter, readStatements]
  rw [readStatements_blanks hbefore, readStatements_cons,
    if_neg (Token.ne_newline_of_isKeyword henum), readStatement_eq, htable,
    if_neg Bool.false_ne_true, href, if_neg Bool.false_ne_true, if_pos henum,
    readEnum_tokens hinner]
  change _ <$> readStatements last after = _
  rw [hend]
  rfl

end Reading

/-- However an enumeration is written, it is read as one enumeration with its values, in order and
with repeats. -/
theorem parse_written (d : Declaration) : parse d.text = .ok { enums := [d.enumeration] } := by
  obtain ⟨ts, last, hts, hscan⟩ := d.cutInto.exists_scan
  rw [parse, hscan]
  change ofStatements <$> readStatements last ts = _
  rw [readStatements_tokens hts]
  rfl

/-- Values of all forms, set apart in several ways. -/
def sample : Declaration :=
  let note : Filler :=
    .settings (.ofTokens [.ident "note", .mark .colon, .str "default"] (by decide) (by decide))
  { before := ⟨[], rfl⟩
    keyword := "Enum"
    isWord_keyword := rfl
    isKeyword_keyword := rfl
    gap := ⟨[' '], rfl⟩
    gap_ne_nil := List.cons_ne_nil _ _
    tokens_gap := rfl
    qualifiers := []
    name := .quoted "order state"
    head := ⟨['\n', '\n'], rfl⟩
    fillers := [.blank '\n' rfl]
    entries := [⟨.word "open" rfl, .comma, []⟩,
      ⟨.word "open" rfl, .blank ' ' rfl, [note, .blank '\n' rfl]⟩,
      ⟨.number "2.5" rfl, note, []⟩, ⟨.single "it's", .blank ' ' rfl, []⟩]
    last := some (.double "on hold")
    after := ⟨['\n'], rfl⟩ }

example : sample.text = "Enum \"order state\"\n\n\x7b\nopen,open [note : 'default']\n"
    ++ "2.5[note : 'default']'it\\'s' \"on hold\"\x7d\n" ∧
    sample.enumeration = ⟨"order state", ["open", "open", "2.5", "it's", "on hold"]⟩ := by
  decide +kernel

end EnumForm

end Mockup.Schema
