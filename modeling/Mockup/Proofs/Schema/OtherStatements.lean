import Mathlib.Data.List.Infix
import Mockup.Proofs.Schema.Append
import Mockup.Proofs.Schema.Settled

/-!
# Statements of other kinds

A statement that is neither a table nor references nor an enumeration declares nothing: it is
skipped up to the brace that closes its block, whatever stands between the braces.  So it may stand
among statements that are read, and what is hidden in it stays hidden.

* `IsHeader`: the tokens before the brace of such a statement;
* `ClosesWithin`, `Balanced`: the tokens between its braces;
* `skipBraces_append`, `skipStatement_header`: the tokens that are skipped;
* `parse_followedBy`: texts that are read, one after the other;
* `parse_other`: a text with a statement of another kind, alone or between others, and one whose
  block is not closed.
-/

namespace Mockup.Schema

/-! ### Blocks -/

/-- With `depth` blocks open around them, the tokens close no more than these and those that they
have opened. -/
def ClosesWithin (depth : Nat) (ts : List Token) : Prop :=
  ∀ front, front <+: ts →
    front.count (.mark .closeBrace) ≤ depth + front.count (.mark .openBrace)

instance (depth : Nat) (ts : List Token) : Decidable (ClosesWithin depth ts) :=
  decidable_of_iff (∀ front ∈ ts.inits,
    front.count (.mark .closeBrace) ≤ depth + front.count (.mark .openBrace)) (by
      simp only [List.mem_inits, ClosesWithin])

/-- The tokens never close more blocks than they have opened, and close all of them. -/
structure Balanced (ts : List Token) : Prop where
  closesWithin : ClosesWithin 0 ts
  count_eq : ts.count (.mark .closeBrace) = ts.count (.mark .openBrace)

/-- The tokens before the brace of a statement that is no table, no references and no enumeration:
there are some, and neither braces nor line ends are among them. -/
structure IsHeader (ts : List Token) : Prop where
  ne_nil : ts ≠ []
  not_isKeyword : ∀ t ∈ ts.head?, ∀ word ∈ ["table", "ref", "enum"], t.isKeyword word = false
  not_isBound : ∀ t ∈ ts, isBound t = false

namespace ClosesWithin

variable {depth : Nat} {t : Token} {ts : List Token}

theorem of_cons (h : ClosesWithin depth (t :: ts)) {front : List Token} (hfront : front <+: ts) :
    (t :: front).count (.mark .closeBrace) ≤ depth + (t :: front).count (.mark .openBrace) :=
  h _ ((List.prefix_cons_inj t).2 hfront)

theorem after_open (h : ClosesWithin depth (.mark .openBrace :: ts)) :
    ClosesWithin (depth + 1) ts := by
  intro front hfront
  have hcount := h.of_cons hfront
  rw [List.count_cons_self, List.count_cons_of_ne (by decide)] at hcount
  omega

/-- A brace that closes a block closes one that was open. -/
theorem after_close (h : ClosesWithin depth (.mark .closeBrace :: ts)) :
    ∃ outer, depth = outer + 1 ∧ ClosesWithin outer ts := by
  have hclose := h.of_cons List.nil_prefix
  rw [List.count_cons_self, List.count_cons_of_ne (by decide)] at hclose
  obtain ⟨outer, rfl⟩ := Nat.exists_eq_add_one.2 hclose
  refine ⟨outer, rfl, fun front hfront => ?_⟩
  have hcount := h.of_cons hfront
  rw [List.count_cons_self, List.count_cons_of_ne (by decide)] at hcount
  omega

theorem after_other (h : ClosesWithin depth (t :: ts)) (hopen : t ≠ .mark .openBrace)
    (hclose : t ≠ .mark .closeBrace) : ClosesWithin depth ts := by
  intro front hfront
  have hcount := h.of_cons hfront
  rwa [List.count_cons_of_ne hclose, List.count_cons_of_ne hopen] at hcount

end ClosesWithin

/-! ### Skipping -/

section Skipping

variable {last line : Nat} {opening closing : PlacedToken} {header block rest : List PlacedToken}

/-- Tokens that close no more than what is open are skipped.  The induction is on the tokens, with
any number of blocks open around them. -/
theorem skipBraces_append {depth : Nat} (h : ClosesWithin depth (block.map (·.token)))
    (line : Nat) (rest : List PlacedToken) :
    ∃ outer,
      outer + (block.map (·.token)).count (.mark .closeBrace)
        = depth + (block.map (·.token)).count (.mark .openBrace) ∧
      skipBraces line (depth + 1) (block ++ rest) = skipBraces line (outer + 1) rest := by
  induction block generalizing depth with
  | nil => exact ⟨depth, rfl, rfl⟩
  | cons t block ih =>
    rw [List.map_cons] at h ⊢
    rw [List.cons_append, skipBraces]
    by_cases hopen : t.token = .mark .openBrace
    · rw [hopen] at h ⊢
      obtain ⟨outer, hcount, hskip⟩ := ih h.after_open
      refine ⟨outer, ?_, by rw [if_pos rfl, hskip]⟩
      rw [List.count_cons_self, List.count_cons_of_ne (by decide)]
      omega
    by_cases hclose : t.token = .mark .closeBrace
    · rw [hclose] at h ⊢
      obtain ⟨inner, rfl, hinner⟩ := h.after_close
      obtain ⟨outer, hcount, hskip⟩ := ih hinner
      refine ⟨outer, ?_, by rw [if_neg (by decide), if_pos rfl, if_neg (by simp)]; exact hskip⟩
      rw [List.count_cons_self, List.count_cons_of_ne (by decide)]
      omega
    · obtain ⟨outer, hcount, hskip⟩ := ih (h.after_other hopen hclose)
      refine ⟨outer, ?_, by rw [if_neg hopen, if_neg hclose, hskip]⟩
      rwa [List.count_cons_of_ne hclose, List.count_cons_of_ne hopen]

theorem skipBraces_balanced (h : Balanced (block.map (·.token)))
    (hclosing : closing.token = .mark .closeBrace) (rest : List PlacedToken) :
    skipBraces line 1 (block ++ closing :: rest) = .ok rest := by
  obtain ⟨outer, hcount, hskip⟩ := skipBraces_append h.closesWithin line (closing :: rest)
  have hnone : outer = 0 := by
    have := h.count_eq
    omega
  rw [hskip, hnone, skipBraces, if_neg (by rw [hclosing]; decide), if_pos hclosing, if_pos rfl]

theorem skipBraces_open (h : ClosesWithin 0 (block.map (·.token))) :
    skipBraces line 1 block = .error ⟨line, .unterminatedBlock .statement⟩ := by
  obtain ⟨outer, -, hskip⟩ := skipBraces_append h line []
  rwa [List.append_nil] at hskip

theorem skipStatement_header (h : ∀ t ∈ header, isBound t.token = false)
    (hopening : opening.token = .mark .openBrace) (rest : List PlacedToken) :
    skipStatement line (header ++ opening :: rest) = skipBraces line 1 rest := by
  induction header with
  | nil =>
    have hline : ¬ opening.token = .newline := by
      rw [hopening]
      decide
    rw [List.nil_append, skipStatement, if_neg hline, if_pos hopening]
  | cons t header ih =>
    obtain ⟨ht, hheader⟩ := List.forall_mem_cons.1 h
    rw [List.cons_append, skipStatement, if_neg (ne_of_not_isBound ht rfl),
      if_neg (ne_of_not_isBound ht rfl), ih hheader]

/-- A statement of another kind is skipped from its block on. -/
theorem readStatements_header (h : IsHeader (header.map (·.token)))
    (hopening : opening.token = .mark .openBrace) (rest : List PlacedToken) :
    readStatements last (header ++ opening :: rest)
      = skipBraces (lineOf last header) 1 rest >>= fun after =>
          (Statement.other :: ·) <$> readStatements last after := by
  cases header with
  | nil => exact absurd rfl h.ne_nil
  | cons t header =>
    have hbound : ∀ u ∈ t :: header, isBound u.token = false :=
      fun u hu => h.not_isBound _ (List.mem_map_of_mem hu)
    have hword := h.not_isKeyword t.token rfl
    rw [List.cons_append, readStatements_cons,
      if_neg (ne_of_not_isBound (hbound t List.mem_cons_self) rfl), readStatement_eq,
      hword "table" (by decide), hword "ref" (by decide), hword "enum" (by decide),
      if_neg Bool.false_ne_true, if_neg Bool.false_ne_true, if_neg Bool.false_ne_true,
      ← List.cons_append, skipStatement_header hbound hopening]
    change _ = skipBraces t.line 1 rest >>= _
    cases skipBraces t.line 1 rest <;> rfl

theorem readStatements_other (h : IsHeader (header.map (·.token)))
    (hopening : opening.token = .mark .openBrace) (hblock : Balanced (block.map (·.token)))
    (hclosing : closing.token = .mark .closeBrace) (last : Nat) :
    readStatements last (header ++ opening :: (block ++ [closing])) = .ok [.other] := by
  have hnil : readStatements last [] = .ok [] := by rw [readStatements]
  rw [readStatements_header h hopening, skipBraces_balanced hblock hclosing]
  change _ <$> readStatements last [] = _
  rw [hnil]
  rfl

theorem readStatements_open (h : IsHeader (header.map (·.token)))
    (hopening : opening.token = .mark .openBrace)
    (hblock : ClosesWithin 0 (block.map (·.token))) (last : Nat) :
    readStatements last (header ++ opening :: block)
      = .error ⟨lineOf last header, .unterminatedBlock .statement⟩ := by
  rw [readStatements_header h hopening, skipBraces_open hblock]
  rfl

end Skipping

/-! ### Texts -/

/-- Two texts that are read, one after the other on lines of its own. -/
theorem parse_followedBy {a b : String} {s t : Schema} (ha : parse a = .ok s)
    (hb : parse b = .ok t) : parse (a ++ "\n" ++ b) = .ok (s.followedBy t) := by
  obtain ⟨sa, hsa, ha⟩ := exists_ok_of_bind ha
  obtain ⟨ssa, hssa, ha⟩ := exists_ok_of_bind ha
  obtain ⟨sb, hsb, hb⟩ := exists_ok_of_bind hb
  obtain ⟨ssb, hssb, hb⟩ := exists_ok_of_bind hb
  cases ha
  cases hb
  rw [parse, (scan_append_newline hsa b).eq_ok hsb]
  change ofStatements <$> readStatements (sb.endLine + sa.endLine) (sa.tokens ++ _) = _
  rw [readStatements_append_newline hssa,
    (readStatements_moved sa.endLine sb.endLine sb.tokens).eq_ok hssb]
  exact congrArg Except.ok (ofStatements_append ssa ssb)

/-- The tokens of a text, as they are placed in it. -/
theorem exists_tokens_of_tokenize {text : String} {tokens : List PlacedToken} (ts : List Token)
    (h : tokenize text = .ok tokens) (hts : tokens.map (·.token) = ts ++ [.eof]) :
    ∃ s, scan text = .ok s ∧ s.tokens.map (·.token) = ts ∧ tokens = s.toList := by
  obtain ⟨s, hs, hlist⟩ := exists_ok_of_bind h
  cases hlist
  refine ⟨s, hs, ?_, rfl⟩
  rw [TokenStream.toList, List.map_append] at hts
  exact List.append_inj_left' hts rfl

/-- A statement of another kind declares nothing.  A text of such a statement alone is read as an
empty schema, and between two texts that are read, on lines of its own, it makes no difference,
whatever stands in its block as long as braces are balanced there.  A block that is not closed is an
error on the line on which the statement starts. -/
theorem parse_other {header block : List Token} (hheader : IsHeader header) :
    (Balanced block → ∀ text tokens, tokenize text = .ok tokens →
      tokens.map (·.token)
        = header ++ .mark .openBrace :: (block ++ [.mark .closeBrace, .eof]) →
      parse text = .ok {} ∧
        ∀ before after s t, parse before = .ok s → parse after = .ok t →
          ∃ u, parse (before ++ "\n" ++ after) = .ok u ∧
            parse (before ++ "\n" ++ text ++ "\n" ++ after) = .ok u) ∧
    (ClosesWithin 0 block → ∀ text tokens, tokenize text = .ok tokens →
      tokens.map (·.token) = header ++ .mark .openBrace :: (block ++ [.eof]) →
      ∃ t ∈ tokens.head?, parse text = .error ⟨t.line, .unterminatedBlock .statement⟩) := by
  constructor
  · intro hblock text tokens htokens heq
    obtain ⟨s, hs, hmap, -⟩ := exists_tokens_of_tokenize
      (header ++ .mark .openBrace :: (block ++ [.mark .closeBrace])) htokens (by simpa using heq)
    obtain ⟨front, more, hsplit, rfl, hmore⟩ := List.map_eq_append_iff.1 hmap
    obtain ⟨opening, inner, rfl, hopening, hinner⟩ := List.map_eq_cons_iff.1 hmore
    obtain ⟨body, ends, rfl, rfl, hends⟩ := List.map_eq_append_iff.1 hinner
    obtain ⟨closing, nothing, rfl, hclosing, hnothing⟩ := List.map_eq_cons_iff.1 hends
    obtain rfl := List.map_eq_nil_iff.1 hnothing
    have hparse : parse text = .ok {} := by
      rw [parse, hs]
      change ofStatements <$> readStatements s.endLine s.tokens = _
      rw [hsplit, readStatements_other hheader hopening hblock hclosing]
      rfl
    refine ⟨hparse, fun before after s t hbefore hafter => ?_⟩
    refine ⟨s.followedBy t, parse_followedBy hbefore hafter, ?_⟩
    have hfirst := parse_followedBy hbefore hparse
    rw [followedBy_empty] at hfirst
    exact parse_followedBy hfirst hafter
  · intro hblock text tokens htokens heq
    obtain ⟨s, hs, hmap, rfl⟩ :=
      exists_tokens_of_tokenize (header ++ .mark .openBrace :: block) htokens (by simpa using heq)
    obtain ⟨front, more, hsplit, rfl, hmore⟩ := List.map_eq_append_iff.1 hmap
    obtain ⟨opening, body, rfl, hopening, rfl⟩ := List.map_eq_cons_iff.1 hmore
    have herror : parse text
        = .error ⟨lineOf s.endLine front, .unterminatedBlock .statement⟩ := by
      rw [parse, hs]
      change ofStatements <$> readStatements s.endLine s.tokens = _
      rw [hsplit, readStatements_open hheader hopening hblock]
      rfl
    cases front with
    | nil => exact absurd rfl hheader.ne_nil
    | cons t front =>
      refine ⟨t, ?_, herror⟩
      rw [TokenStream.toList, hsplit]
      rfl

/-- A block in which a table is hidden. -/
def hidingBlock : List Token :=
  [.newline, .ident "Table", .ident "t", .mark .openBrace, .ident "id", .ident "int",
    .mark .closeBrace, .newline]

theorem parse_other_hidingBlock :
    IsHeader [.ident "TableGroup", .ident "g"] ∧ Balanced hidingBlock ∧
    parse "TableGroup g \x7b\nTable t \x7b id int \x7d\n\x7d" = .ok {} ∧
    (∃ u, parse ("Enum e \x7b a \x7d" ++ "\n" ++ "Enum f \x7b b \x7d") = .ok u ∧
      parse ("Enum e \x7b a \x7d" ++ "\n" ++ "TableGroup g \x7b\nTable t \x7b id int \x7d\n\x7d"
        ++ "\n" ++ "Enum f \x7b b \x7d") = .ok u) ∧
    ∃ t ∈ (placed 1 (.ident "TableGroup" :: .ident "g" :: .mark .openBrace ::
        (hidingBlock ++ [.eof]))).head?,
      parse "TableGroup g \x7b\nTable t \x7b id int \x7d\n"
        = .error ⟨t.line, .unterminatedBlock .statement⟩ := by
  have hheader : IsHeader [.ident "TableGroup", .ident "g"] :=
    ⟨by decide, by decide, by decide⟩
  have hblock : Balanced hidingBlock := ⟨by decide, by decide⟩
  have hclosed : tokenize "TableGroup g \x7b\nTable t \x7b id int \x7d\n\x7d"
      = .ok (placed 1 (.ident "TableGroup" :: .ident "g" :: .mark .openBrace ::
          (hidingBlock ++ [.mark .closeBrace, .eof]))) :=
    eq_ok_of_toOption (by decide +kernel)
  have hopen : tokenize "TableGroup g \x7b\nTable t \x7b id int \x7d\n"
      = .ok (placed 1 (.ident "TableGroup" :: .ident "g" :: .mark .openBrace ::
          (hidingBlock ++ [.eof]))) :=
    eq_ok_of_toOption (by decide +kernel)
  have hbefore : parse "Enum e \x7b a \x7d" = .ok { enums := [⟨"e", ["a"]⟩] } :=
    eq_ok_of_toOption (by decide +kernel)
  have hafter : parse "Enum f \x7b b \x7d" = .ok { enums := [⟨"f", ["b"]⟩] } :=
    eq_ok_of_toOption (by decide +kernel)
  obtain ⟨hskipped, hbetween⟩ := (parse_other hheader).1 hblock _ _ hclosed rfl
  exact ⟨hheader, hblock, hskipped, hbetween _ _ _ _ hbefore hafter,
    (parse_other hheader).2 hblock.closesWithin _ _ hopen rfl⟩

end Mockup.Schema
