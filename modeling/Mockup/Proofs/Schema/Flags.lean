import Mathlib.Data.List.TakeWhile
import Mockup.Proofs.Schema.Declared
import Mockup.Proofs.Schema.Written
import Mockup.Proofs.Text.SmallLetters

/-!
# The flags of a column and the texts of its constraints

A column holds the flags that its constraints and settings set, and their texts.  The words outside
of brackets and the settings within are read by different rules, and the text of a setting is put
together from its tokens anew.  The flags for primary keys, for required and for unique values are
functions of the texts all the same.

* `join_words`: the text of a row of words;
* `lower_join_eq_iff`: the text of a setting is a plain one if and only if its words are;
* `Flagged`: the flags of a column agree with the texts of its constraints;
* `parse_flagged`: this holds of every column of a schema that is read.
-/

namespace Mockup.Schema

open Text (isPlain isSmall lower lowerChar)

/-! ### The text of a setting -/

theorem isNameChar_of_mem_isWord {cs : List Char} (h : isWord cs = true) :
    ∀ c ∈ cs, c = '#' ∨ isNameChar c = true := by
  rcases cs with _ | ⟨c, cs⟩
  · cases h
  · obtain ⟨hc, hcs⟩ := (Bool.and_eq_true _ _).mp h
    refine List.forall_mem_cons.2 ⟨?_, fun d hd => .inr (List.all_eq_true.1 hcs d hd)⟩
    rcases (Bool.or_eq_true _ _).mp hc with hc | hc
    · exact .inl (of_decide_eq_true hc)
    · -- a name may start with what it may go on with
      refine .inr ?_
      rcases (Bool.or_eq_true _ _).mp hc with hc | hc
      · simp [isNameChar, Text.isAlphanumeric, hc]
      · simp [isNameChar, hc]

/-- A character that is in no word. -/
theorem notMem_of_isWord {cs : List Char} (h : isWord cs = true) {c : Char} (hc : c ≠ '#')
    (hname : isNameChar c = false) : c ∉ cs := by
  intro hmem
  rcases isNameChar_of_mem_isWord h c hmem with h | h
  · exact hc h
  · rw [hname] at h
    cases h

/-- After a word another one stands behind a blank. -/
theorem appendTo_word (front : String) {last : String} (h : isWord last.toList = true)
    (w : String) : Token.appendTo (front ++ last) (.ident w) = front ++ last ++ " " ++ w := by
  obtain ⟨c, hc⟩ : ∃ c, last.toList.getLast? = some c := by
    cases hlast : last.toList.getLast? with
    | some c => exact ⟨c, rfl⟩
    | none =>
      rw [List.getLast?_eq_none_iff.1 hlast] at h
      cases h
  have hend : (front ++ last).toList.getLast? = some c := by
    rw [String.toList_append, List.getLast?_append, hc, Option.some_or]
  have hmem : c ∈ last.toList := List.mem_of_getLast? hc
  have hdot : c ≠ '.' := by
    rintro rfl
    exact notMem_of_isWord h (by decide) (by decide +kernel) hmem
  have hparen : c ≠ '(' := by
    rintro rfl
    exact notMem_of_isWord h (by decide) (by decide +kernel) hmem
  have hne : front ++ last ≠ "" := by
    intro hnil
    rw [hnil] at hend
    cases hend
  unfold Token.appendTo
  dsimp only
  rw [hend, if_pos (by simp [hne, hdot, hparen, Token.isTight])]
  rfl

/-- The text of a row of words: a blank stands between each two. -/
theorem join_words {ws : List String} (h : ∀ w ∈ ws, isWord w.toList = true) :
    Token.join (ws.map .ident) = " ".intercalate ws := by
  have hfold (ws : List String) (front last : String) (hlast : isWord last.toList = true)
      (hws : ∀ w ∈ ws, isWord w.toList = true) :
      (ws.map Token.ident).foldl Token.appendTo (front ++ last)
        = " ".intercalate ((front ++ last) :: ws) := by
    induction ws generalizing front last with
    | nil => simp
    | cons w ws ih =>
      obtain ⟨hw, hws⟩ := List.forall_mem_cons.1 hws
      rw [List.map_cons, List.foldl_cons, appendTo_word front hlast, ih _ w hw hws,
        String.intercalate_cons_append, String.intercalate_cons_cons]
  cases ws with
  | nil => rfl
  | cons w ws =>
    obtain ⟨hw, hws⟩ := List.forall_mem_cons.1 h
    have hfirst : Token.appendTo "" (.ident w) = "" ++ w := by simp [Token.appendTo, Token.text]
    rw [Token.join, List.map_cons, List.foldl_cons, hfirst, hfold ws "" w hw hws,
      String.empty_append]

/-- The text of a row of tokens has the text of each of them in it. -/
theorem mem_join {ts : List Token} {t : Token} (ht : t ∈ ts) {c : Char} (hc : c ∈ t.text.toList) :
    c ∈ (Token.join ts).toList := by
  have hfold (ts : List Token) (out : String) :
      (∀ c ∈ out.toList, c ∈ (ts.foldl Token.appendTo out).toList) ∧
      ∀ t ∈ ts, ∀ c ∈ t.text.toList, c ∈ (ts.foldl Token.appendTo out).toList := by
    induction ts generalizing out with
    | nil => simp
    | cons u ts ih =>
      obtain ⟨hout, hmore⟩ := ih (Token.appendTo out u)
      have happend : ∀ c, c ∈ out.toList ∨ c ∈ u.text.toList →
          c ∈ (Token.appendTo out u).toList := by
        intro c hc
        unfold Token.appendTo
        dsimp only
        rw [String.toList_append, List.mem_append]
        split
        · rw [String.toList_append, List.mem_append]
          exact hc.imp_left .inl
        · exact hc
      rw [List.foldl_cons]
      refine ⟨fun c hc => hout c (happend c (.inl hc)), List.forall_mem_cons.2 ⟨?_, hmore⟩⟩
      exact fun c hc => hout c (happend c (.inr hc))
  exact (hfold ts "").2 t ht c hc

/-- A symbol does not become a small letter or a blank. -/
theorem not_small_of_isSymbolChar {c : Char} (h : isSymbolChar c = true) :
    isPlain (lowerChar c) = false := by
  refine Bool.eq_false_iff.2 fun hsmall => ?_
  simp only [isSymbolChar, Bool.and_eq_true, Bool.not_eq_true'] at h
  have hblank : Text.isBlank c = false := h.1.1.1.1
  have hname : isNameStart c = false := h.2
  have hletter : isSmall c = true ∨ c.isUpper = true → False := by
    intro hc
    have hascii : c.toNat < 0x80 := by
      rcases hc with hc | hc
      · have := Text.toNat_of_isSmall hc
        omega
      · have := Text.toNat_of_isUpper hc
        omega
    have hcases : (!(isSmall c || c.isUpper) || Text.isBlank c || isNameStart c) = true :=
      Text.ascii_cases (p := fun c => !(isSmall c || c.isUpper) || Text.isBlank c || isNameStart c)
        (by decide +kernel) hascii
    rw [hblank, hname, (Bool.or_eq_true _ _).mpr hc] at hcases
    cases hcases
  rcases Text.lowerChar_small hsmall with hc | hc | rfl
  · exact hletter (.inl hc)
  · exact hletter (.inr hc)
  · exact absurd hname (by decide +kernel)

theorem not_small_of_isDigit {c : Char} (h : c.isDigit = true) :
    isPlain (lowerChar c) = false := by
  refine Bool.eq_false_iff.2 fun hsmall => ?_
  have hnat : 0x30 ≤ c.toNat ∧ c.toNat ≤ 0x39 := by
    simpa [Char.isDigit, UInt32.le_iff_toNat_le] using h
  rcases Text.lowerChar_small hsmall with hc | hc | rfl
  · have := Text.toNat_of_isSmall hc
    omega
  · have := Text.toNat_of_isUpper hc
    omega
  · exact absurd h (by decide)

/-- A token that is no word has a character that does not become a small letter or a blank. -/
theorem exists_not_small {t : Token} (ht : t.isLexeme = true) (hline : t ≠ .newline)
    (hword : ∀ w, t ≠ .ident w) :
    ∃ c ∈ t.text.toList, isPlain (lowerChar c) = false := by
  cases t with
  | ident w => exact absurd rfl (hword w)
  | quoted s => exact ⟨'"', by simp [Token.text], by decide +kernel⟩
  | str s => exact ⟨'\'', by simp [Token.text], by decide +kernel⟩
  | expr s => exact ⟨'`', by simp [Token.text], by decide +kernel⟩
  | num s =>
    rcases hs : s.toList with _ | ⟨c, cs⟩
    · simp [Token.isLexeme, hs, isNumeral] at ht
    · rw [Token.isLexeme, hs] at ht
      have hdigit := (@restOfNumber_numeral cs [] c ht (by simp)).1
      exact ⟨c, by simp [Token.text, hs], not_small_of_isDigit hdigit⟩
  | mark m =>
    have hany : m.chars.any (fun c => !isPlain (lowerChar c)) = true := by
      cases m <;> decide +kernel
    simpa [Token.text] using hany
  | symbol c => exact ⟨c, by simp [Token.text], not_small_of_isSymbolChar ht⟩
  | newline => exact absurd rfl hline
  | eof => cases ht

section Settings

variable {n : String} {group : List Token}

/-- Without a colon all tokens of a setting belong to its name. -/
theorem settingName_of_notMem (h : .mark .colon ∉ group) :
    settingName group = " ".intercalate ((group.map Token.text).map lower) := by
  have htake : group.takeWhile (· != .mark .colon) = group := by
    refine List.takeWhile_eq_self_iff.2 fun t ht => bne_iff_ne.2 ?_
    rintro rfl
    exact h ht
  rw [settingName, htake, List.map_map]
  rfl

/-- A setting says something plain if and only if its text does.  This is clear for rows of words;
any other token keeps both the name and the text from being plain. -/
theorem lower_join_eq_iff (hn : isPlain n.toList = true)
    (hgroup : ∀ t ∈ group, t.isLexeme = true ∧ t ≠ .newline) :
    lower (Token.join group) = n ↔ settingValue? group = none ∧ settingName group = n := by
  by_cases hwords : ∀ t ∈ group, ∃ w, t = .ident w
  · obtain ⟨ws, rfl⟩ : ∃ ws : List String, group = ws.map .ident := by
      refine ⟨group.map Token.text, ?_⟩
      rw [List.map_map]
      refine (List.map_id group).symm.trans (List.map_congr_left fun t ht => ?_)
      obtain ⟨w, rfl⟩ := hwords t ht
      rfl
    have hlexeme : ∀ w ∈ ws, isWord w.toList = true :=
      fun w hw => (hgroup _ (List.mem_map.2 ⟨w, hw, rfl⟩)).1
    have hcolon : .mark .colon ∉ ws.map Token.ident := by simp
    have htexts : (ws.map Token.ident).map Token.text = ws := by
      rw [List.map_map]
      exact List.map_id ws
    rw [settingValue?_eq_none_iff, settingName_of_notMem hcolon, htexts, join_words hlexeme,
      Text.lower_intercalate_eq_iff hn]
    exact (and_iff_right hcolon).symm
  · obtain ⟨t, ht, hword⟩ : ∃ t ∈ group, ∀ w, t ≠ .ident w := by simpa using hwords
    obtain ⟨c, hc, hnot⟩ := exists_not_small (hgroup t ht).1 (hgroup t ht).2 hword
    constructor
    · intro h
      exact absurd (Text.lowerChar_small_of_lower_eq hn h (mem_join ht hc))
        (Bool.eq_false_iff.1 hnot)
    · rintro ⟨hvalue, h⟩
      rw [settingName_of_notMem (settingValue?_eq_none_iff.1 hvalue),
        ← Text.lower_intercalate_eq_iff hn] at h
      have hmem : c ∈ (" ".intercalate (group.map Token.text)).toList := by
        rw [String.toList_intercalate, List.map_map]
        exact Text.mem_intercalate (List.mem_map.2 ⟨t, ht, rfl⟩) hc
      exact absurd (Text.lowerChar_small_of_lower_eq hn h hmem) (Bool.eq_false_iff.1 hnot)

/-- Only a setting without a value makes a column a primary key, not null or unique. -/
theorem readSetting_plain {line : Nat} {setting : Setting}
    (h : readSetting line group = .ok setting) :
    (setting = .primaryKey ↔ settingValue? group = none ∧
      (settingName group = "pk" ∨ settingName group = "primary key")) ∧
    (setting = .notNull ↔ settingValue? group = none ∧ settingName group = "not null") ∧
    (setting = .unique ↔ settingValue? group = none ∧ settingName group = "unique") := by
  unfold readSetting at h
  split at h
  · next hvalue =>
    cases h
    rw [hvalue]
    by_cases hprimary : settingName group = "pk" ∨ settingName group = "primary key"
    · rcases hprimary with hname | hname <;> simp [hname]
    · by_cases hnull : settingName group = "not null"
      · simp [hnull]
      · by_cases hunique : settingName group = "unique" <;> simp [hprimary, hnull, hunique]
  · next value hvalue =>
    dsimp only at h
    -- what has a value is a default, a note, a reference or something else
    have hother : setting ≠ .primaryKey ∧ setting ≠ .notNull ∧ setting ≠ .unique := by
      split at h
      · cases h; simp
      split at h
      · cases h; simp
      split at h
      · split at h
        · cases h
        · cases h; simp
      · cases h; simp
    simp [hvalue, hother]

end Settings

/-! ### Columns -/

/-- The column is what its constraints and settings say, in letters of either case. -/
structure Flagged (c : Column) : Prop where
  primaryKey : c.primaryKey = true ↔
    ∃ x ∈ c.constraints, lower x = "pk" ∨ lower x = "primary key"
  notNull : c.notNull = true ↔ ∃ x ∈ c.constraints, lower x = "not null"
  unique : c.unique = true ↔ ∃ x ∈ c.constraints, lower x = "unique"

/-- The column `c'` has one more constraint than the column `c`, and is besides what this says. -/
structure Extends (c : Column) (x : String) (c' : Column) : Prop where
  constraints : c'.constraints = c.constraints ++ [x]
  primaryKey : c'.primaryKey = true ↔
    c.primaryKey = true ∨ lower x = "pk" ∨ lower x = "primary key"
  notNull : c'.notNull = true ↔ c.notNull = true ∨ lower x = "not null"
  unique : c'.unique = true ↔ c.unique = true ∨ lower x = "unique"

theorem Flagged.extend {c c' : Column} {x : String} (h : Flagged c) (hx : Extends c x c') :
    Flagged c' := by
  have hexists : ∀ p : String → Prop,
      (∃ y ∈ c'.constraints, p y) ↔ (∃ y ∈ c.constraints, p y) ∨ p x := by
    intro p
    rw [hx.constraints]
    simp [or_and_right, exists_or]
  constructor
  · rw [hx.primaryKey, h.primaryKey, hexists]
  · rw [hx.notNull, h.notNull, hexists]
  · rw [hx.unique, h.unique, hexists]

/-- A word outside of brackets is one more constraint, or two that belong together are. -/
theorem extends_bareConstraint (c : Column) {word : String} (hword : isWord word.toList = true)
    (ts : List PlacedToken) : ∃ x, Extends c x (bareConstraint c word ts).1 := by
  have hblank : ' ' ∉ word.toList := notMem_of_isWord hword (by decide) (by decide +kernel)
  have htwo : ∀ {n : String}, isPlain n.toList = true → ' ' ∈ n.toList →
      lower word ≠ n :=
    fun hn hmem h => Text.blank_notMem_of_lower_eq hn h hblank hmem
  unfold bareConstraint
  dsimp only
  split
  · refine ⟨"primary key", rfl, ?_, ?_, ?_⟩
    · exact iff_of_true rfl (.inr (.inr (by decide +kernel)))
    · exact (or_iff_left (by decide +kernel)).symm
    · exact (or_iff_left (by decide +kernel)).symm
  split
  · refine ⟨"not null", rfl, ?_, ?_, ?_⟩
    · exact (or_iff_left (by decide +kernel)).symm
    · exact iff_of_true rfl (.inr (by decide +kernel))
    · exact (or_iff_left (by decide +kernel)).symm
  · refine ⟨lower word, rfl, ?_, ?_, ?_⟩
    · rw [Text.lower_lower, or_iff_left (htwo (n := "primary key") (by decide) (by decide))]
      simp
    · rw [Text.lower_lower]
      exact (or_iff_left (htwo (by decide) (by decide))).symm
    · rw [Text.lower_lower]
      simp

/-- A setting is one more constraint. -/
theorem extends_apply (d : ColumnDraft) {line : Nat} {group : List Token} {setting : Setting}
    (hgroup : ∀ t ∈ group, t.isLexeme = true ∧ t ≠ .newline)
    (h : readSetting line group = .ok setting) :
    Extends d.column (Token.join group) (d.apply setting (Token.join group)).column := by
  obtain ⟨hprimary, hnull, hunique⟩ := readSetting_plain h
  constructor
  · cases setting <;> rfl
  · rw [lower_join_eq_iff (by decide) hgroup, lower_join_eq_iff (by decide) hgroup, ← and_or_left,
      ← hprimary]
    cases setting <;> simp [ColumnDraft.apply]
  · rw [lower_join_eq_iff (by decide) hgroup, ← hnull]
    cases setting <;> simp [ColumnDraft.apply]
  · rw [lower_join_eq_iff (by decide) hgroup, ← hunique]
    cases setting <;> simp [ColumnDraft.apply]

/-- A column of a text that is read is a primary key, not null or unique if and only if one of its
constraints says so. -/
theorem parse_flagged {text : String} {s : Schema} (h : parse text = .ok s) :
    ∀ t ∈ s.tables, ∀ c ∈ t.columns, Flagged c := by
  intro t ht c hc
  obtain ⟨stream, line, name, us, refs, rest, hscan, hus, hread, -⟩ := exists_readColumn h ht hc
  rw [readColumn_eq] at hread
  obtain ⟨⟨dataType, after⟩, htype, htail⟩ := exists_ok_of_bind hread
  have hlexeme : ∀ u ∈ after, u.token.isLexeme = true :=
    fun u hu => isLexeme_of_mem_scan hscan u (hus.mem ((readType_suffix htype).mem hu))
  refine columnTail_invariant (P := fun d => Flagged d.column)
    (Q := fun t => t.isLexeme = true) ?_ ?_ hlexeme ?_ htail
  · intro d word ts hword hd
    obtain ⟨x, hx⟩ := extends_bareConstraint d.column hword ts
    exact hd.extend hx
  · intro d group setting hgroup hsetting hd
    exact hd.extend (extends_apply d hgroup hsetting)
  · constructor <;> simp

/-- Words and settings in mixed case, in two rows of brackets. -/
theorem parse_flagged_mixed :
    ∃ s c,
      parse "Table t \x7b\n  id int [Primary\n Key] UNIQUE [default: 1, NOT NULL] nOt null\n\x7d"
        = .ok s ∧
      s.tables.flatMap (·.columns) = [c] ∧
      c.constraints = ["Primary Key", "unique", "default: 1", "NOT NULL", "not null"] ∧
      (c.primaryKey ∧ c.notNull ∧ c.unique) ∧ Flagged c := by
  let c : Column :=
    { name := "id"
      dataType := "int"
      primaryKey := true
      notNull := true
      unique := true
      defaultValue := some "1"
      constraints := ["Primary Key", "unique", "default: 1", "NOT NULL", "not null"] }
  have hparse :
      parse "Table t \x7b\n  id int [Primary\n Key] UNIQUE [default: 1, NOT NULL] nOt null\n\x7d"
        = .ok { tables := [{ name := "t", columns := [c] }] } :=
    eq_ok_of_toOption (by decide +kernel)
  exact ⟨_, c, hparse, rfl, rfl, ⟨rfl, rfl, rfl⟩,
    parse_flagged hparse _ (List.mem_singleton.2 rfl) c (List.mem_singleton.2 rfl)⟩

end Mockup.Schema
