import Mockup.Proofs.Schema.Lines
import Mockup.Proofs.Schema.Rests
import Mockup.Proofs.Schema.Written

/-!
# The lines of tokens and errors

Tokens bear lines of the text, in rising order, and an error is reported on a line of the text too.
Where a text is cut into tokens, the count of lines never goes back and never runs ahead of the line
ends that were passed.  A reader makes up no lines: it reports an error on the line of a token that
it was given, on the line where the text ends, or on the one where a block was opened.

* `FailsOn`, `OnLines`: errors, and tokens, that are on certain lines only;
* `failsOn_readColumn`, `failsOn_readTable`, `failsOn_readEnum`, `failsOn_readStatements`: the lines
  of the errors of the readers, with one lemma for each of them;
* `InText`: the lines from a place in a text up to its end;
* `scanFrom_inText`, `failsOn_scanFrom`: the cutting of a text;
* `lines_in_text`: the lines of all tokens of a text, and of its error.
-/

namespace Mockup.Schema

/-! ### Errors and tokens on certain lines -/

/-- If the answer is an error, it is reported on a line with the property. -/
def FailsOn {α : Type} (P : Nat → Prop) (r : Except ReadError α) : Prop :=
  ∀ e, r = .error e → P e.line

/-- The tokens stand on lines with the property. -/
def OnLines (P : Nat → Prop) (ts : List PlacedToken) : Prop :=
  ∀ t ∈ ts, P t.line

section FailsOn

variable {α β : Type} {P : Nat → Prop} {r x : Except ReadError α}

namespace FailsOn

theorem ok (a : α) : FailsOn P (.ok a) :=
  nofun

theorem error {line : Nat} (h : P line) (fault : ParseFault) :
    FailsOn P (.error ⟨line, fault⟩ : Except ReadError α) := by
  rintro _ ⟨⟩
  exact h

/-- The error of a step is the error of what it belongs to. -/
theorem of_eq {e : ReadError} (h : FailsOn P r) (hr : r = .error e) :
    FailsOn P (.error e : Except ReadError β) := by
  rintro _ ⟨⟩
  exact h e hr

theorem bind {f : α → Except ReadError β} (h : FailsOn P r)
    (hf : ∀ a, r = .ok a → FailsOn P (f a)) : FailsOn P (r >>= f) := by
  cases hr : r with
  | error e => exact h.of_eq hr
  | ok a => exact hf a hr

theorem map {f : α → β} (h : FailsOn P r) : FailsOn P (f <$> r) := by
  cases hr : r with
  | error e => exact h.of_eq hr
  | ok a => exact .ok (f a)

theorem ite {c : Prop} [Decidable c] (hpos : c → FailsOn P r) (hneg : ¬ c → FailsOn P x) :
    FailsOn P (if c then r else x) := by
  split
  · next hc => exact hpos hc
  · next hc => exact hneg hc

end FailsOn

namespace OnLines

variable {ts rest : List PlacedToken}

theorem of_suffix (h : OnLines P ts) (hrest : rest <:+ ts) : OnLines P rest :=
  fun t ht => h t (hrest.mem ht)

theorem tail {t : PlacedToken} (h : OnLines P (t :: ts)) : OnLines P ts :=
  (List.forall_mem_cons.1 h).2

theorem head {t : PlacedToken} (h : OnLines P (t :: ts)) : P t.line :=
  (List.forall_mem_cons.1 h).1

theorem lineOf {last : Nat} (h : OnLines P ts) (hlast : P last) : P (lineOf last ts) := by
  cases ts with
  | nil => exact hlast
  | cons t ts => exact h.head

end OnLines

theorem failsOn_unexpected {last : Nat} {ts : List PlacedToken} (hlast : P last)
    (hts : OnLines P ts) (expected : Expectation) :
    FailsOn P (unexpected last expected ts : Except ReadError α) :=
  .error (hts.lineOf hlast) _

end FailsOn

section Readers

variable {P : Nat → Prop} {last line opened : Nat} {t : PlacedToken} {ts : List PlacedToken}

/-! ### Settings and references -/

theorem failsOn_dropSettings (hopened : P opened) (ts : List PlacedToken) :
    FailsOn P (dropSettings opened ts) := by
  induction ts with
  | nil => exact .error hopened _
  | cons t ts ih =>
    rw [dropSettings]
    exact .ite (fun _ => .ok ts) fun _ => ih

theorem failsOn_settingGroups (hopened : P opened) (depth : Nat) (group : List Token)
    (ts : List PlacedToken) : FailsOn P (settingGroups opened depth group ts) := by
  induction ts generalizing depth group with
  | nil => exact .error hopened _
  | cons t ts ih =>
    rw [settingGroups]
    exact .ite (fun _ => .ok _) fun _ => .ite (fun _ => (ih 0 []).bind fun _ _ => .ok _)
      fun _ => .ite (fun _ => ih depth group) fun _ => ih _ _

theorem failsOn_endpoint (hline : P line) (ts : List Token) : FailsOn P (endpoint line ts) := by
  unfold endpoint
  split
  · exact .ok _
  · exact .error hline _

theorem failsOn_inlineRef (hline : P line) (ts : List Token) : FailsOn P (inlineRef line ts) := by
  unfold inlineRef
  split
  · exact .error hline _
  · split
    · exact (failsOn_endpoint hline _).bind fun _ _ => .ok _
    · exact .error hline _

theorem failsOn_reference (hline : P line) (ts : List Token) : FailsOn P (reference line ts) := by
  unfold reference
  dsimp only
  split
  · exact .error hline _
  · exact (failsOn_endpoint hline _).bind fun _ _ =>
      (failsOn_endpoint hline _).bind fun _ _ => .ok _

theorem failsOn_refTokens (hts : OnLines P ts) : FailsOn P (refTokens ts) := by
  fun_induction refTokens ts with
  | case1 => exact .ok _
  | case2 => exact .ok _
  | case3 t ts _ _ e hdrop => exact (failsOn_dropSettings hts.head ts).of_eq hdrop
  | case4 t ts _ _ rest hdrop ih => exact ih (hts.tail.of_suffix (dropSettings_suffix hdrop))
  | case5 t ts _ _ ih => exact (ih hts.tail).bind fun _ _ => .ok _

theorem failsOn_refLine (hlast : P last) (hts : OnLines P ts) : FailsOn P (refLine last ts) := by
  rw [refLine_eq]
  exact (failsOn_refTokens hts).bind fun _ _ =>
    (failsOn_reference (hts.lineOf hlast) _).bind fun _ _ => .ok _

theorem failsOn_refBlock (hlast : P last) (hopened : P opened) (hts : OnLines P ts) :
    FailsOn P (refBlock last opened ts) := by
  fun_induction refBlock last opened ts with
  | case1 => exact .error hopened _
  | case2 t ts _ ih => exact ih hts.tail
  | case3 => exact .ok _
  | case4 t ts _ _ e hline => exact (failsOn_refLine hlast hts).of_eq hline
  | case5 t ts _ _ r rest hline ih =>
    exact (ih (hts.of_suffix (refLine_suffix hline))).bind fun _ _ => .ok _

theorem failsOn_readRefs (hlast : P last) (hts : OnLines P ts) :
    FailsOn P (readRefs last ts) := by
  have hname := hts.of_suffix (skipName_suffix ts)
  unfold readRefs
  split
  · next t rest heq =>
    rw [heq] at hname
    exact .ite (fun _ => (failsOn_refLine hlast hname.tail).bind fun _ _ => .ok _) fun _ =>
      .ite (fun _ => failsOn_refBlock hlast hname.head hname.tail) fun _ =>
        failsOn_unexpected hlast hname _
  · exact .error hlast _

/-! ### Columns -/

theorem failsOn_typeArguments (hline : P line) (ts : List PlacedToken) :
    FailsOn P (typeArguments line ts) := by
  induction ts with
  | nil => exact .error hline _
  | cons t ts ih =>
    rw [typeArguments]
    exact .ite (fun _ => .ok _) fun _ => .ite (fun _ => .error hline _) fun _ =>
      .ite (fun _ => ih) fun _ => ih.bind fun _ _ => .ok _

theorem failsOn_readType (hline : P line) (column : String) (ts : List PlacedToken) :
    FailsOn P (readType line column ts) := by
  unfold readType
  split
  · exact .error hline _
  · split
    · exact .ite (fun _ => (failsOn_typeArguments hline _).bind fun _ _ => .ok _) fun _ => .ok _
    · exact .ok _

theorem failsOn_readSetting (hline : P line) (group : List Token) :
    FailsOn P (readSetting line group) := by
  unfold readSetting
  split
  · exact .ok _
  · refine .ite (fun _ => .ok _) fun _ => .ite (fun _ => .ok _) fun _ =>
      .ite (fun _ => ?_) fun _ => .ok _
    split
    · next href => exact (failsOn_inlineRef hline _).of_eq href
    · exact .ok _

theorem failsOn_applySettings (hline : P line) (d : ColumnDraft) (groups : List (List Token)) :
    FailsOn P (applySettings line d groups) := by
  induction groups generalizing d with
  | nil => exact .ok d
  | cons group groups ih =>
    rw [applySettings]
    split
    · next hsetting => exact (failsOn_readSetting hline group).of_eq hsetting
    · exact ih _

theorem failsOn_columnTail (hlast : P last) (hline : P line) (d : ColumnDraft)
    (hts : OnLines P ts) : FailsOn P (columnTail last line d ts) := by
  fun_induction columnTail last line d ts with
  | case1 => exact .ok _
  | case2 => exact .ok _
  | case3 d t ts _ _ e hgroups =>
    exact (failsOn_settingGroups hts.head 0 [] ts).of_eq hgroups
  | case4 d t ts _ _ groups rest _ e happly =>
    exact (failsOn_applySettings hline d groups).of_eq happly
  | case5 d t ts _ _ groups rest hgroups d' _ ih =>
    exact ih (hts.tail.of_suffix (settingGroups_suffix hgroups))
  | case6 d t ts _ word _ next ih =>
    exact ih (hts.tail.of_suffix (bareConstraint_suffix d.column word ts))
  | case7 => exact failsOn_unexpected hlast hts _

theorem failsOn_readColumn (hlast : P last) (hline : P line) (name : String)
    (hts : OnLines P ts) : FailsOn P (readColumn last line name ts) := by
  rw [readColumn_eq]
  exact (failsOn_readType hline name ts).bind fun _ htype =>
    failsOn_columnTail hlast hline _ (hts.of_suffix (readType_suffix htype))

/-! ### Indexes and notes -/

theorem failsOn_indexColumns (hlast : P last) (hts : OnLines P ts) :
    FailsOn P (indexColumns last ts) := by
  induction ts with
  | nil => exact .error hlast _
  | cons t ts ih =>
    rw [indexColumns]
    exact .ite (fun _ => .ok _) fun _ => .ite (fun _ => failsOn_unexpected hlast hts.tail _)
      fun _ => .ite (fun _ => ih hts.tail) fun _ => (ih hts.tail).bind fun _ _ => .ok _

theorem failsOn_indexSettings (hts : OnLines P ts) : FailsOn P (indexSettings ts) := by
  unfold indexSettings
  split
  · exact .ok _
  · refine .ite (fun _ => ?_) fun _ => .ok _
    split
    · next hgroups => exact (failsOn_settingGroups hts.head 0 [] _).of_eq hgroups
    · exact .ok _

theorem failsOn_indexHead (hlast : P last) (hts : OnLines P ts) :
    FailsOn P (indexHead last t ts) :=
  .ite (fun _ => failsOn_indexColumns hlast hts) fun _ => .ok _

theorem failsOn_readIndexes (hlast : P last) (hopened : P opened) (hts : OnLines P ts) :
    FailsOn P (readIndexes last opened ts) := by
  fun_induction readIndexes last opened ts with
  | case1 => exact .error hopened _
  | case2 t ts _ ih => exact ih hts.tail
  | case3 => exact .ok _
  | case4 t ts _ _ e hhead => exact (failsOn_indexHead hlast hts.tail).of_eq hhead
  | case5 t ts _ _ columns rest hhead e hsettings =>
    exact (failsOn_indexSettings (hts.tail.of_suffix (indexHead_suffix hhead))).of_eq hsettings
  | case6 t ts _ _ columns rest hhead settings rest' hsettings ih =>
    have hrest := (indexSettings_suffix hsettings).trans (indexHead_suffix hhead)
    exact (ih (hts.tail.of_suffix hrest)).bind fun _ _ => .ok _

theorem failsOn_noteBlock (hlast : P last) (hts : OnLines P ts) :
    FailsOn P (noteBlock last ts) := by
  have hend := (hts.of_suffix (dropNewlines_suffix ts)).of_suffix
    (noteText_suffix (dropNewlines ts))
  replace hend := hend.of_suffix (dropNewlines_suffix _)
  simp only [noteBlock]
  split
  · next t rest heq =>
    rw [heq] at hend
    exact .ite (fun _ => .ok _) fun _ => failsOn_unexpected hlast hend _
  · exact .error hlast _

/-! ### Tables -/

theorem failsOn_readItem (hlast : P last) (hopened : P opened) (hts : OnLines P (t :: ts)) :
    FailsOn P (readItem last opened t ts) := by
  have htail := hts.tail.of_suffix (List.tail_suffix ts)
  rw [readItem_eq]
  refine .ite (fun _ => .ok _) fun _ =>
    .ite (fun _ => (failsOn_noteBlock hlast htail).bind fun _ _ => .ok _) fun _ =>
    .ite (fun _ => (failsOn_readIndexes hlast hopened htail).bind fun _ _ => .ok _) fun _ =>
    .ite (fun _ => failsOn_unexpected hlast hts _) fun _ => ?_
  split
  · exact (failsOn_readColumn hlast hts.head _ hts.tail).bind fun _ _ => .ok _
  · exact failsOn_unexpected hlast hts _

theorem failsOn_readItems (hlast : P last) (hopened : P opened) (hts : OnLines P ts) :
    FailsOn P (readItems last opened ts) := by
  fun_induction readItems last opened ts with
  | case1 => exact .error hopened _
  | case2 t ts _ ih => exact ih hts.tail
  | case3 => exact .ok _
  | case4 t ts _ _ e hitem => exact (failsOn_readItem hlast hopened hts).of_eq hitem
  | case5 t ts _ _ item rest hitem ih =>
    exact (ih (hts.tail.of_suffix (readItem_suffix hitem))).bind fun _ _ => .ok _

theorem failsOn_skipTableSettings (hts : OnLines P ts) : FailsOn P (skipTableSettings ts) := by
  unfold skipTableSettings
  split
  · exact .ok _
  · exact .ite (fun _ => failsOn_dropSettings hts.head _) fun _ => .ok _

theorem failsOn_expectBrace (hlast : P last) (expected : Expectation) (hts : OnLines P ts) :
    FailsOn P (expectBrace last expected ts) := by
  have hline := hts.of_suffix (dropNewlines_suffix ts)
  unfold expectBrace
  split
  · next t rest heq =>
    rw [heq] at hline
    exact .ite (fun _ => .ok _) fun _ => failsOn_unexpected hlast hline _
  · exact .error hlast _

theorem failsOn_readTable (hlast : P last) (hts : OnLines P ts) :
    FailsOn P (readTable last ts) := by
  have hopened := hts.lineOf hlast
  unfold readTable
  cases hname : qualifiedName ts with
  | none => exact .error hopened _
  | some p =>
    have hshort := (hts.of_suffix (qualifiedName_suffix hname)).of_suffix
      (readShortName_suffix p.2)
    refine (failsOn_skipTableSettings hshort).bind fun _ hsettings => ?_
    replace hsettings := hshort.of_suffix (skipTableSettings_suffix hsettings)
    refine (failsOn_expectBrace hlast _ hsettings).bind fun _ hbrace => ?_
    replace hbrace := hsettings.of_suffix (expectBrace_suffix hbrace)
    exact (failsOn_readItems hlast hopened hbrace).bind fun _ _ => .ok _

/-! ### Statements -/

theorem failsOn_enumValues (hopened : P opened) (hts : OnLines P ts) :
    FailsOn P (enumValues opened ts) := by
  fun_induction enumValues opened ts with
  | case1 => exact .error hopened _
  | case2 => exact .ok _
  | case3 t ts _ _ ih => exact ih hts.tail
  | case4 t ts _ _ _ e hdrop => exact (failsOn_dropSettings hts.head ts).of_eq hdrop
  | case5 t ts _ _ _ rest hdrop ih => exact ih (hts.tail.of_suffix (dropSettings_suffix hdrop))
  | case6 t ts _ _ _ ih => exact (ih hts.tail).bind fun _ _ => .ok _

theorem failsOn_readEnum (hlast : P last) (hts : OnLines P ts) : FailsOn P (readEnum last ts) := by
  have hopened := hts.lineOf hlast
  unfold readEnum
  cases hname : qualifiedName ts with
  | none => exact failsOn_unexpected hlast hts _
  | some p =>
    replace hname := hts.of_suffix (qualifiedName_suffix hname)
    refine (failsOn_expectBrace hlast _ hname).bind fun _ hbrace => ?_
    exact (failsOn_enumValues hopened (hname.of_suffix (expectBrace_suffix hbrace))).bind
      fun _ _ => .ok _

theorem failsOn_skipBraces (hline : P line) (depth : Nat) (ts : List PlacedToken) :
    FailsOn P (skipBraces line depth ts) := by
  induction ts generalizing depth with
  | nil => exact .error hline _
  | cons t ts ih =>
    rw [skipBraces]
    exact .ite (fun _ => ih _) fun _ => .ite (fun _ => .ite (fun _ => .ok _) fun _ => ih _)
      fun _ => ih _

theorem failsOn_skipStatement (hline : P line) (ts : List PlacedToken) :
    FailsOn P (skipStatement line ts) := by
  induction ts with
  | nil => exact .ok _
  | cons t ts ih =>
    rw [skipStatement]
    exact .ite (fun _ => .ok _) fun _ => .ite (fun _ => failsOn_skipBraces hline 1 ts) fun _ => ih

theorem failsOn_readStatement (hlast : P last) (hts : OnLines P (t :: ts)) :
    FailsOn P (readStatement last t ts) := by
  rw [readStatement_eq]
  exact .ite (fun _ => failsOn_readTable hlast hts.tail) fun _ =>
    .ite (fun _ => (failsOn_readRefs hlast hts.tail).bind fun _ _ => .ok _) fun _ =>
    .ite (fun _ => failsOn_readEnum hlast hts.tail) fun _ =>
      (failsOn_skipStatement hts.head (t :: ts)).bind fun _ _ => .ok _

theorem failsOn_readStatements (hlast : P last) (hts : OnLines P ts) :
    FailsOn P (readStatements last ts) := by
  fun_induction readStatements last ts with
  | case1 => exact .ok _
  | case2 t ts _ ih => exact ih hts.tail
  | case3 t ts _ e hstatement => exact (failsOn_readStatement hlast hts).of_eq hstatement
  | case4 t ts _ s rest hstatement ih =>
    exact (ih (hts.of_suffix (readStatement_suffix hstatement))).map

end Readers

/-! ### Cutting a text -/

/-- The lines from `line` on up to the end of a text whose rest `cs` starts there. -/
def InText (line : Nat) (cs : List Char) (n : Nat) : Prop :=
  line ≤ n ∧ n ≤ line + cs.count '\n'

section Cutting

variable {line line' n : Nat} {c : Char} {cs rest written : List Char}

theorem inText_self (line : Nat) (cs : List Char) : InText line cs line :=
  ⟨Nat.le_refl line, Nat.le_add_right line _⟩

/-- Passing some characters, the count of lines does not go back, and goes on by no more than their
line ends. -/
theorem InText.of_append (h : InText line' rest n) (hline : InText line written line') :
    InText line (written ++ rest) n := by
  obtain ⟨hlow, hhigh⟩ := h
  obtain ⟨hlow', hhigh'⟩ := hline
  refine ⟨Nat.le_trans hlow' hlow, ?_⟩
  rw [List.count_append]
  omega

theorem escapedLineEnds_le (cs : List Char) : escapedLineEnds cs ≤ cs.count '\n' := by
  fun_induction escapedLineEnds cs with
  | case1 c cs ih =>
    have hescape : '\\' ≠ '\n' := by decide
    rw [List.count_cons_of_ne hescape, List.count_cons]
    simp only [beq_iff_eq]
    omega
  | case2 c cs _ ih => exact Nat.le_trans ih List.count_le_count_cons
  | case3 => exact Nat.zero_le _

theorem hiddenLineEnds_le (cs : List Char) : hiddenLineEnds cs ≤ cs.count '\n' := by
  unfold hiddenLineEnds
  split
  · exact Nat.zero_le _
  · split
    · exact Nat.le_trans (escapedLineEnds_le _) List.count_le_count_cons
    · exact Nat.zero_le _
  · exact Nat.zero_le _

theorem inText_of_skipGap {g : Gap} (h : skipGap g line cs = .ok (line', rest)) :
    ∃ gap, cs = gap ++ rest ∧ InText line gap line' := by
  obtain ⟨gap, hcs, rfl⟩ := skipGap_lines h
  exact ⟨gap, hcs, Nat.le_add_right line _, Nat.le_refl _⟩

theorem inText_of_readToken {r : Reading} (h : readToken line c cs = .ok r) :
    ∃ written, cs = written ++ r.rest ∧ InText line (c :: written) r.line := by
  obtain ⟨written, hcs, hcount⟩ := readToken_lines h
  have hle := hiddenLineEnds_le (c :: written)
  exact ⟨written, hcs, by omega, by omega⟩

/-- A comment that is not closed is reported where it was opened. -/
theorem failsOn_skipGap {P : Nat → Prop} {g : Gap}
    (hopened : ∀ opened, g = .blockComment opened → P opened)
    (hP : ∀ n, InText line cs n → P n) : FailsOn P (skipGap g line cs) := by
  have hstep : ∀ {line line' n : Nat} {rest : List Char} (written : List Char),
      InText line written line' → InText line' rest n → InText line (written ++ rest) n :=
    fun _ hline h => h.of_append hline
  fun_induction skipGap g line cs with
  | case1 => exact .ok _
  | case2 line cs ih => exact ih (by simp) fun n h => hP n (hstep ['/', '/'] (inText_self _ _) h)
  | case3 line cs ih =>
    refine ih ?_ fun n h => hP n (hstep ['/', '*'] (inText_self _ _) h)
    rintro _ ⟨⟩
    exact hP line (inText_self _ _)
  | case4 line c cs _ _ _ ih => exact ih (by simp) fun n h => hP n (hstep [c] (inText_self _ _) h)
  | case5 => exact .ok _
  | case6 => exact .ok _
  | case7 => exact .ok _
  | case8 line c cs _ ih => exact ih (by simp) fun n h => hP n (hstep [c] (inText_self _ _) h)
  | case9 opened line => exact .error (hopened opened rfl) _
  | case10 opened line cs ih =>
    exact ih (by simp) fun n h => hP n (hstep ['*', '/'] (inText_self _ _) h)
  | case11 opened line c cs _ ih =>
    refine ih hopened fun n h => hP n (hstep [c] ?_ h)
    by_cases hc : c = '\n'
    · rw [if_pos hc, hc]
      exact ⟨Nat.le_succ line, Nat.le_refl _⟩
    · rw [if_neg hc]
      exact inText_self _ _

theorem failsOn_ofLiteral {P : Nat → Prop} (hline : P line) (make : String → Token)
    (o : Option Literal) : FailsOn P (ofLiteral line make o) := by
  cases o with
  | none => exact .error hline _
  | some l => exact .ok _

/-- A literal that is not closed is reported where it was opened. -/
theorem failsOn_readToken {P : Nat → Prop} (hline : P line) (c : Char) (cs : List Char) :
    FailsOn P (readToken line c cs) := by
  unfold readToken
  refine .ite (fun _ => .ok _) fun _ => .ite (fun _ => .ok _) fun _ => ?_
  split
  · exact .ok _
  · exact .ite (fun _ => failsOn_ofLiteral hline _ _) fun _ =>
      .ite (fun _ => failsOn_ofLiteral hline _ _) fun _ =>
      .ite (fun _ => failsOn_ofLiteral hline _ _) fun _ =>
      .ite (fun _ => .ok _) fun _ => .ite (fun _ => .ok _) fun _ => .ok _

/-- The tokens of a text bear lines of the text, in rising order. -/
theorem scanFrom_inText {s : TokenStream} (h : scanFrom line cs = .ok s) :
    OnLines (InText line cs) s.toList ∧ s.toList.Pairwise (·.line ≤ ·.line) := by
  fun_induction scanFrom line cs generalizing s with
  | case1 => cases h
  | case2 line cs line' hgap =>
    cases h
    obtain ⟨gap, rfl, hline⟩ := inText_of_skipGap hgap
    rw [List.append_nil]
    exact ⟨List.forall_mem_singleton.2 hline, List.pairwise_singleton _ _⟩
  | case3 => cases h
  | case4 line cs line' c rest hgap r htoken ih =>
    obtain ⟨s', hs', hpush⟩ := exists_ok_of_bind h
    cases hpush
    obtain ⟨hlines, hrising⟩ := ih hs'
    obtain ⟨gap, rfl, hline⟩ := inText_of_skipGap hgap
    obtain ⟨written, rfl, hline'⟩ := inText_of_readToken htoken
    rw [TokenStream.toList_push]
    constructor
    · refine List.forall_mem_cons.2 ⟨(inText_self line' _).of_append hline, fun t ht => ?_⟩
      exact ((hlines t ht).of_append hline').of_append hline
    · exact List.pairwise_cons.2 ⟨fun t ht => Nat.le_trans hline'.1 (hlines t ht).1, hrising⟩

theorem failsOn_scanFrom (line : Nat) (cs : List Char) :
    FailsOn (InText line cs) (scanFrom line cs) := by
  fun_induction scanFrom line cs with
  | case1 line cs e hgap =>
    have hfails : FailsOn (InText line cs) (skipGap .plain line cs) :=
      failsOn_skipGap (by simp) fun _ h => h
    exact hfails.of_eq hgap
  | case2 => exact .ok _
  | case3 line cs line' c rest hgap e htoken =>
    obtain ⟨gap, rfl, hline⟩ := inText_of_skipGap hgap
    exact (failsOn_readToken ((inText_self line' _).of_append hline) c rest).of_eq htoken
  | case4 line cs line' c rest hgap r htoken ih =>
    obtain ⟨gap, rfl, hline⟩ := inText_of_skipGap hgap
    obtain ⟨written, rfl, hline'⟩ := inText_of_readToken htoken
    intro e he
    exact ((ih.map e he).of_append hline').of_append hline

end Cutting

/-! ### Whole texts -/

theorem failsOn_parse (text : String) : FailsOn (InText 1 text.toList) (parse text) := by
  refine (failsOn_scanFrom 1 text.toList).bind fun s hs => ?_
  have hlines := (scanFrom_inText hs).1
  have hlast := hlines _ (List.mem_append_right s.tokens List.mem_cons_self)
  have htokens : OnLines (InText 1 text.toList) s.tokens :=
    fun t ht => hlines t (List.mem_append_left _ ht)
  exact (failsOn_readStatements hlast htokens).bind fun _ _ => .ok _

/-- The end of a text is the last of its tokens, and only the last.  The tokens bear lines of the
text, in rising order, and so does the error of a text that is not read: none of these lines is
before the first one or behind the last one. -/
theorem lines_in_text (text : String) :
    (∀ tokens, tokenize text = .ok tokens →
      (∃ before last, tokens = before ++ [⟨.eof, last⟩] ∧ ∀ t ∈ before, t.token ≠ .eof) ∧
      tokens.Pairwise (·.line ≤ ·.line) ∧
      ∀ t ∈ tokens, 1 ≤ t.line ∧ t.line ≤ 1 + text.toList.count '\n') ∧
    ∀ e, parse text = .error e → 1 ≤ e.line ∧ e.line ≤ 1 + text.toList.count '\n' := by
  refine ⟨fun tokens h => ?_, failsOn_parse text⟩
  obtain ⟨s, hs, hlist⟩ := exists_ok_of_bind h
  cases hlist
  obtain ⟨hlines, hrising⟩ := scanFrom_inText hs
  refine ⟨⟨s.tokens, s.endLine, rfl, fun t ht heof => ?_⟩, hrising, hlines⟩
  have hlexeme := isLexeme_of_mem_scan hs t ht
  rw [heof] at hlexeme
  cases hlexeme

/-- The literal hides a line end: the end of the text bears an earlier line than the last. -/
theorem lines_in_text_hidden :
    tokenize "Table t \x7b\n  id 'a\\\nb'\n" = .ok
      [⟨.ident "Table", 1⟩, ⟨.ident "t", 1⟩, ⟨.mark .openBrace, 1⟩, ⟨.newline, 1⟩,
        ⟨.ident "id", 2⟩, ⟨.str "a\nb", 2⟩, ⟨.newline, 2⟩, ⟨.eof, 3⟩] ∧
    parse "Table t \x7b\n  id 'a\\\nb'\n" = .error ⟨2, .missingColumnType "id"⟩ ∧
    (∀ t ∈ ([⟨.ident "Table", 1⟩, ⟨.ident "t", 1⟩, ⟨.mark .openBrace, 1⟩, ⟨.newline, 1⟩,
        ⟨.ident "id", 2⟩, ⟨.str "a\nb", 2⟩, ⟨.newline, 2⟩, ⟨.eof, 3⟩] : List PlacedToken),
      1 ≤ t.line ∧ t.line ≤ 1 + "Table t \x7b\n  id 'a\\\nb'\n".toList.count '\n') ∧
    1 ≤ 2 ∧ 2 ≤ 1 + "Table t \x7b\n  id 'a\\\nb'\n".toList.count '\n' := by
  have htokens : tokenize "Table t \x7b\n  id 'a\\\nb'\n" = .ok
      [⟨.ident "Table", 1⟩, ⟨.ident "t", 1⟩, ⟨.mark .openBrace, 1⟩, ⟨.newline, 1⟩,
        ⟨.ident "id", 2⟩, ⟨.str "a\nb", 2⟩, ⟨.newline, 2⟩, ⟨.eof, 3⟩] :=
    eq_ok_of_toOption (by decide +kernel)
  have hparse : parse "Table t \x7b\n  id 'a\\\nb'\n"
      = .error ⟨2, .missingColumnType "id"⟩ := by
    decide +kernel
  obtain ⟨hlines, herror⟩ := lines_in_text "Table t \x7b\n  id 'a\\\nb'\n"
  exact ⟨htokens, hparse, (hlines _ htokens).2.2, herror _ hparse⟩

end Mockup.Schema
