import Mockup.Proofs.Schema.Equations
import Mockup.Proofs.Schema.Lexer

/-!
# Reading tokens that stand in a longer text

The tokens of a text may stand in a longer one: some lines further down, and before a new line with
more.  Whatever is read from them is then read in the same way, and so is every error if nothing
follows.  There is one lemma for each reader of names, settings, references and columns.

* `Placement`: the tokens of a text in a longer one, with `Placement.place`;
* `Placement.Carries`: the answer of a reader there.
-/

namespace Mockup.Schema

section Carried

variable {α β γ δ : Type} {k : Nat} {alone : Prop} {f : α → β} {g : γ → δ} {r : Except ReadError α}
  {r' : Except ReadError β}

/-- A step with another one after it. -/
theorem Carried.bind (h : Carried k alone f r r') {y : α → Except ReadError γ}
    {y' : β → Except ReadError δ} (hy : ∀ a, Carried k alone g (y a) (y' (f a))) :
    Carried k alone g (r >>= y) (r' >>= y') := by
  cases r with
  | ok a =>
    obtain rfl : r' = .ok (f a) := h
    exact hy a
  | error e =>
    intro halone
    obtain rfl : r' = .error (e.moved k) := h halone
    rfl

theorem Carried.error {line line' : Nat} (h : alone → line' = line + k) (fault : ParseFault) :
    Carried k alone f (.error ⟨line, fault⟩) (.error ⟨line', fault⟩) := by
  intro halone
  rw [h halone]
  rfl

/-- A choice that does not look at lines or at what follows. -/
theorem Carried.ite {c : Prop} [Decidable c] {x : Except ReadError α} {x' : Except ReadError β}
    (hpos : c → Carried k alone f r r') (hneg : ¬ c → Carried k alone f x x') :
    Carried k alone f (if c then r else x) (if c then r' else x') := by
  split
  · next hc => exact hpos hc
  · next hc => exact hneg hc

end Carried

/-- The place of the tokens of a text in a longer one. -/
structure Placement where
  shift : Nat
  tail : List PlacedToken
  newline_tail : ∀ t ∈ tail.head?, t.token = .newline

namespace Placement

variable (p : Placement)

/-- The tokens in the longer text, with what follows. -/
def place (ts : List PlacedToken) : List PlacedToken :=
  ts.map (·.moved p.shift) ++ p.tail

/-- An answer in the longer text: only the remaining tokens change. -/
def answer {α : Type} (a : α × List PlacedToken) : α × List PlacedToken :=
  (a.1, p.place a.2)

/-- The answer of a reader in the longer text. -/
def Carries {α β : Type} (f : α → β) (r : Except ReadError α) (r' : Except ReadError β) : Prop :=
  Carried p.shift (p.tail = []) f r r'

/-- The second line is the first one, counted in the longer text.  Only errors look at lines. -/
def SameLine (line line' : Nat) : Prop :=
  p.tail = [] → line' = line + p.shift

@[simp] theorem place_nil : p.place [] = p.tail := rfl

@[simp] theorem place_cons (t : PlacedToken) (ts : List PlacedToken) :
    p.place (t :: ts) = t.moved p.shift :: p.place ts := rfl

theorem tail_cases : p.tail = [] ∨ ∃ t ts, p.tail = t :: ts ∧ t.token = .newline := by
  rcases h : p.tail with _ | ⟨t, ts⟩
  · exact .inl rfl
  · exact .inr ⟨t, ts, rfl, p.newline_tail t (by rw [h]; rfl)⟩

theorem sameLine_moved (t : PlacedToken) : p.SameLine t.line (t.moved p.shift).line :=
  fun _ => rfl

/-- A reader that fails at the end of the text. -/
theorem carries_error_of_end {α β : Type} {f : α → β} {line line' : Nat}
    (h : p.SameLine line line') {fault : ParseFault} {r' : Except ReadError β}
    (hend : p.tail = [] → r' = .error ⟨line', fault⟩) :
    p.Carries f (.error ⟨line, fault⟩) r' := by
  intro halone
  rw [hend halone, h halone]
  rfl

/-! ### The token at the head -/

theorem peek_place_eq_mark (ts : List PlacedToken) (m : Mark) :
    peek (p.place ts) = .mark m ↔ peek ts = .mark m := by
  rcases ts with _ | ⟨t, ts⟩
  · rcases p.tail_cases with h | ⟨t, ts, h, ht⟩ <;> simp_all [peek]
  · rfl

theorem isKeyword_peek_place (ts : List PlacedToken) (word : String) :
    (peek (p.place ts)).isKeyword word = (peek ts).isKeyword word := by
  rcases ts with _ | ⟨t, ts⟩
  · rcases p.tail_cases with h | ⟨t, ts, h, ht⟩ <;> simp_all [peek, Token.isKeyword]
  · rfl

theorem opensRef_peek_place (ts : List PlacedToken) :
    opensRef (peek (p.place ts)) = opensRef (peek ts) := by
  rcases ts with _ | ⟨t, ts⟩
  · rcases p.tail_cases with h | ⟨t, ts, h, ht⟩ <;> simp_all [peek, opensRef]
  · rfl

theorem sameLine_lineOf {last last' : Nat} (h : p.SameLine last last') (ts : List PlacedToken) :
    p.SameLine (lineOf last ts) (lineOf last' (p.place ts)) := by
  intro halone
  rcases ts with _ | ⟨t, ts⟩
  · rw [place_nil, halone]
    exact h halone
  · rfl

theorem unexpected_place {α β : Type} {f : α → β} {last last' : Nat} (h : p.SameLine last last')
    (expected : Expectation) (ts : List PlacedToken) :
    p.Carries f (unexpected last expected ts) (unexpected last' expected (p.place ts)) := by
  intro halone
  have hpeek : peek (p.place ts) = peek ts := by
    rcases ts with _ | ⟨t, ts⟩
    · rw [place_nil, halone]
    · rfl
  rw [unexpected, hpeek, p.sameLine_lineOf h ts halone]
  rfl

theorem dropNewlines_place_of_cons {ts rest : List PlacedToken} {t : PlacedToken}
    (h : dropNewlines ts = t :: rest) : dropNewlines (p.place ts) = p.place (t :: rest) := by
  induction ts with
  | nil => cases h
  | cons u ts ih =>
    rw [dropNewlines, List.dropWhile_cons] at h
    rw [place_cons, dropNewlines, List.dropWhile_cons, PlacedToken.moved_token]
    split at h
    · next hu => rw [if_pos hu]; exact ih h
    · next hu =>
      rw [if_neg hu]
      obtain ⟨rfl, rfl⟩ := List.cons.inj h
      rfl

theorem dropNewlines_place_of_tail (halone : p.tail = []) (ts : List PlacedToken) :
    dropNewlines (p.place ts) = p.place (dropNewlines ts) := by
  rw [place, place, halone, List.append_nil, List.append_nil, dropNewlines, List.dropWhile_map]
  rfl

/-! ### Names and settings -/

theorem lastSegment_place (name : String) (ts : List PlacedToken) :
    lastSegment name (p.place ts) = p.answer (lastSegment name ts) := by
  fun_induction lastSegment name ts with
  | case1 name d t ts hd next hnext ih =>
    rw [place_cons, place_cons, lastSegment]
    simp only [PlacedToken.moved_token, hd, hnext, if_true]
    exact ih
  | case2 name d t ts hd hnext =>
    rw [place_cons, place_cons, lastSegment]
    simp only [PlacedToken.moved_token, hd, hnext, if_true]
    rfl
  | case3 name d t ts hd =>
    rw [place_cons, place_cons, lastSegment]
    simp only [PlacedToken.moved_token, hd, if_false]
    rfl
  | case4 name ts hshort =>
    -- At most one token is left, and no name follows it.
    rcases ts with _ | ⟨d, _ | ⟨t, ts⟩⟩
    · rcases p.tail_cases with h | ⟨t, _ | ⟨u, rest⟩, h, ht⟩
      · simp [answer, h, lastSegment]
      · simp [answer, h, lastSegment]
      · simp [answer, h, lastSegment, ht]
    · rcases p.tail_cases with h | ⟨t, rest, h, ht⟩
      · simp [answer, h, lastSegment]
      · simp [answer, h, lastSegment, ht, Token.name?]
    · exact absurd rfl (hshort d t ts)

theorem qualifiedName_place (ts : List PlacedToken) :
    qualifiedName (p.place ts) = (qualifiedName ts).map p.answer := by
  rcases ts with _ | ⟨t, ts⟩
  · rcases p.tail_cases with h | ⟨t, rest, h, ht⟩
    · simp [h, qualifiedName]
    · simp [h, qualifiedName, ht, Token.name?]
  · simp only [place_cons, qualifiedName, PlacedToken.moved_token, lastSegment_place,
      Option.map_map]
    rfl

variable {p}

theorem dropSettings_place {opened opened' : Nat} (h : p.SameLine opened opened')
    (ts : List PlacedToken) :
    p.Carries p.place (dropSettings opened ts) (dropSettings opened' (p.place ts)) := by
  induction ts with
  | nil => exact p.carries_error_of_end h fun halone => by rw [place_nil, halone]; rfl
  | cons t ts ih =>
    simp only [place_cons, dropSettings, PlacedToken.moved_token]
    exact .ite (fun _ => rfl) fun _ => ih

theorem settingGroups_place {opened opened' : Nat} (h : p.SameLine opened opened') (depth : Nat)
    (group : List Token) (ts : List PlacedToken) :
    p.Carries p.answer (settingGroups opened depth group ts)
      (settingGroups opened' depth group (p.place ts)) := by
  induction ts generalizing depth group with
  | nil => exact p.carries_error_of_end h fun halone => by rw [place_nil, halone]; rfl
  | cons t ts ih =>
    simp only [place_cons, settingGroups, PlacedToken.moved_token]
    refine .ite (fun _ => rfl) fun _ => .ite (fun _ => ?_) fun _ => .ite (fun _ => ?_) fun _ => ?_
    · exact (ih 0 []).bind fun _ => rfl
    · exact ih depth group
    · exact ih _ _

/-! ### References -/

theorem endpoint_place {line line' : Nat} (h : p.SameLine line line') (ts : List Token) :
    p.Carries id (endpoint line ts) (endpoint line' ts) := by
  unfold endpoint
  split
  · rfl
  · exact .error h _

theorem inlineRef_place {line line' : Nat} (h : p.SameLine line line') (ts : List Token) :
    p.Carries id (inlineRef line ts) (inlineRef line' ts) := by
  unfold inlineRef
  split
  · exact .error h _
  · split
    · exact (endpoint_place h _).bind fun _ => rfl
    · exact .error h _

theorem reference_place {line line' : Nat} (h : p.SameLine line line') (ts : List Token) :
    p.Carries id (reference line ts) (reference line' ts) := by
  unfold reference
  dsimp only
  split
  · exact .error h _
  · exact (endpoint_place h _).bind fun _ => (endpoint_place h _).bind fun _ => rfl

theorem refTokens_place (ts : List PlacedToken) :
    p.Carries p.answer (refTokens ts) (refTokens (p.place ts)) := by
  fun_induction refTokens ts with
  | case1 =>
    rcases p.tail_cases with h | ⟨t, rest, h, ht⟩
    · rw [place_nil, h]
      simp [Carries, Carried, answer, h, refTokens]
    · rw [place_nil, h, refTokens_cons, if_pos (by rw [ht]; rfl)]
      simp [Carries, Carried, answer, h]
  | case2 t ts hend =>
    rw [place_cons, refTokens_cons, PlacedToken.moved_token, if_pos hend]
    rfl
  | case3 t ts hend hopen e hs =>
    rw [place_cons, refTokens_cons, PlacedToken.moved_token, if_neg hend, if_pos hopen]
    intro halone
    rw [(dropSettings_place (p.sameLine_moved t) ts).eq_error hs halone]
    rfl
  | case4 t ts hend hopen rest hs ih =>
    rw [place_cons, refTokens_cons, PlacedToken.moved_token, if_neg hend, if_pos hopen,
      (dropSettings_place (p.sameLine_moved t) ts).eq_ok hs]
    exact ih
  | case5 t ts hend hopen ih =>
    rw [place_cons, refTokens_cons, PlacedToken.moved_token, if_neg hend, if_neg hopen]
    exact ih.bind fun _ => rfl

variable {last last' : Nat} (hlast : p.SameLine last last')
include hlast

theorem refLine_place (ts : List PlacedToken) :
    p.Carries p.answer (refLine last ts) (refLine last' (p.place ts)) := by
  rw [refLine_eq, refLine_eq]
  exact (refTokens_place ts).bind fun _ =>
    (reference_place (p.sameLine_lineOf hlast ts) _).bind fun _ => rfl

theorem refBlock_place {opened opened' : Nat} (hopened : p.SameLine opened opened')
    (ts : List PlacedToken) :
    p.Carries p.answer (refBlock last opened ts) (refBlock last' opened' (p.place ts)) := by
  fun_induction refBlock last opened ts with
  | case1 =>
    refine p.carries_error_of_end hopened fun halone => ?_
    rw [place_nil, halone, refBlock]
  | case2 t ts hline ih =>
    rw [place_cons, refBlock_cons, PlacedToken.moved_token, if_pos hline]
    exact ih
  | case3 t ts hline hclose =>
    rw [place_cons, refBlock_cons, PlacedToken.moved_token, if_neg hline, if_pos hclose]
    rfl
  | case4 t ts hline hclose e hl =>
    rw [place_cons, refBlock_cons, PlacedToken.moved_token, if_neg hline, if_neg hclose]
    intro halone
    rw [← place_cons, (refLine_place hlast (t :: ts)).eq_error hl halone]
    rfl
  | case5 t ts hline hclose r rest hl ih =>
    rw [place_cons, refBlock_cons, PlacedToken.moved_token, if_neg hline, if_neg hclose,
      ← place_cons, (refLine_place hlast (t :: ts)).eq_ok hl]
    exact ih.bind fun _ => rfl

omit hlast in
theorem skipName_place (ts : List PlacedToken) : skipName (p.place ts) = p.place (skipName ts) := by
  rcases ts with _ | ⟨t, ts⟩
  · rcases p.tail_cases with h | ⟨t, rest, h, ht⟩
    · simp [h, skipName]
    · simp [h, skipName, ht, Token.name?]
  · by_cases hname : t.token.name?.isSome = true
    · simp [skipName, hname]
    · simp [skipName, hname]

theorem readRefs_place (ts : List PlacedToken) :
    p.Carries p.answer (readRefs last ts) (readRefs last' (p.place ts)) := by
  unfold readRefs
  rw [skipName_place]
  rcases skipName ts with _ | ⟨t, rest⟩
  · refine p.carries_error_of_end (p.sameLine_lineOf hlast []) fun halone => ?_
    rw [place_nil, halone]
    rfl
  · simp only [place_cons, PlacedToken.moved_token]
    exact .ite (fun _ => (refLine_place hlast _).bind fun _ => rfl) fun _ =>
      .ite (fun _ => refBlock_place hlast (p.sameLine_moved t) _) fun _ =>
        unexpected_place p hlast _ (t :: rest)

omit hlast

/-! ### Columns -/

theorem typeArguments_place {line line' : Nat} (h : p.SameLine line line')
    (ts : List PlacedToken) :
    p.Carries p.answer (typeArguments line ts) (typeArguments line' (p.place ts)) := by
  induction ts with
  | nil => exact p.carries_error_of_end h fun halone => by rw [place_nil, halone]; rfl
  | cons t ts ih =>
    simp only [place_cons, typeArguments, PlacedToken.moved_token]
    exact .ite (fun _ => rfl) fun _ => .ite (fun _ => .error h _) fun _ => .ite (fun _ => ih)
      fun _ => ih.bind fun _ => rfl

theorem readType_place {line line' : Nat} (h : p.SameLine line line') (column : String)
    (ts : List PlacedToken) :
    p.Carries p.answer (readType line column ts) (readType line' column (p.place ts)) := by
  unfold readType
  rw [qualifiedName_place]
  rcases qualifiedName ts with _ | ⟨name, _ | ⟨t, rest⟩⟩
  · exact .error h _
  · rcases p.tail_cases with htail | ⟨t, rest, htail, ht⟩
    · simp [Carries, Carried, answer, htail]
    · simp [Carries, Carried, answer, htail, ht]
  · simp only [Option.map_some, answer, place_cons, PlacedToken.moved_token]
    exact .ite (fun _ => (typeArguments_place h rest).bind fun _ => rfl) fun _ => rfl

variable (p) in
theorem bareConstraint_place (c : Column) (word : String) (ts : List PlacedToken) :
    bareConstraint c word (p.place ts)
      = ((bareConstraint c word ts).1, p.place (bareConstraint c word ts).2) := by
  -- The second word of a constraint stands in the text itself.
  have htail : ∀ word, (peek ts).isKeyword word = true → (p.place ts).tail = p.place ts.tail := by
    intro word h
    rcases ts with _ | ⟨t, ts⟩
    · cases h
    · rfl
  simp only [bareConstraint, isKeyword_peek_place]
  split
  · next h => rw [htail _ h.2]
  · split
    · next h => rw [htail _ h.2]
    · rfl

theorem readSetting_place {line line' : Nat} (h : p.SameLine line line') (group : List Token) :
    p.Carries id (readSetting line group) (readSetting line' group) := by
  unfold readSetting
  cases settingValue? group with
  | none => rfl
  | some value =>
    refine .ite (fun _ => rfl) fun _ => .ite (fun _ => rfl) fun _ => .ite (fun _ => ?_) fun _ => rfl
    have href := inlineRef_place h value
    split
    · next e hr => exact fun halone => by rw [href.eq_error hr halone]
    · next kind target hr => rw [href.eq_ok hr]; rfl

theorem applySettings_place {line line' : Nat} (h : p.SameLine line line') (d : ColumnDraft)
    (groups : List (List Token)) :
    p.Carries id (applySettings line d groups) (applySettings line' d groups) := by
  induction groups generalizing d with
  | nil => rfl
  | cons group groups ih =>
    simp only [applySettings]
    have hsetting := readSetting_place h group
    split
    · next e hs => exact fun halone => by rw [hsetting.eq_error hs halone]
    · next setting hs => rw [hsetting.eq_ok hs]; exact ih _

variable {last last' : Nat} (hlast : p.SameLine last last')
include hlast

theorem columnTail_place {line line' : Nat} (h : p.SameLine line line') (d : ColumnDraft)
    (ts : List PlacedToken) :
    p.Carries p.answer (columnTail last line d ts) (columnTail last' line' d (p.place ts)) := by
  fun_induction columnTail last line d ts with
  | case1 d =>
    rcases p.tail_cases with htail | ⟨t, rest, htail, ht⟩
    · rw [place_nil, htail, columnTail]
      simp [Carries, Carried, answer, htail]
    · rw [place_nil, htail, columnTail_of_end (by rw [ht]; rfl)]
      simp [Carries, Carried, answer, htail]
  | case2 d t ts hend =>
    rw [place_cons, columnTail_of_end (by rwa [PlacedToken.moved_token])]
    rfl
  | case3 d t ts hend hopen e hg =>
    rw [place_cons, columnTail_of_open (by rwa [PlacedToken.moved_token])]
    intro halone
    rw [(settingGroups_place (p.sameLine_moved t) 0 [] ts).eq_error hg halone]
    rfl
  | case4 d t ts hend hopen groups rest hg e hs =>
    rw [place_cons, columnTail_of_open (by rwa [PlacedToken.moved_token]),
      (settingGroups_place (p.sameLine_moved t) 0 [] ts).eq_ok hg]
    intro halone
    change applySettings line' d groups >>= _ = _
    rw [(applySettings_place h d groups).eq_error hs halone]
    rfl
  | case5 d t ts hend hopen groups rest hg d' hs ih =>
    rw [place_cons, columnTail_of_open (by rwa [PlacedToken.moved_token]),
      (settingGroups_place (p.sameLine_moved t) 0 [] ts).eq_ok hg]
    change p.Carries _ _ (applySettings line' d groups >>= _)
    rw [(applySettings_place h d groups).eq_ok hs]
    exact ih
  | case6 d t ts hend word hword next ih =>
    rw [place_cons, columnTail_of_word (by rwa [PlacedToken.moved_token]), bareConstraint_place]
    exact ih
  | case7 d t ts hend hopen hword =>
    rw [place_cons, columnTail_of_other (by rwa [PlacedToken.moved_token])
      (by rwa [PlacedToken.moved_token]) (by rwa [PlacedToken.moved_token])]
    exact unexpected_place p hlast _ (t :: ts)

theorem readColumn_place {line line' : Nat} (h : p.SameLine line line') (name : String)
    (ts : List PlacedToken) :
    p.Carries p.answer (readColumn last line name ts)
      (readColumn last' line' name (p.place ts)) := by
  rw [readColumn_eq, readColumn_eq]
  exact (readType_place h name ts).bind fun _ => columnTail_place hlast h _ _

end Placement

end Mockup.Schema
