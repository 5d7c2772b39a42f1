import Mockup.Proofs.Schema.Readers

/-!
# Reading statements that stand in a longer text

The readers of tables, enumerations and other statements, in the way of the readers of columns.

* `Placement.readTable_place`, `Placement.readEnum_place`, `Placement.skipStatement_place`: the
  statements;
* `Placement.readStatements_place_ok`: the statements of a text come before what follows;
* `Placement.readStatements_place_error`: an error is found in the longer text as well.
-/

namespace Mockup.Schema

namespace Placement

variable {p : Placement}

/-! ### Readers that need not know where the text ends -/

theorem indexSettings_place (ts : List PlacedToken) :
    p.Carries p.answer (indexSettings ts) (indexSettings (p.place ts)) := by
  rcases ts with _ | ⟨t, ts⟩
  · rcases p.tail_cases with h | ⟨t, rest, h, ht⟩ <;>
      simp_all [Carries, Carried, answer, indexSettings]
  · have hgroups := settingGroups_place (p.sameLine_moved t) 0 [] ts
    simp only [place_cons, indexSettings, PlacedToken.moved_token]
    refine .ite (fun _ => ?_) fun _ => rfl
    split
    · next e hg => exact fun halone => by rw [hgroups.eq_error hg halone]
    · next groups rest hg => rw [hgroups.eq_ok hg]; rfl

variable (p) in
theorem noteText_place (ts : List PlacedToken) :
    noteText (p.place ts) = p.answer (noteText ts) := by
  rcases ts with _ | ⟨t, ts⟩
  · rcases p.tail_cases with h | ⟨t, rest, h, ht⟩ <;> simp_all [noteText, answer]
  · simp only [place_cons, noteText, PlacedToken.moved_token]
    split <;> rfl

variable (p) in
theorem startsRef_place (ts : List PlacedToken) : startsRef (p.place ts) = startsRef ts := by
  rcases ts with _ | ⟨t, ts⟩
  · rcases p.tail_cases with h | ⟨t, rest, h, ht⟩ <;>
      simp_all [startsRef, opensRef, Token.name?]
  · simp only [place_cons, startsRef, PlacedToken.moved_token, opensRef_peek_place]

variable (p) in
theorem tail_place {ts : List PlacedToken} {m : Mark} (h : peek ts = .mark m) :
    (p.place ts).tail = p.place ts.tail := by
  rcases ts with _ | ⟨t, ts⟩
  · cases h
  · rfl

variable (p) in
theorem readShortName_place (ts : List PlacedToken) :
    readShortName (p.place ts) = p.answer (readShortName ts) := by
  rcases ts with _ | ⟨t, ts⟩
  · rcases p.tail_cases with h | ⟨t, rest, h, ht⟩ <;>
      simp_all [readShortName, answer, Token.isKeyword]
  · simp only [place_cons, readShortName, PlacedToken.moved_token, qualifiedName_place]
    split
    · rcases qualifiedName ts with _ | ⟨name, rest⟩ <;> rfl
    · rfl

theorem skipTableSettings_place (ts : List PlacedToken) :
    p.Carries p.place (skipTableSettings ts) (skipTableSettings (p.place ts)) := by
  rcases ts with _ | ⟨t, ts⟩
  · rcases p.tail_cases with h | ⟨t, rest, h, ht⟩ <;>
      simp_all [Carries, Carried, skipTableSettings]
  · simp only [place_cons, skipTableSettings, PlacedToken.moved_token]
    exact .ite (fun _ => dropSettings_place (p.sameLine_moved t) ts) fun _ => rfl

theorem skipBraces_place {line line' : Nat} (h : p.SameLine line line') (depth : Nat)
    (ts : List PlacedToken) :
    p.Carries p.place (skipBraces line depth ts) (skipBraces line' depth (p.place ts)) := by
  induction ts generalizing depth with
  | nil => exact p.carries_error_of_end h fun halone => by rw [place_nil, halone]; rfl
  | cons t ts ih =>
    simp only [place_cons, skipBraces, PlacedToken.moved_token]
    exact .ite (fun _ => ih _) fun _ => .ite (fun _ => .ite (fun _ => rfl) fun _ => ih _)
      fun _ => ih _

theorem skipStatement_place {line line' : Nat} (h : p.SameLine line line')
    (ts : List PlacedToken) :
    p.Carries p.place (skipStatement line ts) (skipStatement line' (p.place ts)) := by
  induction ts with
  | nil =>
    rcases p.tail_cases with htail | ⟨t, rest, htail, ht⟩ <;>
      simp_all [Carries, Carried, skipStatement]
  | cons t ts ih =>
    simp only [place_cons, skipStatement, PlacedToken.moved_token]
    exact .ite (fun _ => rfl) fun _ => .ite (fun _ => skipBraces_place h 1 ts) fun _ => ih

/-! ### Indexes and items -/

variable {last last' : Nat} (hlast : p.SameLine last last')
include hlast

theorem indexColumns_place (ts : List PlacedToken) :
    p.Carries p.answer (indexColumns last ts) (indexColumns last' (p.place ts)) := by
  induction ts with
  | nil =>
    refine p.carries_error_of_end hlast fun halone => ?_
    rw [place_nil, halone]
    rfl
  | cons t ts ih =>
    simp only [place_cons, indexColumns, PlacedToken.moved_token]
    exact .ite (fun _ => rfl) fun _ => .ite (fun _ => unexpected_place p hlast _ ts) fun _ =>
      .ite (fun _ => ih) fun _ => ih.bind fun _ => rfl

theorem indexHead_place (t : PlacedToken) (ts : List PlacedToken) :
    p.Carries p.answer (indexHead last t ts) (indexHead last' (t.moved p.shift) (p.place ts)) :=
  .ite (fun _ => indexColumns_place hlast ts) fun _ => rfl

theorem readIndexes_place {opened opened' : Nat} (hopened : p.SameLine opened opened')
    (ts : List PlacedToken) :
    p.Carries p.answer (readIndexes last opened ts) (readIndexes last' opened' (p.place ts)) := by
  fun_induction readIndexes last opened ts with
  | case1 =>
    refine p.carries_error_of_end hopened fun halone => ?_
    rw [place_nil, halone, readIndexes]
  | case2 t ts hline ih =>
    rw [place_cons, readIndexes_cons, PlacedToken.moved_token, if_pos hline]
    exact ih
  | case3 t ts hline hclose =>
    rw [place_cons, readIndexes_cons, PlacedToken.moved_token, if_neg hline, if_pos hclose]
    rfl
  | case4 t ts hline hclose e hc =>
    rw [place_cons, readIndexes_cons, PlacedToken.moved_token, if_neg hline, if_neg hclose]
    intro halone
    rw [(indexHead_place hlast t ts).eq_error hc halone]
    rfl
  | case5 t ts hline hclose columns rest hc e hs =>
    rw [place_cons, readIndexes_cons, PlacedToken.moved_token, if_neg hline, if_neg hclose,
      (indexHead_place hlast t ts).eq_ok hc]
    intro halone
    change indexSettings (p.place rest) >>= _ = _
    rw [(indexSettings_place rest).eq_error hs halone]
    rfl
  | case6 t ts hline hclose columns rest hc settings rest' hs ih =>
    rw [place_cons, readIndexes_cons, PlacedToken.moved_token, if_neg hline, if_neg hclose,
      (indexHead_place hlast t ts).eq_ok hc]
    change p.Carries _ _ (indexSettings (p.place rest) >>= _)
    rw [(indexSettings_place rest).eq_ok hs]
    exact ih.bind fun _ => rfl

/-- A mark that has to stand after line ends. -/
theorem markAfterNewlines_place {α β : Type} {f : α → β} {m : Mark} {y : List PlacedToken → α}
    {z : List PlacedToken → β} (hy : ∀ rest, z (p.place rest) = f (y rest))
    (expected : Expectation) (ts : List PlacedToken) :
    p.Carries f
      (match dropNewlines ts with
      | t :: rest =>
        if t.token = .mark m then .ok (y rest) else unexpected last expected (t :: rest)
      | [] => unexpected last expected [])
      (match dropNewlines (p.place ts) with
      | t :: rest =>
        if t.token = .mark m then .ok (z rest) else unexpected last' expected (t :: rest)
      | [] => unexpected last' expected []) := by
  rcases h : dropNewlines ts with _ | ⟨t, rest⟩
  · intro halone
    have herror := unexpected_place p hlast (f := f) expected [] halone
    rw [place_nil, halone] at herror
    rwa [p.dropNewlines_place_of_tail halone, h, place_nil, halone]
  · rw [p.dropNewlines_place_of_cons h]
    exact .ite (fun _ => congrArg Except.ok (hy rest)) fun _ =>
      unexpected_place p hlast expected (t :: rest)

theorem noteBlock_place (ts : List PlacedToken) :
    p.Carries p.answer (noteBlock last ts) (noteBlock last' (p.place ts)) := by
  have hclose (note : Option String) (rest : List PlacedToken) :=
    markAfterNewlines_place hlast (f := p.answer) (m := .closeBrace) (y := (note, ·))
      (z := (note, ·)) (fun _ => rfl) .noteBrace rest
  simp only [noteBlock]
  rcases h : dropNewlines ts with _ | ⟨t, rest⟩
  · intro halone
    have herror := hclose none [] halone
    rw [place_nil, halone] at herror
    rw [p.dropNewlines_place_of_tail halone, h, place_nil, halone]
    exact herror
  · rw [p.dropNewlines_place_of_cons h, noteText_place]
    exact hclose _ _

theorem readItem_place {opened opened' : Nat} (hopened : p.SameLine opened opened')
    (t : PlacedToken) (ts : List PlacedToken) :
    p.Carries p.answer (readItem last opened t ts)
      (readItem last' opened' (t.moved p.shift) (p.place ts)) := by
  simp only [readItem_eq, PlacedToken.moved_token, peek_place_eq_mark, startsRef_place]
  refine .ite (fun h => ?_) fun _ => .ite (fun h => ?_) fun _ => .ite (fun h => ?_) fun _ =>
    .ite (fun _ => unexpected_place p hlast _ (t :: ts)) fun _ => ?_
  · rw [p.tail_place h.2, noteText_place]
    rfl
  · rw [p.tail_place h.2]
    exact (noteBlock_place hlast _).bind fun _ => rfl
  · rw [p.tail_place h.2]
    exact (readIndexes_place hlast hopened _).bind fun _ => rfl
  · cases t.token.name? with
    | none => exact unexpected_place p hlast _ (t :: ts)
    | some name => exact (readColumn_place hlast (p.sameLine_moved t) name ts).bind fun _ => rfl

theorem readItems_place {opened opened' : Nat} (hopened : p.SameLine opened opened')
    (ts : List PlacedToken) :
    p.Carries p.answer (readItems last opened ts) (readItems last' opened' (p.place ts)) := by
  fun_induction readItems last opened ts with
  | case1 =>
    refine p.carries_error_of_end hopened fun halone => ?_
    rw [place_nil, halone, readItems]
  | case2 t ts hline ih =>
    rw [place_cons, readItems_cons, PlacedToken.moved_token, if_pos hline]
    exact ih
  | case3 t ts hline hclose =>
    rw [place_cons, readItems_cons, PlacedToken.moved_token, if_neg hline, if_pos hclose]
    rfl
  | case4 t ts hline hclose e hi =>
    rw [place_cons, readItems_cons, PlacedToken.moved_token, if_neg hline, if_neg hclose]
    intro halone
    rw [(readItem_place hlast hopened t ts).eq_error hi halone]
    rfl
  | case5 t ts hline hclose item rest hi ih =>
    rw [place_cons, readItems_cons, PlacedToken.moved_token, if_neg hline, if_neg hclose,
      (readItem_place hlast hopened t ts).eq_ok hi]
    exact ih.bind fun _ => rfl

/-! ### Statements -/

theorem expectBrace_place (expected : Expectation) (ts : List PlacedToken) :
    p.Carries p.place (expectBrace last expected ts) (expectBrace last' expected (p.place ts)) :=
  markAfterNewlines_place hlast (m := .openBrace) (y := id) (fun _ => rfl) expected ts

theorem readTable_place (ts : List PlacedToken) :
    p.Carries p.answer (readTable last ts) (readTable last' (p.place ts)) := by
  unfold readTable
  have hopened := p.sameLine_lineOf hlast ts
  rw [qualifiedName_place]
  rcases qualifiedName ts with _ | ⟨name, rest⟩
  · exact .error hopened _
  · dsimp only [Option.map_some, answer]
    rw [readShortName_place]
    exact (skipTableSettings_place _).bind fun _ => (expectBrace_place hlast _ _).bind fun _ =>
      (readItems_place hlast hopened _).bind fun _ => rfl

omit hlast in
theorem enumValues_place {opened opened' : Nat} (hopened : p.SameLine opened opened')
    (ts : List PlacedToken) :
    p.Carries p.answer (enumValues opened ts) (enumValues opened' (p.place ts)) := by
  fun_induction enumValues opened ts with
  | case1 =>
    refine p.carries_error_of_end hopened fun halone => ?_
    rw [place_nil, halone, enumValues]
  | case2 t ts hclose =>
    rw [place_cons, enumValues_cons, PlacedToken.moved_token, if_pos hclose]
    rfl
  | case3 t ts hclose hskip ih =>
    rw [place_cons, enumValues_cons, PlacedToken.moved_token, if_neg hclose, if_pos hskip]
    exact ih
  | case4 t ts hclose hskip hopen e hs =>
    rw [place_cons, enumValues_cons, PlacedToken.moved_token, if_neg hclose, if_neg hskip,
      if_pos hopen]
    intro halone
    rw [(dropSettings_place (p.sameLine_moved t) ts).eq_error hs halone]
    rfl
  | case5 t ts hclose hskip hopen rest hs ih =>
    rw [place_cons, enumValues_cons, PlacedToken.moved_token, if_neg hclose, if_neg hskip,
      if_pos hopen, (dropSettings_place (p.sameLine_moved t) ts).eq_ok hs]
    exact ih
  | case6 t ts hclose hskip hopen ih =>
    rw [place_cons, enumValues_cons, PlacedToken.moved_token, if_neg hclose, if_neg hskip,
      if_neg hopen]
    exact ih.bind fun _ => rfl

theorem readEnum_place (ts : List PlacedToken) :
    p.Carries p.answer (readEnum last ts) (readEnum last' (p.place ts)) := by
  unfold readEnum
  rw [qualifiedName_place]
  rcases qualifiedName ts with _ | ⟨name, rest⟩
  · exact unexpected_place p hlast _ ts
  · exact (expectBrace_place hlast _ rest).bind fun _ =>
      (enumValues_place (p.sameLine_lineOf hlast ts) _).bind fun _ => rfl

theorem readStatement_place (t : PlacedToken) (ts : List PlacedToken) :
    p.Carries p.answer (readStatement last t ts)
      (readStatement last' (t.moved p.shift) (p.place ts)) := by
  simp only [readStatement_eq, PlacedToken.moved_token, ← place_cons]
  exact .ite (fun _ => readTable_place hlast ts) fun _ =>
    .ite (fun _ => (readRefs_place hlast ts).bind fun _ => rfl) fun _ =>
      .ite (fun _ => readEnum_place hlast ts) fun _ =>
        (skipStatement_place (p.sameLine_moved t) (t :: ts)).bind fun _ => rfl

/-- The statements of a text that is read without an error come before those that follow.  The
induction is on the reading of the text: a statement that is complete leaves alone what follows. -/
theorem readStatements_place_ok {ts : List PlacedToken} {statements : List Statement}
    (h : readStatements last ts = .ok statements) :
    readStatements last' (p.place ts) = (statements ++ ·) <$> readStatements last' p.tail := by
  fun_induction readStatements last ts generalizing statements with
  | case1 => cases h; rw [place_nil]; cases readStatements last' p.tail <;> rfl
  | case2 t ts hline ih =>
    rw [place_cons, readStatements_cons, PlacedToken.moved_token, if_pos hline]
    exact ih h
  | case3 => cases h
  | case4 t ts hline s rest hs ih =>
    obtain ⟨statements', h', hcons⟩ := exists_ok_of_bind h
    cases hcons
    rw [place_cons, readStatements_cons, PlacedToken.moved_token, if_neg hline,
      (readStatement_place hlast t ts).eq_ok hs]
    change (s :: ·) <$> readStatements last' (p.place rest) = _
    rw [ih h', ← comp_map]
    rfl

/-- Without anything after it, a text with an error has the same one further down. -/
theorem readStatements_place_error (halone : p.tail = []) {ts : List PlacedToken} {e : ReadError}
    (h : readStatements last ts = .error e) :
    readStatements last' (p.place ts) = .error (e.moved p.shift) := by
  fun_induction readStatements last ts with
  | case1 => cases h
  | case2 t ts hline ih =>
    rw [place_cons, readStatements_cons, PlacedToken.moved_token, if_pos hline]
    exact ih h
  | case3 t ts hline e' hs =>
    cases h
    rw [place_cons, readStatements_cons, PlacedToken.moved_token, if_neg hline,
      (readStatement_place hlast t ts).eq_error hs halone]
    rfl
  | case4 t ts hline s rest hs ih =>
    rw [place_cons, readStatements_cons, PlacedToken.moved_token, if_neg hline,
      (readStatement_place hlast t ts).eq_ok hs]
    change (s :: ·) <$> readStatements last' (p.place rest) = _
    cases hrest : readStatements last rest with
    | ok statements => rw [hrest] at h; cases h
    | error e' =>
      rw [hrest] at h
      cases h
      rw [ih hrest]
      rfl

end Placement

end Mockup.Schema
