import Mockup.Proofs.Schema.SettledBlocks

/-!
# Settings over several lines

Line ends count for nothing within settings.  A row whose settings go over several lines is read
like a settled row, except at the head of a statement of another kind, which its line ends.

* `EndsBefore`: the settings that are open before some tokens end in the midst of them, for readers
  that skip them and for those that read them;
* `Spread`: a settled row, settings, and another settled row;
* `Spread.readItems_goesOn`, `Spread.readIndexes_goesOn`, `Spread.enumValues_goesOn`,
  `Spread.refBlock_goesOn`: such rows within a block;
* `Spread.readTable_heading`, `Spread.readRefs_stop`: such rows at the head of a statement;
* `isSpread`, `isClause`: the test for such a row, and rows of both kinds.
-/

namespace Mockup.Schema

/-- Whatever follows, the settings that are open before the tokens `settings` end before `rest`. -/
structure EndsBefore (settings rest : List PlacedToken) : Prop where
  dropped : ∀ opened tail, dropSettings opened (settings ++ tail) = .ok (rest ++ tail)
  grouped : ∃ groups, ∀ opened tail,
    settingGroups opened 0 [] (settings ++ tail) = .ok (groups, rest ++ tail)

/-- A settled row without brackets, then settings, of which `settings` are the tokens after the
opening bracket, and a settled row `rest` at the end of these. -/
structure Spread (head settings rest : List PlacedToken) : Prop where
  settled : isSettled head = true
  plain : ∀ u ∈ head, u.token ≠ .mark .openBracket
  ends : EndsBefore settings rest
  restSettled : isSettled rest = true

section Spread

variable {t : PlacedToken} {ts head settings rest tail after : List PlacedToken}
  {last opened line : Nat}

theorem dropSettings_append {opened' : Nat} (h : dropSettings opened ts = .ok rest)
    (tail : List PlacedToken) : dropSettings opened' (ts ++ tail) = .ok (rest ++ tail) := by
  induction ts with
  | nil => cases h
  | cons t ts ih =>
    rw [dropSettings] at h
    rw [List.cons_append, dropSettings]
    split at h
    · next hclose => cases h; rw [if_pos hclose]
    · next hopen => rw [if_neg hopen]; exact ih h

theorem EndsBefore.of_readers {groups : List (List Token)}
    (hdrop : dropSettings 0 settings = .ok rest)
    (hgroups : settingGroups 0 0 [] settings = .ok (groups, rest)) : EndsBefore settings rest where
  dropped _ tail := dropSettings_append hdrop tail
  grouped := ⟨groups, fun _ tail => (settingGroups_append hgroups tail).1⟩

theorem breaks_of_open (ht : t.token = .mark .openBracket) (ts : List PlacedToken) :
    Breaks (t :: ts) :=
  breaks_cons.2 (by rw [ht]; rfl)

namespace Spread

theorem of_suffix {head' : List PlacedToken} (h : Spread head settings rest)
    (hsuffix : head' <:+ head) : Spread head' settings rest where
  settled := isSettled_of_suffix hsuffix h.settled
  plain u hu := h.plain u (hsuffix.mem hu)
  ends := h.ends
  restSettled := h.restSettled

variable (h : Spread head settings rest) (ht : t.token = .mark .openBracket) (hstop : Stops tail)
include h ht hstop

/-! ### Items of tables -/

theorem columnTail_stop {d d' : ColumnDraft}
    (hread : columnTail last line d (head ++ t :: (settings ++ tail)) = .ok (d', after)) :
    after = tail ∧ peek tail ≠ .mark .openBrace := by
  obtain ⟨d₁, hread⟩ := columnTail_goesOn h.settled (breaks_of_open ht _) hread
  rw [columnTail_of_open ht] at hread
  obtain ⟨⟨groups, _⟩, hgroups, hread⟩ := exists_ok_of_bind hread
  obtain ⟨_, hends⟩ := h.ends.grouped
  rw [hends] at hgroups
  cases hgroups
  obtain ⟨d₂, -, hread⟩ := exists_ok_of_bind hread
  obtain ⟨d₃, hread⟩ := columnTail_goesOn h.restSettled hstop.breaks hread
  exact Schema.columnTail_stop hstop hread

theorem readColumn_stop {name : String} {d : ColumnDraft}
    (hread : readColumn last line name (head ++ t :: (settings ++ tail)) = .ok (d, after)) :
    after = tail ∧ peek tail ≠ .mark .openBrace := by
  rw [readColumn_eq] at hread
  obtain ⟨⟨dataType, _⟩, htype, hread⟩ := exists_ok_of_bind hread
  obtain ⟨us, hsuffix, rfl⟩ := readType_remains h.settled (breaks_of_open ht _) htype
  exact (h.of_suffix hsuffix).columnTail_stop ht hstop hread

/-- No item starts with a bracket, so the row ends with the column that the settings belong to. -/
theorem readItems_goesOn {items : List TableItem}
    (hread : readItems last opened (head ++ t :: (settings ++ tail)) = .ok (items, after)) :
    ∃ items', readItems last opened tail = .ok (items', after) := by
  induction hn : head.length using Nat.strongRecOn generalizing head items with
  | ind n ih =>
    subst hn
    cases head with
    | nil =>
      have hname : t.token.name? = none := by rw [ht]; rfl
      have hword : ∀ word, ¬ t.token.isKeyword word = true := fun word => by rw [ht]; exact nofun
      rw [List.nil_append, readItems_cons, if_neg (by rw [ht]; decide),
        if_neg (by rw [ht]; decide), readItem_eq, if_neg fun h => hword _ h.1,
        if_neg fun h => hword _ h.1, if_neg fun h => hword _ h.1, if_neg fun h => hword _ h.1,
        hname] at hread
      cases hread
    | cons u us =>
      have hbound := (isSettled_cons.1 h.settled).1
      rw [List.cons_append, readItems_cons, if_neg (ne_of_not_isBound hbound rfl),
        if_neg (ne_of_not_isBound hbound rfl)] at hread
      obtain ⟨⟨item, _⟩, hitem, hread⟩ := exists_ok_of_bind hread
      obtain ⟨⟨items', _⟩, hmore, hp⟩ := exists_ok_of_bind hread
      cases hp
      rcases readItem_cases h.settled (breaks_of_open ht _) hitem with
        ⟨vs, hvs, rfl⟩ | ⟨name, d, hcolumn⟩ | ⟨_, _, hbrace, -⟩
      · exact ih _ (Nat.lt_succ_of_le hvs.length_le)
          (h.of_suffix (hvs.trans (List.suffix_cons u us))) hmore rfl
      · obtain ⟨rfl, -⟩ := (h.of_suffix (List.suffix_cons u us)).readColumn_stop ht hstop hcolumn
        exact ⟨items', hmore⟩
      · rw [(List.cons.inj hbrace).1] at ht
        cases ht

/-- Indexes read their settings after their columns, and the settings are those of the last one. -/
theorem readIndexes_goesOn (hne : head ≠ []) {indexes : List Index}
    (hread : readIndexes last opened (head ++ t :: (settings ++ tail)) = .ok (indexes, after)) :
    ∃ indexes', readIndexes last opened tail = .ok (indexes', after) := by
  induction hn : head.length using Nat.strongRecOn generalizing head indexes with
  | ind n ih =>
    subst hn
    obtain ⟨u, us, rfl⟩ := List.exists_cons_of_ne_nil hne
    obtain ⟨hbound, hclosed, -⟩ := isSettled_cons.1 h.settled
    rw [List.cons_append, readIndexes_cons, if_neg (ne_of_not_isBound hbound rfl),
      if_neg (ne_of_not_isBound hbound rfl)] at hread
    obtain ⟨⟨columns, _⟩, hhead, hread⟩ := exists_ok_of_bind hread
    obtain ⟨⟨names, _⟩, hsettings, hread⟩ := exists_ok_of_bind hread
    obtain ⟨⟨indexes', _⟩, hmore, hp⟩ := exists_ok_of_bind hread
    cases hp
    obtain ⟨vs, hvs, rfl⟩ := indexHead_remains hclosed hhead
    have hsuffix := hvs.trans (List.suffix_cons u us)
    cases vs with
    | nil =>
      obtain ⟨groups, hends⟩ := h.ends.grouped
      rw [List.nil_append, indexSettings, if_pos ht] at hsettings
      simp only [hends] at hsettings
      cases hsettings
      exact Schema.readIndexes_goesOn h.restSettled hstop hmore
    | cons v vs =>
      rw [List.cons_append, indexSettings, if_neg (h.plain v (hsuffix.mem List.mem_cons_self))]
        at hsettings
      cases hsettings
      exact ih _ (Nat.lt_succ_of_le hvs.length_le) (h.of_suffix hsuffix) (List.cons_ne_nil v vs)
        hmore rfl

/-! ### Tables and references -/

omit hstop in
theorem readTable_heading {s : Statement}
    (hread : readTable last (head ++ t :: (settings ++ tail)) = .ok (s, after)) :
    ∃ body opened items, expectBrace last .tableBrace tail = .ok body ∧
      readItems last opened body = .ok (items, after) := by
  unfold readTable at hread
  cases hq : qualifiedName (head ++ t :: (settings ++ tail)) with
  | none => rw [hq] at hread; cases hread
  | some p =>
    rw [hq] at hread
    obtain ⟨remaining, hskip, hread⟩ := exists_ok_of_bind hread
    obtain ⟨body, hbrace, hread⟩ := exists_ok_of_bind hread
    obtain ⟨⟨items, _⟩, hitems, hp⟩ := exists_ok_of_bind hread
    cases hp
    obtain ⟨u, us, rfl, vs, hvs, hname⟩ := qualifiedName_remains (breaks_of_open ht _) hq
    obtain ⟨ws, hws, hshort⟩ := readShortName_remains (breaks_of_open ht (settings ++ tail)) vs
    have hsuffix := (hws.trans hvs).trans (List.suffix_cons u us)
    change skipTableSettings (readShortName p.2).2 = .ok remaining at hskip
    rw [hname, hshort] at hskip
    cases ws with
    | nil =>
      rw [List.nil_append, skipTableSettings, if_pos ht, h.ends.dropped] at hskip
      cases hskip
      obtain rfl := expectBrace_settled h.restSettled hbrace
      exact ⟨body, _, items, hbrace, hitems⟩
    | cons w ws =>
      -- a name, or what follows it, that is not over before the settings has no brace
      rw [List.cons_append, skipTableSettings,
        if_neg (h.plain w (hsuffix.mem List.mem_cons_self))] at hskip
      cases hskip
      rw [← List.cons_append] at hbrace
      cases expectBrace_settled (isSettled_of_suffix hsuffix h.settled) hbrace

omit hstop in
theorem refTokens_goesOn {tokens : List Token}
    (hread : refTokens (head ++ t :: (settings ++ tail)) = .ok (tokens, after)) :
    ∃ before tokens', tokens = before ++ tokens' ∧ refTokens tail = .ok (tokens', after) := by
  obtain ⟨before, tokens₁, rfl, hlater⟩ := Schema.refTokens_goesOn h.settled hread
  rw [refTokens_cons, if_neg (by rw [ht]; decide), if_pos ht, h.ends.dropped] at hlater
  obtain ⟨before', tokens₂, rfl, htail⟩ := Schema.refTokens_goesOn h.restSettled hlater
  exact ⟨before ++ before', tokens₂, (List.append_assoc before before' tokens₂).symm, htail⟩

theorem refLine_stop {r : Relationship}
    (hread : refLine last (head ++ t :: (settings ++ tail)) = .ok (r, after)) :
    after = tail ∧ peek tail ≠ .mark .openBrace := by
  rw [refLine_eq] at hread
  obtain ⟨⟨tokens, _⟩, htokens, hread⟩ := exists_ok_of_bind hread
  obtain ⟨_, href, hp⟩ := exists_ok_of_bind hread
  cases hp
  obtain ⟨before, tokens', rfl, htail⟩ := h.refTokens_goesOn ht htokens
  refine refTokens_stop hstop htail fun hmem => openBrace_notMem_of_reference href ?_
  exact List.mem_append_right before hmem

theorem refBlock_goesOn (hne : head ≠ []) {rs : List Relationship}
    (hread : refBlock last opened (head ++ t :: (settings ++ tail)) = .ok (rs, after)) :
    ∃ rs', refBlock last opened tail = .ok (rs', after) := by
  obtain ⟨u, us, rfl⟩ := List.exists_cons_of_ne_nil hne
  have hbound := (isSettled_cons.1 h.settled).1
  rw [List.cons_append, refBlock_cons, if_neg (ne_of_not_isBound hbound rfl),
    if_neg (ne_of_not_isBound hbound rfl), ← List.cons_append] at hread
  obtain ⟨⟨r, _⟩, hline, hread⟩ := exists_ok_of_bind hread
  obtain ⟨⟨rs', _⟩, hmore, hp⟩ := exists_ok_of_bind hread
  cases hp
  rw [(h.refLine_stop ht hstop hline).1] at hmore
  exact ⟨rs', hmore⟩

theorem readRefs_stop {rs : List Relationship}
    (hread : readRefs last (head ++ t :: (settings ++ tail)) = .ok (rs, after)) :
    after = tail ∧ peek tail ≠ .mark .openBrace := by
  obtain ⟨us, hus, hskip⟩ := skipName_remains (breaks_of_open ht (settings ++ tail)) head
  unfold readRefs at hread
  rw [hskip] at hread
  cases us with
  | nil =>
    simp only [List.nil_append, ht, reduceCtorEq, if_false, Token.mark.injEq] at hread
    cases hread
  | cons u us =>
    have hbound := (isSettled_cons.1 (isSettled_of_suffix hus h.settled)).1
    have hopen : u.token ≠ .mark .openBrace := ne_of_not_isBound hbound rfl
    simp only [List.cons_append, if_neg hopen] at hread
    split at hread
    · obtain ⟨_, hline, hp⟩ := exists_ok_of_bind hread
      cases hp
      exact (h.of_suffix ((List.suffix_cons u us).trans hus)).refLine_stop ht hstop hline
    · cases hread

/-! ### Other blocks -/

omit hstop in
theorem enumValues_goesOn {values : List String}
    (hread : enumValues opened (head ++ t :: (settings ++ tail)) = .ok (values, after)) :
    ∃ values', enumValues opened tail = .ok (values', after) := by
  obtain ⟨values₁, hread⟩ := Schema.enumValues_goesOn h.settled hread
  rw [enumValues_cons, if_neg (by rw [ht]; decide), if_neg (by rw [ht]; decide), if_pos ht,
    h.ends.dropped] at hread
  exact Schema.enumValues_goesOn h.restSettled hread

end Spread

end Spread

/-! ### Clauses -/

/-- A settled row, then settings that may go over several lines, and another settled row; no brace
stands in any of them. -/
def isSpread (ts : List PlacedToken) : Bool :=
  let head := ts.takeWhile (·.token != .mark .openBracket)
  let settings := (ts.dropWhile (·.token != .mark .openBracket)).tail
  match dropSettings 0 settings, settingGroups 0 0 [] settings with
  | .ok rest, .ok (_, rest') =>
    !head.isEmpty && isSettled head && rest == rest' && isSettled rest
      && ts.all fun t => t.token != .mark .openBrace && t.token != .mark .closeBrace
  | _, _ => false

/-- A row without braces, whose line ends are within settings. -/
def isClause (ts : List PlacedToken) : Bool :=
  isSettled ts || isSpread ts

/-- Tokens are split before the first one that is this mark. -/
theorem eq_append_of_dropWhile {m : Mark} {t : PlacedToken} {ts us : List PlacedToken}
    (h : ts.dropWhile (·.token != .mark m) = t :: us) :
    t.token = .mark m ∧ ts = ts.takeWhile (·.token != .mark m) ++ t :: us := by
  refine ⟨?_, by rw [← h, List.takeWhile_append_dropWhile]⟩
  have hhead := List.head?_dropWhile_not (fun t : PlacedToken => t.token != .mark m) ts
  rw [h] at hhead
  simpa using hhead

theorem isSpread_cases {ts : List PlacedToken} (h : isSpread ts = true) :
    (∃ head t settings rest, ts = head ++ t :: settings ∧ head ≠ [] ∧
      t.token = .mark .openBracket ∧ Spread head settings rest) ∧
      ∀ u ∈ ts, u.token ≠ .mark .openBrace ∧ u.token ≠ .mark .closeBrace := by
  unfold isSpread at h
  dsimp only at h
  split at h
  · next rest groups rest' hdrop hgroups =>
    simp only [Bool.and_eq_true, Bool.not_eq_true', List.isEmpty_eq_false_iff, beq_iff_eq,
      List.all_eq_true, bne_iff_ne] at h
    obtain ⟨⟨⟨⟨hne, hhead⟩, rfl⟩, hrest⟩, hbraces⟩ := h
    refine ⟨?_, hbraces⟩
    cases hsplit : ts.dropWhile (·.token != .mark .openBracket) with
    | nil => rw [hsplit] at hdrop; cases hdrop
    | cons t settings =>
      rw [hsplit] at hdrop hgroups
      obtain ⟨ht, hts⟩ := eq_append_of_dropWhile hsplit
      refine ⟨_, t, settings, rest, hts, hne, ht, hhead, fun u hu => ?_, .of_readers hdrop hgroups,
        hrest⟩
      simpa using List.all_eq_true.1 List.all_takeWhile u hu
  · cases h

theorem noBrace_of_isClause {ts : List PlacedToken} (h : isClause ts = true) :
    ∀ u ∈ ts, u.token ≠ .mark .openBrace ∧ u.token ≠ .mark .closeBrace :=
  ((Bool.or_eq_true_iff ..).1 h).elim noBrace_of_isSettled fun hspread => (isSpread_cases hspread).2

end Mockup.Schema
