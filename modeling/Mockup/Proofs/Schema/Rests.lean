import Mockup.Proofs.Schema.Settled

/-!
# The tokens that readers leave

A reader takes tokens from the front and leaves the others as they are: what remains is an end of
the tokens that it was given.  There is one lemma for each reader, from names to statements, so that
whatever is read in the course of a text is read from an end of the text.
-/

namespace Mockup.Schema

section Rests

variable {last line opened depth : Nat} {t : PlacedToken} {ts rest : List PlacedToken}

theorem suffix_cons_of (h : rest <:+ ts) (t : PlacedToken) : rest <:+ t :: ts :=
  h.trans (List.suffix_cons t ts)

/-! ### Names and settings -/

theorem dropNewlines_suffix (ts : List PlacedToken) : dropNewlines ts <:+ ts :=
  List.dropWhile_suffix _

theorem lastSegment_suffix (name : String) (ts : List PlacedToken) :
    (lastSegment name ts).2 <:+ ts := by
  fun_induction lastSegment name ts with
  | case1 name d t ts _ _ _ ih => exact suffix_cons_of (suffix_cons_of ih t) d
  | case2 => exact List.suffix_rfl
  | case3 => exact List.suffix_rfl
  | case4 => exact List.suffix_rfl

theorem qualifiedName_suffix {name : String} (h : qualifiedName ts = some (name, rest)) :
    rest <:+ ts := by
  cases ts with
  | nil => cases h
  | cons t ts =>
    obtain ⟨first, -, hlast⟩ := Option.map_eq_some_iff.1 h
    obtain rfl : (lastSegment first ts).2 = rest := congrArg Prod.snd hlast
    exact suffix_cons_of (lastSegment_suffix first ts) t

theorem dropSettings_suffix (h : dropSettings opened ts = .ok rest) : rest <:+ ts := by
  induction ts with
  | nil => cases h
  | cons t ts ih =>
    rw [dropSettings] at h
    split at h
    · cases h
      exact List.suffix_cons t _
    · exact suffix_cons_of (ih h) t

theorem settingGroups_suffix {group : List Token} {groups : List (List Token)}
    (h : settingGroups opened depth group ts = .ok (groups, rest)) : rest <:+ ts := by
  have happend : settingGroups opened depth group (ts ++ []) = .ok (groups, rest ++ []) ∧
      rest <:+ ts := settingGroups_append h []
  exact happend.2

/-! ### References -/

theorem refTokens_suffix {tokens : List Token} (h : refTokens ts = .ok (tokens, rest)) :
    rest <:+ ts := by
  fun_induction refTokens ts generalizing tokens with
  | case1 => cases h; exact List.suffix_rfl
  | case2 => cases h; exact List.suffix_rfl
  | case3 => cases h
  | case4 t ts _ _ after hdrop ih =>
    exact suffix_cons_of ((ih h).trans (dropSettings_suffix hdrop)) t
  | case5 t ts _ _ ih =>
    obtain ⟨_, hmore, hp⟩ := exists_ok_of_bind h
    cases hp
    exact suffix_cons_of (ih hmore) t

theorem refLine_suffix {r : Relationship} (h : refLine last ts = .ok (r, rest)) : rest <:+ ts := by
  rw [refLine_eq] at h
  obtain ⟨_, htokens, h⟩ := exists_ok_of_bind h
  obtain ⟨_, -, hp⟩ := exists_ok_of_bind h
  cases hp
  exact refTokens_suffix htokens

theorem refBlock_suffix {rs : List Relationship} (h : refBlock last opened ts = .ok (rs, rest)) :
    rest <:+ ts := by
  fun_induction refBlock last opened ts generalizing rs with
  | case1 => cases h
  | case2 t ts _ ih => exact suffix_cons_of (ih h) t
  | case3 t ts => cases h; exact List.suffix_cons t _
  | case4 => cases h
  | case5 t ts _ _ r after hline ih =>
    obtain ⟨_, hmore, hp⟩ := exists_ok_of_bind h
    cases hp
    exact (ih hmore).trans (refLine_suffix hline)

theorem skipName_suffix (ts : List PlacedToken) : skipName ts <:+ ts := by
  unfold skipName
  split
  · split
    · exact List.suffix_cons _ _
    · exact List.suffix_rfl
  · exact List.suffix_rfl

theorem readRefs_suffix {rs : List Relationship} (h : readRefs last ts = .ok (rs, rest)) :
    rest <:+ ts := by
  have hname := skipName_suffix ts
  unfold readRefs at h
  split at h
  · next t after heq =>
    have hafter : after <:+ ts := (List.suffix_cons t after).trans (heq ▸ hname)
    split at h
    · obtain ⟨_, hline, hp⟩ := exists_ok_of_bind h
      cases hp
      exact (refLine_suffix hline).trans hafter
    split at h
    · exact (refBlock_suffix h).trans hafter
    · cases h
  · cases h

/-! ### Columns -/

theorem typeArguments_suffix {args : List String} (h : typeArguments line ts = .ok (args, rest)) :
    rest <:+ ts := by
  induction ts generalizing args with
  | nil => cases h
  | cons t ts ih =>
    rw [typeArguments] at h
    split at h
    · cases h
      exact List.suffix_cons t _
    split at h
    · cases h
    split at h
    · exact suffix_cons_of (ih h) t
    · obtain ⟨_, hmore, hp⟩ := exists_ok_of_bind h
      cases hp
      exact suffix_cons_of (ih hmore) t

theorem readType_suffix {column dataType : String}
    (h : readType line column ts = .ok (dataType, rest)) : rest <:+ ts := by
  unfold readType at h
  split at h
  · cases h
  · next name after hname =>
    have hafter := qualifiedName_suffix hname
    split at h
    · next t after =>
      split at h
      · obtain ⟨_, hargs, hp⟩ := exists_ok_of_bind h
        cases hp
        exact (suffix_cons_of (typeArguments_suffix hargs) t).trans hafter
      · cases h
        exact hafter
    · cases h
      exact hafter

theorem bareConstraint_suffix (c : Column) (word : String) (ts : List PlacedToken) :
    (bareConstraint c word ts).2 <:+ ts := by
  unfold bareConstraint
  dsimp only
  split
  · exact List.tail_suffix ts
  split
  · exact List.tail_suffix ts
  · exact List.suffix_rfl

theorem columnTail_suffix {d d' : ColumnDraft} (h : columnTail last line d ts = .ok (d', rest)) :
    rest <:+ ts := by
  fun_induction columnTail last line d ts with
  | case1 => cases h; exact List.suffix_rfl
  | case2 => cases h; exact List.suffix_rfl
  | case3 => cases h
  | case4 => cases h
  | case5 d t ts _ _ groups after hgroups d'' _ ih =>
    exact suffix_cons_of ((ih h).trans (settingGroups_suffix hgroups)) t
  | case6 d t ts _ word _ next ih =>
    exact suffix_cons_of ((ih h).trans (bareConstraint_suffix d.column word ts)) t
  | case7 => cases h

theorem readColumn_suffix {name : String} {d : ColumnDraft}
    (h : readColumn last line name ts = .ok (d, rest)) : rest <:+ ts := by
  rw [readColumn_eq] at h
  obtain ⟨_, htype, htail⟩ := exists_ok_of_bind h
  exact (columnTail_suffix htail).trans (readType_suffix htype)

/-! ### Notes and indexes -/

theorem noteText_suffix (ts : List PlacedToken) : (noteText ts).2 <:+ ts := by
  unfold noteText
  split
  · exact List.suffix_rfl
  · split
    · exact List.suffix_cons _ _
    · exact List.suffix_cons _ _
    · exact List.suffix_rfl

theorem noteBlock_suffix {note : Option String} (h : noteBlock last ts = .ok (note, rest)) :
    rest <:+ ts := by
  have hline := dropNewlines_suffix ts
  have htext := noteText_suffix (dropNewlines ts)
  have hend := dropNewlines_suffix (noteText (dropNewlines ts)).2
  simp only [noteBlock] at h
  split at h
  · next t after heq =>
    split at h
    · cases h
      rw [heq] at hend
      exact (List.suffix_cons t _).trans (hend.trans (htext.trans hline))
    · cases h
  · cases h

theorem indexColumns_suffix {columns : List String}
    (h : indexColumns last ts = .ok (columns, rest)) : rest <:+ ts := by
  induction ts generalizing columns with
  | nil => cases h
  | cons t ts ih =>
    rw [indexColumns] at h
    split at h
    · cases h
      exact List.suffix_cons t _
    split at h
    · cases h
    split at h
    · exact suffix_cons_of (ih h) t
    · obtain ⟨_, hmore, hp⟩ := exists_ok_of_bind h
      cases hp
      exact suffix_cons_of (ih hmore) t

theorem indexSettings_suffix {settings : List String}
    (h : indexSettings ts = .ok (settings, rest)) : rest <:+ ts := by
  unfold indexSettings at h
  split at h
  · cases h
    exact List.suffix_rfl
  · next t after =>
    split at h
    · split at h
      · cases h
      · next hgroups =>
        cases h
        exact suffix_cons_of (settingGroups_suffix hgroups) t
    · cases h
      exact List.suffix_rfl

theorem indexHead_suffix {columns : List String}
    (h : indexHead last t ts = .ok (columns, rest)) : rest <:+ ts := by
  unfold indexHead at h
  split at h
  · exact indexColumns_suffix h
  · cases h
    exact List.suffix_rfl

theorem readIndexes_suffix {indexes : List Index}
    (h : readIndexes last opened ts = .ok (indexes, rest)) : rest <:+ ts := by
  fun_induction readIndexes last opened ts generalizing indexes with
  | case1 => cases h
  | case2 t ts _ ih => exact suffix_cons_of (ih h) t
  | case3 t ts => cases h; exact List.suffix_cons t _
  | case4 => cases h
  | case5 => cases h
  | case6 t ts _ _ columns after hhead settings after' hsettings ih =>
    obtain ⟨_, hmore, hp⟩ := exists_ok_of_bind h
    cases hp
    have hafter := (indexSettings_suffix hsettings).trans (indexHead_suffix hhead)
    exact suffix_cons_of ((ih hmore).trans hafter) t

/-! ### Tables -/

theorem readItem_suffix {item : TableItem}
    (h : readItem last opened t ts = .ok (item, rest)) : rest <:+ ts := by
  have htail := List.tail_suffix ts
  rw [readItem_eq] at h
  split at h
  · cases h
    exact (noteText_suffix ts.tail).trans htail
  split at h
  · obtain ⟨_, hnote, hp⟩ := exists_ok_of_bind h
    cases hp
    exact (noteBlock_suffix hnote).trans htail
  split at h
  · obtain ⟨_, hindexes, hp⟩ := exists_ok_of_bind h
    cases hp
    exact (readIndexes_suffix hindexes).trans htail
  split at h
  · cases h
  split at h
  · obtain ⟨_, hcolumn, hp⟩ := exists_ok_of_bind h
    cases hp
    exact readColumn_suffix hcolumn
  · cases h

theorem readItems_suffix {items : List TableItem}
    (h : readItems last opened ts = .ok (items, rest)) : rest <:+ ts := by
  fun_induction readItems last opened ts generalizing items with
  | case1 => cases h
  | case2 t ts _ ih => exact suffix_cons_of (ih h) t
  | case3 t ts => cases h; exact List.suffix_cons t _
  | case4 => cases h
  | case5 t ts _ _ item after hitem ih =>
    obtain ⟨_, hmore, hp⟩ := exists_ok_of_bind h
    cases hp
    exact suffix_cons_of ((ih hmore).trans (readItem_suffix hitem)) t

theorem readShortName_suffix (ts : List PlacedToken) : (readShortName ts).2 <:+ ts := by
  unfold readShortName
  split
  · exact List.suffix_rfl
  · split
    · split
      · next hname => exact suffix_cons_of (qualifiedName_suffix hname) _
      · exact List.suffix_cons _ _
    · exact List.suffix_rfl

theorem skipTableSettings_suffix (h : skipTableSettings ts = .ok rest) : rest <:+ ts := by
  unfold skipTableSettings at h
  split at h
  · cases h
    exact List.suffix_rfl
  · split at h
    · exact suffix_cons_of (dropSettings_suffix h) _
    · cases h
      exact List.suffix_rfl

theorem expectBrace_suffix {expected : Expectation} (h : expectBrace last expected ts = .ok rest) :
    rest <:+ ts := by
  have hline := dropNewlines_suffix ts
  unfold expectBrace at h
  split at h
  · next t after heq =>
    split at h
    · cases h
      rw [heq] at hline
      exact (List.suffix_cons t _).trans hline
    · cases h
  · cases h

/-- The items of a table that is read are read from an end of what follows its keyword. -/
theorem readTable_items {s : Statement} (h : readTable last ts = .ok (s, rest)) :
    ∃ name shortName items opened body, s = .table name shortName items ∧ body <:+ ts ∧
      readItems last opened body = .ok (items, rest) := by
  unfold readTable at h
  cases hname : qualifiedName ts with
  | none => rw [hname] at h; cases h
  | some p =>
    rw [hname] at h
    obtain ⟨after, hsettings, h⟩ := exists_ok_of_bind h
    obtain ⟨body, hbrace, h⟩ := exists_ok_of_bind h
    obtain ⟨⟨items, _⟩, hitems, hp⟩ := exists_ok_of_bind h
    cases hp
    have hshort : (readShortName p.2).2 <:+ ts :=
      (readShortName_suffix p.2).trans (qualifiedName_suffix hname)
    have hafter : after <:+ (readShortName p.2).2 := skipTableSettings_suffix hsettings
    exact ⟨_, _, _, _, body, rfl, (expectBrace_suffix hbrace).trans (hafter.trans hshort), hitems⟩

/-! ### Statements -/

theorem enumValues_suffix {values : List String}
    (h : enumValues opened ts = .ok (values, rest)) : rest <:+ ts := by
  fun_induction enumValues opened ts generalizing values with
  | case1 => cases h
  | case2 t ts => cases h; exact List.suffix_cons t _
  | case3 t ts _ _ ih => exact suffix_cons_of (ih h) t
  | case4 => cases h
  | case5 t ts _ _ _ after hdrop ih =>
    exact suffix_cons_of ((ih h).trans (dropSettings_suffix hdrop)) t
  | case6 t ts _ _ _ ih =>
    obtain ⟨_, hmore, hp⟩ := exists_ok_of_bind h
    cases hp
    exact suffix_cons_of (ih hmore) t

theorem readEnum_suffix {s : Statement} (h : readEnum last ts = .ok (s, rest)) : rest <:+ ts := by
  unfold readEnum at h
  cases hname : qualifiedName ts with
  | none => rw [hname] at h; cases h
  | some p =>
    rw [hname] at h
    obtain ⟨block, hbrace, h⟩ := exists_ok_of_bind h
    obtain ⟨_, hvalues, hp⟩ := exists_ok_of_bind h
    cases hp
    have hblock : block <:+ p.2 := expectBrace_suffix hbrace
    exact (enumValues_suffix hvalues).trans (hblock.trans (qualifiedName_suffix hname))

theorem skipBraces_suffix (h : skipBraces line depth ts = .ok rest) : rest <:+ ts := by
  induction ts generalizing depth with
  | nil => cases h
  | cons t ts ih =>
    rw [skipBraces] at h
    split at h
    · exact suffix_cons_of (ih h) t
    split at h
    · split at h
      · cases h
        exact List.suffix_cons t _
      · exact suffix_cons_of (ih h) t
    · exact suffix_cons_of (ih h) t

theorem skipStatement_suffix (h : skipStatement line ts = .ok rest) : rest <:+ ts := by
  induction ts with
  | nil => cases h; exact List.suffix_rfl
  | cons t ts ih =>
    rw [skipStatement] at h
    split at h
    · cases h
      exact List.suffix_rfl
    split at h
    · exact suffix_cons_of (skipBraces_suffix h) t
    · exact suffix_cons_of (ih h) t

theorem readStatement_suffix {s : Statement} (h : readStatement last t ts = .ok (s, rest)) :
    rest <:+ t :: ts := by
  rw [readStatement_eq] at h
  split at h
  · obtain ⟨_, _, _, _, body, -, hbody, hitems⟩ := readTable_items h
    exact suffix_cons_of ((readItems_suffix hitems).trans hbody) t
  split at h
  · obtain ⟨_, hrefs, hp⟩ := exists_ok_of_bind h
    cases hp
    exact suffix_cons_of (readRefs_suffix hrefs) t
  split at h
  · exact suffix_cons_of (readEnum_suffix h) t
  · obtain ⟨_, hskip, hp⟩ := exists_ok_of_bind h
    cases hp
    exact skipStatement_suffix hskip

end Rests

end Mockup.Schema
