import Mockup.Proofs.Schema.Equations

/-!
# Reading tokens up to a brace or the end of a line

A row of tokens without braces and line ends, in which whatever is opened is closed, is settled.  A
reader that is at work within such a row either stops within it or goes on with what follows; in no
case does it stop in the midst of what follows.  There is one lemma for each reader, up to those of
columns, indexes, references and enumerations.

* `isBound`, `isSettled`: braces and line ends, and the rows between them;
* `Stops`, `Breaks`: the tokens after a settled row, and those after a part of it before settings;
* `Remains`: the rest of a reader that stops within a row.
-/

namespace Mockup.Schema

/-- The braces and the end of a line. -/
def isBound : Token → Bool
  | .newline | .mark .openBrace | .mark .closeBrace => true
  | _ => false

/-- The bounds, and the bracket that opens settings. -/
def isBreak : Token → Bool
  | .newline | .mark .openBrace | .mark .closeBrace | .mark .openBracket => true
  | _ => false

/-- The settings, or the list, that open with the token `t` are closed within the tokens `ts` after
it. -/
def isClosedIn (t : Token) (ts : List PlacedToken) : Bool :=
  match t with
  | .mark .openBracket => (settingGroups 0 0 [] ts).toOption.isSome
  | .mark .openParen => ts.any (·.token == .mark .closeParen)
  | _ => true

/-- There are no bounds among the tokens, and settings and lists that they open are closed by them.
-/
def isSettled : List PlacedToken → Bool
  | [] => true
  | t :: ts => !isBound t.token && isClosedIn t.token ts && isSettled ts

/-- The tokens that follow a settled row: none at all, or first a bound. -/
def Stops (tail : List PlacedToken) : Prop :=
  ∀ t ∈ tail.head?, isBound t.token = true

instance (tail : List PlacedToken) : Decidable (Stops tail) :=
  inferInstanceAs (Decidable (∀ t ∈ tail.head?, isBound t.token = true))

/-- The tokens with which no name, type or constraint word goes on: none at all, or first a
break. -/
def Breaks (tail : List PlacedToken) : Prop :=
  ∀ t ∈ tail.head?, isBreak t.token = true

/-- The rest when a reader stops within the tokens `ts`, or at their end, before `tail`. -/
def Remains (ts tail rest : List PlacedToken) : Prop :=
  ∃ ts', ts' <:+ ts ∧ rest = ts' ++ tail

section Settled

variable {t : PlacedToken} {ts ts' tail rest : List PlacedToken}

theorem isSettled_cons : isSettled (t :: ts) = true ↔
    isBound t.token = false ∧ isClosedIn t.token ts = true ∧ isSettled ts = true := by
  simp [isSettled, and_assoc]

theorem isSettled_of_suffix (hsuffix : ts' <:+ ts) (h : isSettled ts = true) :
    isSettled ts' = true := by
  induction ts with
  | nil => rwa [List.suffix_nil.1 hsuffix]
  | cons t ts ih =>
    rcases List.suffix_cons_iff.1 hsuffix with rfl | hsuffix
    · exact h
    · exact ih hsuffix (isSettled_cons.1 h).2.2

theorem isBreak_of_isBound {t : Token} (h : isBound t = true) : isBreak t = true := by
  cases t with
  | mark m => cases m <;> first | rfl | cases h
  | _ => first | rfl | cases h

theorem name?_of_isBreak {t : Token} (h : isBreak t = true) : t.name? = none := by
  cases t <;> first | rfl | cases h

theorem isKeyword_of_isBreak {t : Token} (h : isBreak t = true) (word : String) :
    t.isKeyword word = false := by
  cases t <;> first | rfl | cases h

theorem isKeyword_of_isBound {t : Token} (h : isBound t = true) (word : String) :
    t.isKeyword word = false :=
  isKeyword_of_isBreak (isBreak_of_isBound h) word

theorem ne_of_isBound {t u : Token} (ht : isBound t = true) (hu : isBound u = false) : t ≠ u := by
  rintro rfl
  rw [ht] at hu
  cases hu

theorem ne_of_not_isBound {t u : Token} (ht : isBound t = false) (hu : isBound u = true) : t ≠ u :=
  (ne_of_isBound hu ht).symm

theorem noBrace_of_isSettled (h : isSettled ts = true) :
    ∀ u ∈ ts, u.token ≠ .mark .openBrace ∧ u.token ≠ .mark .closeBrace := by
  induction ts with
  | nil => exact nofun
  | cons t ts ih =>
    obtain ⟨hbound, -, hts⟩ := isSettled_cons.1 h
    exact List.forall_mem_cons.2
      ⟨⟨ne_of_not_isBound hbound rfl, ne_of_not_isBound hbound rfl⟩, ih hts⟩

theorem ne_of_isBreak {t u : Token} (ht : isBreak t = true) (hu : isBreak u = false) : t ≠ u := by
  rintro rfl
  rw [ht] at hu
  cases hu

theorem stops_cons : Stops (t :: ts) ↔ isBound t.token = true := by
  simp [Stops]

theorem breaks_cons : Breaks (t :: ts) ↔ isBreak t.token = true := by
  simp [Breaks]

theorem Stops.breaks (h : Stops tail) : Breaks tail :=
  fun t ht => isBreak_of_isBound (h t ht)

namespace Remains

theorem refl (ts tail : List PlacedToken) : Remains ts tail (ts ++ tail) :=
  ⟨ts, List.suffix_rfl, rfl⟩

theorem cons (h : Remains ts tail rest) (t : PlacedToken) : Remains (t :: ts) tail rest :=
  let ⟨ts', hsuffix, heq⟩ := h
  ⟨ts', hsuffix.trans (List.suffix_cons t ts), heq⟩

theorem of_suffix (h : Remains ts' tail rest) (hsuffix : ts' <:+ ts) : Remains ts tail rest :=
  let ⟨us, hus, heq⟩ := h
  ⟨us, hus.trans hsuffix, heq⟩

end Remains

/-! ### Names -/

theorem lastSegment_remains (hbreaks : Breaks tail) (name : String) (ts : List PlacedToken) :
    Remains ts tail (lastSegment name (ts ++ tail)).2 := by
  fun_induction lastSegment name ts with
  | case1 name d t ts hd next hnext ih =>
    rw [List.cons_append, List.cons_append, lastSegment, if_pos hd]
    simp only [hnext]
    exact (ih.cons t).cons d
  | case2 name d t ts hd hnext =>
    rw [List.cons_append, List.cons_append, lastSegment, if_pos hd]
    simp only [hnext]
    exact .refl (d :: t :: ts) tail
  | case3 name d t ts hd =>
    rw [List.cons_append, List.cons_append, lastSegment, if_neg hd]
    exact .refl (d :: t :: ts) tail
  | case4 name ts hshort =>
    -- At most one token is left, and no name follows it.
    have hbreak : ∀ t u, tail = t :: u → isBreak t.token = true := by
      rintro t u rfl
      exact hbreaks t rfl
    rcases ts with _ | ⟨d, _ | ⟨t, ts⟩⟩
    · rcases tail with _ | ⟨t, _ | ⟨u, rest⟩⟩
      · exact .refl [] _
      · exact .refl [] _
      · rw [List.nil_append, lastSegment, if_neg (ne_of_isBreak (hbreak t _ rfl) rfl)]
        exact .refl [] _
    · rcases tail with _ | ⟨t, rest⟩
      · exact .refl [d] _
      · rw [List.singleton_append, lastSegment]
        simp only [name?_of_isBreak (hbreak t rest rfl), ite_self]
        exact .refl [d] _
    · exact absurd rfl (hshort d t ts)

theorem qualifiedName_remains (hbreaks : Breaks tail) {name : String}
    (h : qualifiedName (ts ++ tail) = some (name, rest)) :
    ∃ t ts', ts = t :: ts' ∧ Remains ts' tail rest := by
  rcases ts with _ | ⟨t, ts⟩
  · rcases tail with _ | ⟨t, tail⟩
    · cases h
    · rw [List.nil_append, qualifiedName, name?_of_isBreak (hbreaks t rfl)] at h
      cases h
  · obtain ⟨first, -, hlast⟩ := Option.map_eq_some_iff.1 h
    obtain rfl : (lastSegment first (ts ++ tail)).2 = rest := congrArg Prod.snd hlast
    exact ⟨t, ts, rfl, lastSegment_remains hbreaks first ts⟩

/-! ### Settings and lists -/

theorem settingGroups_append {opened opened' depth : Nat} {group : List Token}
    {groups : List (List Token)} (h : settingGroups opened depth group ts = .ok (groups, rest))
    (tail : List PlacedToken) :
    settingGroups opened' depth group (ts ++ tail) = .ok (groups, rest ++ tail) ∧ rest <:+ ts := by
  induction ts generalizing depth group groups with
  | nil => cases h
  | cons t ts ih =>
    rw [settingGroups] at h
    rw [List.cons_append, settingGroups]
    split at h
    · next hclose =>
      cases h
      rw [if_pos hclose]
      exact ⟨rfl, List.suffix_cons t rest⟩
    rw [if_neg ‹_›]
    split at h
    · next hcomma =>
      obtain ⟨⟨more, rest'⟩, hg, hp⟩ := exists_ok_of_bind h
      cases hp
      obtain ⟨happend, hsuffix⟩ := ih hg
      rw [if_pos hcomma, happend]
      exact ⟨rfl, hsuffix.trans (List.suffix_cons t ts)⟩
    rw [if_neg ‹_›]
    split at h
    · next hline =>
      rw [if_pos hline]
      exact (ih h).imp_right (·.trans (List.suffix_cons t ts))
    · rw [if_neg ‹_›]
      exact (ih h).imp_right (·.trans (List.suffix_cons t ts))

/-- Settings are closed by a bracket, though not always by the first one: those within parentheses
do not count. -/
theorem closeBracket_mem_of_settingGroups {opened depth : Nat} {group : List Token}
    {groups : List (List Token)} (h : settingGroups opened depth group ts = .ok (groups, rest)) :
    ∃ t ∈ ts, t.token = .mark .closeBracket := by
  induction ts generalizing depth group groups rest with
  | nil => cases h
  | cons t ts ih =>
    have hlater : (∃ u ∈ ts, u.token = .mark .closeBracket) →
        ∃ u ∈ t :: ts, u.token = .mark .closeBracket :=
      fun ⟨u, hu, htoken⟩ => ⟨u, List.mem_cons_of_mem t hu, htoken⟩
    rw [settingGroups] at h
    split at h
    · next hclose => exact ⟨t, List.mem_cons_self, hclose.1⟩
    split at h
    · obtain ⟨_, hg, -⟩ := exists_ok_of_bind h
      exact hlater (ih hg)
    split at h
    · exact hlater (ih h)
    · exact hlater (ih h)

theorem exists_of_isClosedIn_openBracket (h : isClosedIn (.mark .openBracket) ts = true) :
    ∃ groups rest, settingGroups 0 0 [] ts = .ok (groups, rest) := by
  change (settingGroups 0 0 [] ts).toOption.isSome = true at h
  cases hg : settingGroups 0 0 [] ts with
  | error e => rw [hg] at h; cases h
  | ok a => exact ⟨a.1, a.2, rfl⟩

theorem settingGroups_remains (hclosed : isClosedIn (.mark .openBracket) ts = true) {opened : Nat}
    {groups : List (List Token)}
    (h : settingGroups opened 0 [] (ts ++ tail) = .ok (groups, rest)) : Remains ts tail rest := by
  obtain ⟨groups', rest', hg⟩ := exists_of_isClosedIn_openBracket hclosed
  obtain ⟨happend, hsuffix⟩ := settingGroups_append hg tail
  rw [happend] at h
  cases h
  exact ⟨rest', hsuffix, rfl⟩

/-- A token that is not the one that is looked for, but stands before it. -/
theorem exists_mem_of_cons {u : Token} (h : ∃ v ∈ t :: ts, v.token = u) (hne : t.token ≠ u) :
    ∃ v ∈ ts, v.token = u := by
  obtain ⟨v, hv, hu⟩ := h
  exact ⟨v, (List.mem_cons.1 hv).resolve_left fun heq => hne (heq ▸ hu), hu⟩

/-- A reader that skips tokens up to a closing one stops within a row that has one. -/
theorem remains_of_steps {α : Type} {f : List PlacedToken → Except ReadError α}
    (left : α → List PlacedToken) {close : Token}
    (hstep : ∀ {t ts a}, f (t :: ts) = .ok a →
      t.token = close ∧ left a = ts ∨ t.token ≠ close ∧ ∃ a', f ts = .ok a' ∧ left a' = left a)
    (hmem : ∃ t ∈ ts, t.token = close) {a : α} (h : f (ts ++ tail) = .ok a) :
    Remains ts tail (left a) := by
  induction ts generalizing a with
  | nil => simp at hmem
  | cons t ts ih =>
    rcases hstep h with ⟨-, hleft⟩ | ⟨hne, a', ha', hleft⟩
    · rw [hleft]
      exact (Remains.refl ts tail).cons t
    · rw [← hleft]
      exact (ih (exists_mem_of_cons hmem hne) ha').cons t

theorem dropSettings_remains (hclosed : isClosedIn (.mark .openBracket) ts = true) {opened : Nat}
    (h : dropSettings opened (ts ++ tail) = .ok rest) : Remains ts tail rest := by
  obtain ⟨groups, rest', hg⟩ := exists_of_isClosedIn_openBracket hclosed
  refine remains_of_steps id (fun {t ts a} h => ?_) (closeBracket_mem_of_settingGroups hg) h
  rw [dropSettings] at h
  split at h
  · next hclose => cases h; exact .inl ⟨hclose, rfl⟩
  · next hne => exact .inr ⟨hne, a, h, rfl⟩

theorem exists_of_isClosedIn_openParen (h : isClosedIn (.mark .openParen) ts = true) :
    ∃ t ∈ ts, t.token = .mark .closeParen := by
  simpa [isClosedIn] using h

theorem typeArguments_remains (hclosed : isClosedIn (.mark .openParen) ts = true) {line : Nat}
    {args : List String} (h : typeArguments line (ts ++ tail) = .ok (args, rest)) :
    Remains ts tail rest := by
  refine remains_of_steps Prod.snd (fun {t ts a} h => ?_)
    (exists_of_isClosedIn_openParen hclosed) h
  rw [typeArguments] at h
  split at h
  · next hclose => cases h; exact .inl ⟨hclose, rfl⟩
  · next hne =>
    refine .inr ⟨hne, ?_⟩
    split at h
    · cases h
    split at h
    · exact ⟨a, h, rfl⟩
    · obtain ⟨_, hr, hp⟩ := exists_ok_of_bind h
      cases hp
      exact ⟨_, hr, rfl⟩

theorem indexColumns_remains (hclosed : isClosedIn (.mark .openParen) ts = true) {last : Nat}
    {columns : List String} (h : indexColumns last (ts ++ tail) = .ok (columns, rest)) :
    Remains ts tail rest := by
  refine remains_of_steps Prod.snd (fun {t ts a} h => ?_)
    (exists_of_isClosedIn_openParen hclosed) h
  rw [indexColumns] at h
  split at h
  · next hclose => cases h; exact .inl ⟨hclose, rfl⟩
  · next hne =>
    refine .inr ⟨hne, ?_⟩
    split at h
    · cases h
    split at h
    · exact ⟨a, h, rfl⟩
    · obtain ⟨_, hr, hp⟩ := exists_ok_of_bind h
      cases hp
      exact ⟨_, hr, rfl⟩

/-! ### Columns -/

theorem readType_remains (hsettled : isSettled ts = true) (hbreaks : Breaks tail) {line : Nat}
    {column dataType : String} (h : readType line column (ts ++ tail) = .ok (dataType, rest)) :
    Remains ts tail rest := by
  unfold readType at h
  cases hq : qualifiedName (ts ++ tail) with
  | none => rw [hq] at h; cases h
  | some p =>
    obtain ⟨name, after⟩ := p
    rw [hq] at h
    obtain ⟨t, ts', rfl, us, hsuffix, rfl⟩ := qualifiedName_remains hbreaks hq
    refine Remains.cons (.of_suffix ?_ hsuffix) t
    have hus := isSettled_of_suffix hsuffix (isSettled_cons.1 hsettled).2.2
    cases us with
    | nil =>
      cases tail with
      | nil => cases h; exact .refl [] []
      | cons u tail =>
        have hparen : u.token ≠ .mark .openParen := ne_of_isBreak (breaks_cons.1 hbreaks) rfl
        simp only [List.nil_append, if_neg hparen] at h
        cases h
        exact .refl [] _
    | cons u us =>
      obtain ⟨-, hclosed, -⟩ := isSettled_cons.1 hus
      simp only [List.cons_append] at h
      split at h
      · next hparen =>
        obtain ⟨_, hargs, hp⟩ := exists_ok_of_bind h
        cases hp
        exact (typeArguments_remains (hparen ▸ hclosed) hargs).cons u
      · cases h
        exact .refl (u :: us) tail

theorem bareConstraint_remains (hbreaks : Breaks tail) (c : Column) (word : String)
    (ts : List PlacedToken) : Remains ts tail (bareConstraint c word (ts ++ tail)).2 := by
  -- The second word of a constraint stands within the row.
  have htail : ∀ follower, (peek (ts ++ tail)).isKeyword follower = true →
      Remains ts tail (ts ++ tail).tail := by
    intro follower hkeyword
    rcases ts with _ | ⟨t, ts⟩
    · rcases tail with _ | ⟨t, tail⟩
      · cases hkeyword
      · exact absurd hkeyword (by simp [peek, isKeyword_of_isBreak (breaks_cons.1 hbreaks)])
    · exact (Remains.refl ts tail).cons t
  unfold bareConstraint
  dsimp only
  split
  · next h => exact htail _ h.2
  split
  · next h => exact htail _ h.2
  · exact .refl ts tail

theorem isBound_of_endsLine {t : Token} (h : endsLine t = true) : isBound t = true := by
  obtain rfl | rfl := endsLine_iff.1 h <;> rfl

/-- Constraints and settings that start in a settled row are read up to its end. -/
theorem columnTail_goesOn (hsettled : isSettled ts = true) (hbreaks : Breaks tail)
    {last line : Nat} {d d' : ColumnDraft}
    (h : columnTail last line d (ts ++ tail) = .ok (d', rest)) :
    ∃ d'', columnTail last line d'' tail = .ok (d', rest) := by
  induction hn : ts.length using Nat.strongRecOn generalizing ts d with
  | ind n ih =>
    subst hn
    cases ts with
    | nil => exact ⟨d, h⟩
    | cons t ts =>
      obtain ⟨hbound, hclosed, hts⟩ := isSettled_cons.1 hsettled
      -- Settings may take many tokens at once, so the induction is on how many are left.
      have hagain : ∀ {d us}, us <:+ ts → columnTail last line d (us ++ tail) = .ok (d', rest) →
          ∃ d'', columnTail last line d'' tail = .ok (d', rest) := fun hsuffix hus =>
        ih _ (Nat.lt_succ_of_le hsuffix.length_le) (isSettled_of_suffix hsuffix hts) hus rfl
      have hend : ¬ endsLine t.token = true := fun hend => by
        rw [isBound_of_endsLine hend] at hbound
        cases hbound
      rw [List.cons_append] at h
      by_cases hopen : t.token = .mark .openBracket
      · rw [columnTail_of_open hopen] at h
        obtain ⟨⟨groups, after⟩, hgroups, h⟩ := exists_ok_of_bind h
        obtain ⟨d₁, -, h⟩ := exists_ok_of_bind h
        obtain ⟨us, hsuffix, rfl⟩ := settingGroups_remains (hopen ▸ hclosed) hgroups
        exact hagain hsuffix h
      by_cases hword : ∃ word, t.token = .ident word
      · obtain ⟨word, hword⟩ := hword
        rw [columnTail_of_word hword] at h
        obtain ⟨us, hsuffix, hus⟩ := bareConstraint_remains hbreaks d.column word ts
        rw [hus] at h
        exact hagain hsuffix h
      · rw [columnTail_of_other hend hopen fun word hw => hword ⟨word, hw⟩] at h
        cases h

/-- A column ends with its line or its table, and not before a block. -/
theorem columnTail_stop (hstop : Stops tail) {last line : Nat} {d d' : ColumnDraft}
    (h : columnTail last line d tail = .ok (d', rest)) :
    rest = tail ∧ peek tail ≠ .mark .openBrace := by
  cases tail with
  | nil => rw [columnTail] at h; cases h; exact ⟨rfl, by decide⟩
  | cons t tail =>
    by_cases hend : endsLine t.token = true
    · rw [columnTail_of_end hend] at h
      cases h
      refine ⟨rfl, fun hopen => ?_⟩
      rw [show t.token = .mark .openBrace from hopen] at hend
      cases hend
    · have hbound := stops_cons.1 hstop
      rw [columnTail_of_other hend (ne_of_isBound hbound rfl) fun _ => ne_of_isBound hbound rfl]
        at h
      cases h

/-- A column that starts in a settled row takes all of it, and nothing else. -/
theorem readColumn_stop (hsettled : isSettled ts = true) (hstop : Stops tail) {last line : Nat}
    {name : String} {d : ColumnDraft}
    (h : readColumn last line name (ts ++ tail) = .ok (d, rest)) :
    rest = tail ∧ peek tail ≠ .mark .openBrace := by
  rw [readColumn_eq] at h
  obtain ⟨⟨dataType, after⟩, htype, h⟩ := exists_ok_of_bind h
  obtain ⟨us, hsuffix, rfl⟩ := readType_remains hsettled hstop.breaks htype
  obtain ⟨d', htail⟩ := columnTail_goesOn (isSettled_of_suffix hsuffix hsettled) hstop.breaks h
  exact columnTail_stop hstop htail

/-! ### Notes and indexes -/

theorem noteText_remains (hbreaks : Breaks tail) (ts : List PlacedToken) :
    Remains ts tail (noteText (ts ++ tail)).2 := by
  rcases ts with _ | ⟨t, ts⟩
  · rcases tail with _ | ⟨t, tail⟩
    · exact .refl [] []
    · have hbreak := breaks_cons.1 hbreaks
      simp only [List.nil_append, noteText]
      split
      · next htext => exact absurd htext (ne_of_isBreak hbreak rfl)
      · next htext => exact absurd htext (ne_of_isBreak hbreak rfl)
      · exact .refl [] (t :: tail)
  · simp only [List.cons_append, noteText]
    split
    · exact (Remains.refl ts tail).cons t
    · exact (Remains.refl ts tail).cons t
    · exact .refl (t :: ts) tail

theorem indexHead_remains {t : PlacedToken} (hclosed : isClosedIn t.token ts = true) {last : Nat}
    {columns : List String} (h : indexHead last t (ts ++ tail) = .ok (columns, rest)) :
    Remains ts tail rest := by
  unfold indexHead at h
  split at h
  · next hparen => exact indexColumns_remains (hparen ▸ hclosed) h
  · cases h
    exact .refl ts tail

theorem indexSettings_remains (hsettled : isSettled ts = true) (hstop : Stops tail)
    {settings : List String} (h : indexSettings (ts ++ tail) = .ok (settings, rest)) :
    Remains ts tail rest := by
  unfold indexSettings at h
  rcases ts with _ | ⟨t, ts⟩
  · rcases tail with _ | ⟨t, tail⟩
    · cases h
      exact .refl [] []
    · have hopen : t.token ≠ .mark .openBracket := ne_of_isBound (stops_cons.1 hstop) rfl
      simp only [List.nil_append, if_neg hopen] at h
      cases h
      exact .refl [] _
  · obtain ⟨-, hclosed, -⟩ := isSettled_cons.1 hsettled
    simp only [List.cons_append] at h
    split at h
    · next hopen =>
      split at h
      · cases h
      · next hgroups =>
        cases h
        exact (settingGroups_remains (hopen ▸ hclosed) hgroups).cons t
    · cases h
      exact .refl (t :: ts) tail

/-- Indexes that start in a settled row end within it. -/
theorem readIndexes_goesOn (hsettled : isSettled ts = true) (hstop : Stops tail)
    {last opened : Nat} {indexes : List Index}
    (h : readIndexes last opened (ts ++ tail) = .ok (indexes, rest)) :
    ∃ indexes', readIndexes last opened tail = .ok (indexes', rest) := by
  induction hn : ts.length using Nat.strongRecOn generalizing ts indexes with
  | ind n ih =>
    subst hn
    cases ts with
    | nil => exact ⟨indexes, h⟩
    | cons t ts =>
      obtain ⟨hbound, hclosed, hts⟩ := isSettled_cons.1 hsettled
      rw [List.cons_append, readIndexes_cons, if_neg (ne_of_not_isBound hbound rfl),
        if_neg (ne_of_not_isBound hbound rfl)] at h
      obtain ⟨⟨columns, after⟩, hhead, h⟩ := exists_ok_of_bind h
      obtain ⟨⟨settings, after'⟩, hsettings, h⟩ := exists_ok_of_bind h
      obtain ⟨_, hmore, hp⟩ := exists_ok_of_bind h
      cases hp
      obtain ⟨us, hus, rfl⟩ := indexHead_remains hclosed hhead
      have husettled := isSettled_of_suffix hus hts
      obtain ⟨vs, hvs, rfl⟩ := indexSettings_remains husettled hstop hsettings
      exact ih _ (Nat.lt_succ_of_le (hvs.trans hus).length_le)
        (isSettled_of_suffix hvs husettled) hmore rfl

end Settled

end Mockup.Schema
