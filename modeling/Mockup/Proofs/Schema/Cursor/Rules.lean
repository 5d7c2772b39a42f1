import Mockup.Proofs.Schema.Cursor.Walk
import Mockup.Proofs.Schema.Equations

/-!
# Walks that follow readers

A walk at a cursor follows a reader if it comes to an end, answers what the reader answers and
stands before the tokens that the reader leaves, after a trail that is sound if it was so before.

* `Sound.position_le`: a walk with a sound trail stands within the tokens;
* `At`: the walk stands before these tokens;
* `Follows`: a walk follows a reader;
* `Follows.bind`, `Follows.andThen`, `Follows.orFail`: one walk after another one;
* `Follows.peekAt`, `Follows.line`, `Follows.advance`, `Follows.stepBack`: steps at the cursor;
* `Follows.rounds_next`, `Follows.rounds_done`, `Follows.rounds_error`: one round of a loop.  A loop
  goes on only when tokens were consumed;
* `Gathers`, `Gathers.of_read`, `Gathers.of_skip`, `follows_rounds`: a loop that gathers entries, by
  what one of its rounds does.
-/

namespace Mockup.Schema.Cursor

open Loop (rounds)

variable {α β σ : Type} {tokens : List PlacedToken} {trail : List Event}

/-! ### Running a walk -/

theorem run_bind (m : Walk α) (f : α → Walk β) :
    run tokens (m >>= f) trail =
      (run tokens m trail).bind fun (a, trail) => match a with
        | .ok a => run tokens (f a) trail
        | .error e => some (.error e, trail) := by
  simp only [run, ReaderT.run_bind, ExceptT.run_bind, StateT.run_bind]
  refine congrArg _ (funext fun ⟨a, _⟩ => ?_)
  cases a <;> rfl

theorem run_here : run tokens here trail = some (.ok (position trail), trail) := rfl

theorem run_peekAt (k : Nat) : run tokens (peekAt k) trail =
    some (.ok ((tokens[position trail + k]?.map (·.token)).getD .eof), trail) := rfl

theorem run_line : run tokens line trail =
    some (.ok (((tokens[position trail]?.or tokens.getLast?).map (·.line)).getD 1), trail) := rfl

theorem run_advance : run tokens advance trail =
    some (.ok ((tokens[position trail]?.map (·.token)).getD .eof),
      .advanced (if position trail < tokens.length then position trail + 1 else position trail)
        :: trail) := rfl

theorem run_stepBack : run tokens stepBack trail =
    some (.ok (), .steppedBack (position trail - 1) :: trail) := rfl

theorem run_rounds (body : Loop σ α) (x : σ) :
    run tokens (rounds body x) trail =
      (run tokens (body x) trail).bind fun (o, later) => match o with
        | .ok (.inr a) => some (.ok a, later)
        | .ok (.inl y) => run tokens (rounds body y) (.wentRound (position trail) :: later)
        | .error e => some (.error e, later) := by
  rw [rounds, run_bind, run_here]
  dsimp only [Option.bind_some]
  rw [run_bind]
  refine congrArg _ (funext fun ⟨o, _⟩ => ?_)
  rcases o with _ | _ | _ <;> rfl

/-! ### Sound trails -/

/-- A walk with a sound trail does not leave the tokens. -/
theorem Sound.position_le (h : Sound tokens trail) : position trail ≤ tokens.length := by
  induction trail with
  | nil => exact Nat.zero_le _
  | cons e earlier ih =>
    have hle := ih h.2
    cases e with
    | advanced p => exact h.1
    | steppedBack p =>
      obtain ⟨older, rfl, rfl⟩ := h.1
      exact Nat.le_of_succ_le h.2.1
    | _ => exact hle

theorem Sound.of_suffix {earlier : List Event} (h : Sound tokens trail)
    (hsuffix : earlier <:+ trail) : Sound tokens earlier := by
  induction trail with
  | nil => rwa [List.suffix_nil.1 hsuffix]
  | cons e trail ih =>
    rcases List.suffix_cons_iff.1 hsuffix with rfl | hsuffix
    · exact h
    · exact ih h.2 hsuffix

/-- After a sound trail, the walk stands before these tokens of the text.  Behind the end of the
text it stands before no tokens, as it does at the end. -/
structure At (s : TokenStream) (ts : List PlacedToken) (trail : List Event) : Prop where
  sound : Sound s.toList trail
  drop_eq : s.tokens.drop (position trail) = ts
  ne_eof : ∀ t ∈ ts, t.token ≠ .eof

variable {s : TokenStream} {t : PlacedToken} {ts rest : List PlacedToken}

namespace At

theorem length_add (h : At s ts trail) (hts : ts ≠ []) :
    position trail + ts.length = s.tokens.length := by
  have hlength := congrArg List.length h.drop_eq
  have hpos := List.length_pos_iff.2 hts
  rw [List.length_drop] at hlength
  omega

/-- With fewer tokens before it the walk stands further on. -/
theorem position_lt {trail' : List Event} (h : At s ts trail) (h' : At s rest trail')
    (hlt : rest.length < ts.length) : position trail < position trail' := by
  have hlength := congrArg List.length h.drop_eq
  have hlength' := congrArg List.length h'.drop_eq
  rw [List.length_drop] at hlength hlength'
  omega

theorem peekAt_eq (h : At s ts trail) (k : Nat) :
    (s.toList[position trail + k]?.map (·.token)).getD .eof = peek (ts.drop k) := by
  have hdrop : ts.drop k = s.tokens.drop (position trail + k) := by
    rw [← h.drop_eq, List.drop_drop]
  rw [hdrop, TokenStream.toList]
  rcases Nat.lt_or_ge (position trail + k) s.tokens.length with hlt | hge
  · rw [List.getElem?_append_left hlt, List.drop_eq_getElem_cons hlt,
      List.getElem?_eq_getElem hlt]
    rfl
  · rw [List.getElem?_append_right hge, List.drop_eq_nil_of_le hge]
    cases position trail + k - s.tokens.length <;> rfl

theorem line_eq (h : At s ts trail) :
    ((s.toList[position trail]?.or s.toList.getLast?).map (·.line)).getD 1
      = lineOf s.endLine ts := by
  rw [← h.drop_eq, TokenStream.toList]
  rcases Nat.lt_or_ge (position trail) s.tokens.length with hlt | hge
  · rw [List.getElem?_append_left hlt, List.drop_eq_getElem_cons hlt,
      List.getElem?_eq_getElem hlt]
    rfl
  · rw [List.getElem?_append_right hge, List.drop_eq_nil_of_le hge, List.getLast?_concat]
    cases position trail - s.tokens.length <;> rfl

theorem advanced (h : At s ts trail) :
    At s ts.tail (.advanced (if position trail < s.toList.length then position trail + 1
      else position trail) :: trail) where
  sound := by
    refine ⟨?_, h.sound⟩
    have hle := h.sound.position_le
    change ite _ _ _ ≤ _
    split <;> omega
  drop_eq := by
    have hlength : s.toList.length = s.tokens.length + 1 := by simp [TokenStream.toList]
    change s.tokens.drop (ite _ _ _) = _
    split
    · rw [← h.drop_eq, List.tail_drop]
    · rw [← h.drop_eq, List.drop_eq_nil_of_le (by omega), List.tail_nil]
  ne_eof := fun t ht => h.ne_eof t (List.mem_of_mem_tail ht)

/-- A token is consumed, and the walk goes back to it. -/
theorem steppedBack (h : At s (t :: ts) trail) :
    At s (t :: ts) (.steppedBack (position trail) :: .advanced (position trail + 1) :: trail) where
  sound := by
    have hlength := h.length_add (List.cons_ne_nil t ts)
    have hle : position trail + 1 ≤ s.toList.length := by
      simp only [TokenStream.toList, List.length_append, List.length_cons] at hlength ⊢
      omega
    exact ⟨⟨trail, rfl, rfl⟩, hle, h.sound⟩
  drop_eq := h.drop_eq
  ne_eof := h.ne_eof

theorem token_eq (h : At s (t :: ts) trail) :
    s.toList[position trail]?.map (·.token) = some t.token := by
  have hlength := h.length_add (List.cons_ne_nil t ts)
  have hlt : position trail < s.tokens.length := by
    simp only [List.length_cons] at hlength
    omega
  have hhead := h.drop_eq
  rw [List.drop_eq_getElem_cons hlt] at hhead
  rw [TokenStream.toList, List.getElem?_append_left hlt, List.getElem?_eq_getElem hlt,
    (List.cons.inj hhead).1]
  rfl

/-- An event that does not move the cursor. -/
theorem recorded {e : Event} (h : At s ts trail) (hfits : e.Fits s.toList trail)
    (hstays : position (e :: trail) = position trail) : At s ts (e :: trail) :=
  ⟨⟨hfits, h.sound⟩, hstays ▸ h.drop_eq, h.ne_eof⟩

end At

/-! ### Following a reader -/

/-- The run of a walk has come to an end as the reader does that gives this answer. -/
inductive Ends (s : TokenStream) : Except ReadError (α × List PlacedToken) →
    Option (Except ReadError α × List Event) → Prop
  | ok {a : α} {rest : List PlacedToken} {trail : List Event} (h : At s rest trail) :
    Ends s (.ok (a, rest)) (some (.ok a, trail))
  | error {e : ReadError} {trail : List Event} (h : Sound s.toList trail) :
    Ends s (.error e) (some (.error e, trail))

/-- The walk that leaves the tokens `ts` ends as the reader does that gives `r` for them. -/
def Follows (s : TokenStream) (m : Walk α) (ts : List PlacedToken)
    (r : Except ReadError (α × List PlacedToken)) : Prop :=
  ∀ trail, At s ts trail → Ends s r (run s.toList m trail)

namespace Follows

variable {m : Walk α} {f : α → Walk β} {r : Except ReadError (α × List PlacedToken)}
  {r' : Except ReadError (β × List PlacedToken)} {a : α} {e : ReadError}

theorem pure (a : α) : Follows s (pure a) ts (.ok (a, ts)) :=
  fun _ h => .ok h

theorem throw (e : ReadError) : Follows s (throw e : Walk α) ts (.error e) :=
  fun _ h => .error h.sound

/-- A walk before another one that answers in any case. -/
theorem andThen (hm : Follows s m ts (.ok (a, rest))) (hf : Follows s (f a) rest r') :
    Follows s (m >>= f) ts r' := by
  intro trail h
  have hends := hm trail h
  rw [run_bind]
  generalize run s.toList m trail = x at hends ⊢
  cases hends with
  | ok h' => exact hf _ h'

/-- A walk that fails before another one. -/
theorem orFail (hm : Follows s m ts (.error e)) : Follows s (m >>= f) ts (.error e) := by
  intro trail h
  have hends := hm trail h
  rw [run_bind]
  generalize run s.toList m trail = x at hends ⊢
  cases hends with
  | error hsound => exact .error hsound

theorem bind {g : α × List PlacedToken → Except ReadError (β × List PlacedToken)}
    (hm : Follows s m ts r) (hf : ∀ a rest, Follows s (f a) rest (g (a, rest))) :
    Follows s (m >>= f) ts (r >>= g) := by
  cases r with
  | ok p => exact hm.andThen (hf p.1 p.2)
  | error e => exact hm.orFail

/-- A walk that reads nothing but what is to be skipped. -/
theorem skip {x : Except ReadError (List PlacedToken)} {m : Walk Unit} {f : Unit → Walk β}
    {g : List PlacedToken → Except ReadError (β × List PlacedToken)}
    (hm : Follows s m ts (x >>= fun rest => .ok ((), rest)))
    (hf : ∀ rest, Follows s (f ()) rest (g rest)) : Follows s (m >>= f) ts (x >>= g) := by
  cases x with
  | ok rest => exact hm.andThen (hf rest)
  | error e => exact hm.orFail

theorem ite_pos {c : Prop} [Decidable c] {m' : Walk α} (hc : c) (h : Follows s m ts r) :
    Follows s (if c then m else m') ts r := by
  rwa [if_pos hc]

theorem ite_neg {c : Prop} [Decidable c] {m' : Walk α} (hc : ¬ c) (h : Follows s m' ts r) :
    Follows s (if c then m else m') ts r := by
  rwa [if_neg hc]

/-- The end of the text is no token before the cursor. -/
theorem of_ne_eof (h : (∀ t ∈ ts, t.token ≠ .eof) → Follows s m ts r) : Follows s m ts r :=
  fun trail hat => h hat.ne_eof trail hat

/-! #### Steps at the cursor -/

theorem peekAt (k : Nat) : Follows s (peekAt k) ts (.ok (peek (ts.drop k), ts)) := by
  intro trail h
  rw [run_peekAt, h.peekAt_eq]
  exact .ok h

theorem line : Follows s line ts (.ok (lineOf s.endLine ts, ts)) := by
  intro trail h
  rw [run_line, h.line_eq]
  exact .ok h

theorem advance : Follows s advance ts (.ok (peek ts, ts.tail)) := by
  intro trail h
  have hpeek := h.peekAt_eq 0
  rw [Nat.add_zero, List.drop_zero] at hpeek
  rw [run_advance, hpeek]
  exact .ok h.advanced

/-! The same at the head of the tokens. -/

theorem peek_cons : Follows s (Cursor.peekAt 0) (t :: ts) (.ok (t.token, t :: ts)) := peekAt 0

theorem peek_nil : Follows s (Cursor.peekAt 0) [] (.ok (.eof, [])) := peekAt 0

theorem advance_cons : Follows s Cursor.advance (t :: ts) (.ok (t.token, ts)) := advance

theorem advance_nil : Follows s Cursor.advance [] (.ok (.eof, [])) := advance

/-- A step that is taken back. -/
theorem stepBack {f : Token → Walk β} {m : Walk β} {r' : Except ReadError (β × List PlacedToken)}
    (hf : f t.token = Cursor.stepBack >>= fun _ => m) (hm : Follows s m (t :: ts) r') :
    Follows s (Cursor.advance >>= f) (t :: ts) r' := by
  intro trail h
  have hlt : position trail < s.toList.length := by
    have hlength := h.length_add (List.cons_ne_nil t ts)
    simp only [TokenStream.toList, List.length_append, List.length_cons] at hlength ⊢
    omega
  rw [run_bind, run_advance, h.token_eq, if_pos hlt]
  dsimp only [Option.bind_some, Option.getD_some]
  rw [hf, run_bind, run_stepBack]
  exact hm _ h.steppedBack

/-- The skipping of a block begins at its brace. -/
theorem enteredBlock (ht : t.token = .mark .openBrace) :
    Follows s (record .enteredBlock) (t :: ts) (.ok ((), t :: ts)) :=
  fun _ h => .ok (h.recorded (h.token_eq.trans (congrArg some ht)) rfl)

/-- The counter of open braces is lowered while one is open. -/
theorem closedBrace {depth : Nat} (hdepth : 1 ≤ depth) :
    Follows s (record (.closedBrace depth)) ts (.ok ((), ts)) :=
  fun _ h => .ok (h.recorded hdepth rfl)

theorem fail (expected : Expectation) :
    Follows s (fail expected : Walk α) ts (unexpected s.endLine expected ts) :=
  line.andThen ((peekAt 0).andThen (throw _))

theorem ofExcept (x : Except ReadError α) :
    Follows s (MonadExcept.ofExcept x) ts (x >>= fun a => .ok (a, ts)) := by
  cases x with
  | ok a => exact pure a
  | error e => exact throw e

/-! #### Loops -/

section Rounds

variable {body : Loop σ α} {x y : σ}

/-- The last round. -/
theorem rounds_done (h : Follows s (body x) ts (.ok (.inr a, rest))) :
    Follows s (rounds body x) ts (.ok (a, rest)) := by
  intro trail hat
  have hends := h trail hat
  rw [run_rounds]
  generalize run s.toList (body x) trail = o at hends ⊢
  cases hends with
  | ok hat' => exact .ok hat'

/-- A round that fails. -/
theorem rounds_error (h : Follows s (body x) ts (.error e)) :
    Follows s (rounds body x) ts (.error e) := by
  intro trail hat
  have hends := h trail hat
  rw [run_rounds]
  generalize run s.toList (body x) trail = o at hends ⊢
  cases hends with
  | error hsound => exact .error hsound

/-- A round that consumes tokens, and the rounds after it. -/
theorem rounds_next (h : Follows s (body x) ts (.ok (.inl y, rest)))
    (hlt : rest.length < ts.length) (hnext : Follows s (rounds body y) rest r) :
    Follows s (rounds body x) ts r := by
  intro trail hat
  have hends := h trail hat
  rw [run_rounds]
  generalize run s.toList (body x) trail = o at hends ⊢
  cases hends with
  | ok hat' => exact hnext _ (hat'.recorded (hat.position_lt hat' hlt) rfl)

end Rounds

end Follows

/-! ### Loops that gather -/

/-- The answer of a reader, with these entries in front. -/
def withFront (front : List α) (r : Except ReadError (List α × List PlacedToken)) :
    Except ReadError (List α × List PlacedToken) :=
  r >>= fun p => .ok (front ++ p.1, p.2)

theorem withFront_nil (r : Except ReadError (List α × List PlacedToken)) : withFront [] r = r := by
  cases r <;> rfl

theorem withFront_append (front as : List α)
    (r : Except ReadError (List α × List PlacedToken)) :
    withFront front (r >>= fun p => .ok (as ++ p.1, p.2)) = withFront (front ++ as) r := by
  cases r with
  | error e => rfl
  | ok p => simp only [withFront, bind, Except.bind, List.append_assoc]

/-- A round of a loop does what the reader `R` does first at these tokens.  The loop gathers entries
at the end of a list, the reader puts them in front of what it reads then. -/
inductive Gathers (s : TokenStream)
    (R : List PlacedToken → Except ReadError (List α × List PlacedToken))
    (body : Loop (List α) (List α)) (front : List α) (ts : List PlacedToken) : Prop
  | done (rest : List PlacedToken) (h : Follows s (body front) ts (.ok (.inr front, rest)))
    (hR : R ts = .ok ([], rest))
  | failed (e : ReadError) (h : Follows s (body front) ts (.error e)) (hR : R ts = .error e)
  | skipped (rest : List PlacedToken) (h : Follows s (body front) ts (.ok (.inl front, rest)))
    (hlt : rest.length < ts.length) (hR : R ts = R rest)
  | added (a : α) (rest : List PlacedToken)
    (h : Follows s (body front) ts (.ok (.inl (front ++ [a]), rest)))
    (hlt : rest.length < ts.length) (hR : R ts = do let (as, rest) ← R rest; return (a :: as, rest))

section Gathers

variable {R : List PlacedToken → Except ReadError (List α × List PlacedToken)}
  {body : Loop (List α) (List α)}

/-- A round that reads an entry, after steps that leave the tokens as they are. -/
theorem Gathers.of_read {front : List α} {ts : List PlacedToken} {entry : Walk α}
    {x : Except ReadError (α × List PlacedToken)}
    (hbody : ∀ r, Follows s (entry >>= fun a => pure (.inl (front ++ [a]))) ts r →
      Follows s (body front) ts r)
    (hentry : Follows s entry ts x)
    (hlt : ∀ a rest, x = .ok (a, rest) → rest.length < ts.length)
    (hR : R ts = do
      let (a, rest) ← x
      let (as, rest) ← R rest
      return (a :: as, rest)) : Gathers s R body front ts := by
  cases x with
  | error e => exact .failed e (hbody _ hentry.orFail) hR
  | ok p => exact .added p.1 p.2 (hbody _ (hentry.andThen (.pure _))) (hlt p.1 p.2 rfl) hR

/-- A round that skips what is left out, after steps that leave the tokens as they are. -/
theorem Gathers.of_skip {front : List α} {ts : List PlacedToken} {skipping : Walk Unit}
    {x : Except ReadError (List PlacedToken)}
    (hbody : ∀ r, Follows s (skipping >>= fun _ => pure (.inl front)) ts r →
      Follows s (body front) ts r)
    (hskip : Follows s skipping ts (x >>= fun rest => .ok ((), rest)))
    (hlt : ∀ rest, x = .ok rest → rest.length < ts.length) (hR : R ts = x >>= R) :
    Gathers s R body front ts := by
  cases x with
  | error e => exact .failed e (hbody _ hskip.orFail) hR
  | ok rest => exact .skipped rest (hbody _ (hskip.andThen (.pure _))) (hlt rest rfl) hR

theorem follows_gathered
    (h : ∀ front ts, (∀ t ∈ ts, t.token ≠ .eof) → Gathers s R body front ts) (front : List α)
    (ts : List PlacedToken) : Follows s (rounds body front) ts (withFront front (R ts)) := by
  induction hn : ts.length using Nat.strongRecOn generalizing front ts with
  | _ n ih =>
    subst hn
    refine Follows.of_ne_eof fun hne => ?_
    cases h front ts hne with
    | done rest h hR =>
      rw [hR, withFront]
      simpa [bind, Except.bind] using Follows.rounds_done h
    | failed e h hR =>
      rw [hR]
      exact Follows.rounds_error h
    | skipped rest h hlt hR =>
      rw [hR]
      exact Follows.rounds_next h hlt (ih _ hlt _ _ rfl)
    | added a rest h hlt hR =>
      have hfront : withFront front (R ts) = withFront (front ++ [a]) (R rest) := by
        rw [hR]
        exact withFront_append front [a] (R rest)
      rw [hfront]
      exact Follows.rounds_next h hlt (ih _ hlt _ _ rfl)

/-- A loop that starts with nothing, by what a round does at the end of the text and at a token. -/
theorem follows_rounds (hnil : ∀ front, Gathers s R body front [])
    (hcons : ∀ front t ts, t.token ≠ .eof → Gathers s R body front (t :: ts))
    (ts : List PlacedToken) : Follows s (rounds body []) ts (R ts) := by
  rw [← withFront_nil (R ts)]
  refine follows_gathered (fun front ts hne => ?_) [] ts
  cases ts with
  | nil => exact hnil front
  | cons t ts => exact hcons front t ts (hne t List.mem_cons_self)

end Gathers

end Mockup.Schema.Cursor
