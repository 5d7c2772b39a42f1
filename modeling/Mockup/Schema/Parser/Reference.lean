import Mockup.Schema.Parser.Basic
import Mockup.Schema.Statement

/-!
# Reading references

* `endpoint`: one end of a reference, a table and its column;
* `inlineRef`: the value of a `ref` setting;
* `reference`: a reference on a line of its own;
* `readRefs`: the statement that declares one reference or a block of them.
-/

namespace Mockup.Schema

/-- Reads names joined by points, at least two of them: the last two are a table and its column. -/
def endpoint? : List Token → Option ColumnRef
  | [table, .mark .dot, column] => do return ⟨← table.name?, ← column.name?⟩
  | qualifier :: .mark .dot :: ts => qualifier.name? *> endpoint? ts
  | _ => none

/-- Reads one end of a reference on the given line. -/
def endpoint (line : Nat) (ts : List Token) : Except ReadError ColumnRef :=
  match endpoint? ts with
  | some c => .ok c
  | none => .error ⟨line, .malformedReference (Token.join ts)⟩

/-- Reads the value of a `ref` setting: a sign and the other end. -/
def inlineRef (line : Nat) (ts : List Token) : Except ReadError (Cardinality × ColumnRef) :=
  match ts with
  | [] => .error ⟨line, .malformedReference ""⟩
  | t :: rest => match t.cardinality? with
    | some kind => do return (kind, ← endpoint line rest)
    | none => .error ⟨line, .malformedReference (Token.join ts)⟩

/-- Reads a reference from the tokens of its line: the first sign parts the two ends. -/
def reference (line : Nat) (ts : List Token) : Except ReadError Relationship :=
  let before := ts.takeWhile (·.cardinality?.isNone)
  match ts.dropWhile (·.cardinality?.isNone) with
  | [] => .error ⟨line, .malformedReference (Token.join ts)⟩
  | sign :: after => do
    let source ← endpoint line before
    let target ← endpoint line after
    return ⟨sign.cardinality?.getD .manyToOne, source, target⟩

/-- The tokens of a reference's line, without settings. -/
def refTokens (ts : List PlacedToken) : Except ReadError (List Token × List PlacedToken) :=
  match ts with
  | [] => .ok ([], [])
  | t :: ts =>
    if endsLine t.token then .ok ([], t :: ts)
    else if t.token = .mark .openBracket then
      match _h : dropSettings t.line ts with
      | .error e => .error e
      | .ok rest => refTokens rest
    else do
      let (tokens, rest) ← refTokens ts
      return (t.token :: tokens, rest)
termination_by ts.length
decreasing_by
  · have := length_dropSettings _h; simp only [List.length_cons]; omega
  · simp

theorem length_refTokens {ts rest : List PlacedToken} {tokens : List Token}
    (h : refTokens ts = .ok (tokens, rest)) : rest.length ≤ ts.length := by
  fun_induction refTokens ts generalizing tokens with
  | case1 => cases h; simp
  | case2 => cases h; simp
  | case3 => simp at h
  | case4 t ts _ _ rest' hs ih =>
    have := length_dropSettings hs
    have := ih h
    simp only [List.length_cons]; omega
  | case5 t ts _ _ ih =>
    obtain ⟨_, hr, hp⟩ := exists_ok_of_bind h
    cases hp
    have := ih hr
    simp only [List.length_cons]; omega

/-- A line that does not start with its end leaves fewer tokens. -/
theorem length_refTokens_lt {t : PlacedToken} {ts rest : List PlacedToken} {tokens : List Token}
    (ht : endsLine t.token = false) (h : refTokens (t :: ts) = .ok (tokens, rest)) :
    rest.length < (t :: ts).length := by
  unfold refTokens at h
  simp only [ht, Bool.false_eq_true, if_false] at h
  simp only [List.length_cons]
  split at h
  · split at h
    · simp at h
    · next rest' hs =>
      have := length_dropSettings hs
      have := length_refTokens h
      omega
  · obtain ⟨_, hr, hp⟩ := exists_ok_of_bind h
    cases hp
    have := length_refTokens hr
    omega

/-- Reads one reference up to the end of its line. -/
def refLine (last : Nat) (ts : List PlacedToken) :
    Except ReadError (Relationship × List PlacedToken) :=
  match refTokens ts with
  | .error e => .error e
  | .ok (tokens, rest) => match reference (lineOf last ts) tokens with
    | .error e => .error e
    | .ok r => .ok (r, rest)

theorem length_refLine_lt {last : Nat} {t : PlacedToken} {ts rest : List PlacedToken}
    {r : Relationship} (ht : endsLine t.token = false)
    (h : refLine last (t :: ts) = .ok (r, rest)) : rest.length < (t :: ts).length := by
  unfold refLine at h
  split at h
  · simp at h
  · next tokens rest' ht' =>
    split at h
    · simp at h
    · cases h; exact length_refTokens_lt ht ht'

theorem length_refLine {last : Nat} {ts rest : List PlacedToken} {r : Relationship}
    (h : refLine last ts = .ok (r, rest)) : rest.length ≤ ts.length := by
  unfold refLine at h
  split at h
  · simp at h
  · next tokens rest' ht' =>
    split at h
    · simp at h
    · cases h; exact length_refTokens ht'

/-- Reads references, one a line, up to the closing brace. -/
def refBlock (last opened : Nat) (ts : List PlacedToken) :
    Except ReadError (List Relationship × List PlacedToken) :=
  match ts with
  | [] => .error ⟨opened, .unterminatedBlock .ref⟩
  | t :: ts =>
    if t.token = .newline then refBlock last opened ts
    else if t.token = .mark .closeBrace then .ok ([], ts)
    else match _h : refLine last (t :: ts) with
      | .error e => .error e
      | .ok (r, rest) => do
        let (rs, rest) ← refBlock last opened rest
        return (r :: rs, rest)
termination_by ts.length
decreasing_by
  · simp
  · next hn hb =>
    refine length_refLine_lt ?_ _h
    cases ht : t.token with
    | mark m => cases m <;> simp_all [endsLine]
    | _ => simp_all [endsLine]

/-- The tokens after one name at the head, if there is one. -/
def skipName (ts : List PlacedToken) : List PlacedToken :=
  match ts with
  | t :: rest => if t.token.name?.isSome then rest else t :: rest
  | [] => []

/-- Reads what follows the keyword of a reference: an optional name, then a colon and one reference,
or braces with many. -/
def readRefs (last : Nat) (ts : List PlacedToken) :
    Except ReadError (List Relationship × List PlacedToken) :=
  match skipName ts with
  | t :: rest =>
    if t.token = .mark .colon then do
      let (r, rest) ← refLine last rest
      return ([r], rest)
    else if t.token = .mark .openBrace then refBlock last t.line rest
    else unexpected last .refBody (t :: rest)
  | [] => unexpected last .refBody []

theorem length_refBlock {last opened : Nat} {ts rest : List PlacedToken}
    {rs : List Relationship} (h : refBlock last opened ts = .ok (rs, rest)) :
    rest.length < ts.length := by
  fun_induction refBlock last opened ts generalizing rs with
  | case1 => simp at h
  | case2 t ts _ ih => have := ih h; simp only [List.length_cons]; omega
  | case3 => cases h; simp
  | case4 => simp at h
  | case5 t ts _ _ r rest' hl ih =>
    obtain ⟨_, hr, hp⟩ := exists_ok_of_bind h
    cases hp
    have := ih hr
    have := length_refLine hl
    omega

theorem length_skipName (ts : List PlacedToken) : (skipName ts).length ≤ ts.length := by
  unfold skipName
  split
  · split <;> simp
  · simp

theorem length_readRefs {last : Nat} {ts rest : List PlacedToken} {rs : List Relationship}
    (h : readRefs last ts = .ok (rs, rest)) : rest.length < ts.length := by
  have hle := length_skipName ts
  unfold readRefs at h
  split at h
  · next t rest' heq =>
    rw [heq] at hle
    simp only [List.length_cons] at hle
    split at h
    · obtain ⟨_, hr, hp⟩ := exists_ok_of_bind h
      cases hp
      have := length_refLine hr
      omega
    split at h
    · have := length_refBlock h; omega
    · simp [unexpected] at h
  · simp [unexpected] at h

end Mockup.Schema
