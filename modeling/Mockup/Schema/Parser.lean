import Mockup.Schema.Parser.Table

/-!
# Reading a schema text

* `readEnum`: an enumeration;
* `skipStatement`: a statement of another kind;
* `readStatements`: all statements of a text;
* `parse`: the schema that a text declares.
-/

namespace Mockup.Schema

/-! ### Enumerations -/

/-- Reads the values of an enumeration up to the closing brace; settings are skipped. -/
def enumValues (opened : Nat) (ts : List PlacedToken) :
    Except ReadError (List String × List PlacedToken) :=
  match ts with
  | [] => .error ⟨opened, .unterminatedBlock .enum⟩
  | t :: ts =>
    if t.token = .mark .closeBrace then .ok ([], ts)
    else if t.token = .mark .comma ∨ t.token = .newline then enumValues opened ts
    else if t.token = .mark .openBracket then
      match _h : dropSettings t.line ts with
      | .error e => .error e
      | .ok rest => enumValues opened rest
    else do
      let (values, rest) ← enumValues opened ts
      return (t.token.content :: values, rest)
termination_by ts.length
decreasing_by
  · simp
  · have := length_dropSettings _h; simp only [List.length_cons]; omega
  · simp

theorem length_enumValues {opened : Nat} {ts rest : List PlacedToken} {values : List String}
    (h : enumValues opened ts = .ok (values, rest)) : rest.length < ts.length := by
  fun_induction enumValues opened ts generalizing values with
  | case1 => simp at h
  | case2 => cases h; simp
  | case3 t ts _ _ ih => have := ih h; simp only [List.length_cons]; omega
  | case4 => simp at h
  | case5 t ts _ _ _ rest' hs ih =>
    have := length_dropSettings hs
    have := ih h
    simp only [List.length_cons]; omega
  | case6 t ts _ _ _ ih =>
    obtain ⟨_, hr, hp⟩ := exists_ok_of_bind h
    cases hp
    have := ih hr
    simp only [List.length_cons]; omega

/-- Reads an enumeration from the token after its keyword. -/
def readEnum (last : Nat) (ts : List PlacedToken) :
    Except ReadError (Statement × List PlacedToken) := do
  let some (name, rest) := qualifiedName ts | unexpected last .enumName ts
  let rest ← expectBrace last .enumBrace rest
  let (values, rest) ← enumValues (lineOf last ts) rest
  return (.enum ⟨name, values⟩, rest)

theorem length_readEnum {last : Nat} {ts rest : List PlacedToken} {s : Statement}
    (h : readEnum last ts = .ok (s, rest)) : rest.length < ts.length := by
  unfold readEnum at h
  cases hq : qualifiedName ts with
  | none => rw [hq] at h; cases h
  | some p =>
    rw [hq] at h
    obtain ⟨_, hb, h⟩ := exists_ok_of_bind h
    obtain ⟨_, hv, h⟩ := exists_ok_of_bind h
    cases h
    have := length_qualifiedName hq
    have := length_expectBrace hb
    have := length_enumValues hv
    omega

/-! ### Other statements -/

/-- Skips the rest of a block in which `depth` braces are open. -/
def skipBraces (line depth : Nat) : List PlacedToken → Except ReadError (List PlacedToken)
  | [] => .error ⟨line, .unterminatedBlock .statement⟩
  | t :: ts =>
    if t.token = .mark .openBrace then skipBraces line (depth + 1) ts
    else if t.token = .mark .closeBrace then
      if depth = 1 then .ok ts else skipBraces line (depth - 1) ts
    else skipBraces line depth ts

theorem length_skipBraces {line depth : Nat} {ts rest : List PlacedToken}
    (h : skipBraces line depth ts = .ok rest) : rest.length < ts.length := by
  fun_induction skipBraces line depth ts <;> simp_all <;> omega

/-- Skips up to the end of the line, or to the end of the block that opens on it. -/
def skipStatement (line : Nat) : List PlacedToken → Except ReadError (List PlacedToken)
  | [] => .ok []
  | t :: ts =>
    if t.token = .newline then .ok (t :: ts)
    else if t.token = .mark .openBrace then skipBraces line 1 ts
    else skipStatement line ts

theorem length_skipStatement {line : Nat} {ts rest : List PlacedToken}
    (h : skipStatement line ts = .ok rest) : rest.length ≤ ts.length := by
  induction ts with
  | nil => simp_all [skipStatement]
  | cons t ts ih =>
    unfold skipStatement at h
    split at h
    · cases h; simp
    split at h
    · have := length_skipBraces h; simp only [List.length_cons]; omega
    · have := ih h; simp only [List.length_cons]; omega

theorem length_skipStatement_lt {line : Nat} {t : PlacedToken} {ts rest : List PlacedToken}
    (ht : t.token ≠ .newline) (h : skipStatement line (t :: ts) = .ok rest) :
    rest.length < (t :: ts).length := by
  unfold skipStatement at h
  simp only [ht, if_false] at h
  simp only [List.length_cons]
  split at h
  · have := length_skipBraces h; omega
  · have := length_skipStatement h; omega

/-! ### Whole texts -/

/-- Reads the statement that starts with the token `t`, which is no line end. -/
def readStatement (last : Nat) (t : PlacedToken) (ts : List PlacedToken) :
    Except ReadError (Statement × List PlacedToken) :=
  if t.token.isKeyword "table" then readTable last ts
  else if t.token.isKeyword "ref" then
    match readRefs last ts with
    | .error e => .error e
    | .ok (rs, rest) => .ok (.refs rs, rest)
  else if t.token.isKeyword "enum" then readEnum last ts
  else match skipStatement t.line (t :: ts) with
    | .error e => .error e
    | .ok rest => .ok (.other, rest)

theorem length_readStatement {last : Nat} {t : PlacedToken} {ts rest : List PlacedToken}
    {s : Statement} (ht : t.token ≠ .newline)
    (h : readStatement last t ts = .ok (s, rest)) : rest.length < (t :: ts).length := by
  unfold readStatement at h
  simp only [List.length_cons]
  split at h
  · have := length_readTable h; omega
  split at h
  · split at h
    · simp at h
    · next hr => cases h; have := length_readRefs hr; omega
  split at h
  · have := length_readEnum h; omega
  · split at h
    · simp at h
    · next hs =>
      cases h
      simpa using length_skipStatement_lt ht hs

/-- Reads all statements. -/
def readStatements (last : Nat) (ts : List PlacedToken) : Except ReadError (List Statement) :=
  match ts with
  | [] => .ok []
  | t :: ts =>
    if _ht : t.token = .newline then readStatements last ts
    else match _h : readStatement last t ts with
      | .error e => .error e
      | .ok (s, rest) => (s :: ·) <$> readStatements last rest
termination_by ts.length
decreasing_by
  · simp
  · exact length_readStatement _ht _h

/-- The schema that a text declares. -/
def parse (text : String) : Except ReadError Schema := do
  let stream ← scan text
  return ofStatements (← readStatements stream.endLine stream.tokens)

end Mockup.Schema
