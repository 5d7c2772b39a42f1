import Mockup.Schema.Parser.Reference

/-!
# Reading columns

* `readType`: the declared type with its arguments;
* `bareConstraint`: a constraint word outside of brackets;
* `Setting`, `readSetting`: the settings in brackets;
* `ColumnDraft`: a column with the references in its settings;
* `readColumn`: a whole column.
-/

namespace Mockup.Schema

/-- Reads the arguments of a type up to the closing parenthesis; commas between them are left
out. -/
def typeArguments (line : Nat) :
    List PlacedToken → Except ReadError (List String × List PlacedToken)
  | [] => .error ⟨line, .unexpected .newline .typeParen⟩
  | t :: ts =>
    if t.token = .mark .closeParen then .ok ([], ts)
    else if t.token = .newline then .error ⟨line, .unexpected .newline .typeParen⟩
    else if t.token = .mark .comma then typeArguments line ts
    else do
      let (args, rest) ← typeArguments line ts
      return (t.token.text :: args, rest)

/-- Reads the type of a column, with its arguments. -/
def readType (line : Nat) (column : String) (ts : List PlacedToken) :
    Except ReadError (String × List PlacedToken) :=
  match qualifiedName ts with
  | none => .error ⟨line, .missingColumnType column⟩
  | some (name, ts) => match ts with
    | t :: rest =>
      if t.token = .mark .openParen then do
        let (args, rest) ← typeArguments line rest
        return (name ++ "(" ++ ",".intercalate args ++ ")", rest)
      else .ok (name, t :: rest)
    | [] => .ok (name, [])

/-- Applies a constraint word that stands after the type, outside of brackets; two words may belong
together.  Answers the tokens after the constraint. -/
def bareConstraint (c : Column) (word : String) (ts : List PlacedToken) :
    Column × List PlacedToken :=
  let lower := Text.lower word
  let follower := peek ts
  if lower = "primary" ∧ follower.isKeyword "key" then
    ({ c with primaryKey := true, constraints := c.constraints ++ ["primary key"] }, ts.tail)
  else if lower = "not" ∧ follower.isKeyword "null" then
    ({ c with notNull := true, constraints := c.constraints ++ ["not null"] }, ts.tail)
  else
    ({ c with
        primaryKey := c.primaryKey || lower == "pk"
        unique := c.unique || lower == "unique"
        constraints := c.constraints ++ [lower] }, ts)

/-- The text of a default value: a literal loses its quotes, and a sign stays next to its number. -/
def defaultOf : List Token → String
  | [.str s] => s
  | [.mark .dash, .num n] => "-" ++ n
  | ts => Token.join ts

/-- The words of a setting before its colon, in small letters. -/
def settingName (group : List Token) : String :=
  " ".intercalate ((group.takeWhile (· != .mark .colon)).map fun t => Text.lower t.text)

/-- The tokens of a setting after its first colon. -/
def settingValue? (group : List Token) : Option (List Token) :=
  match group.dropWhile (· != .mark .colon) with
  | [] => none
  | _ :: value => some value

/-- The settings of a column in brackets.  `other` is kept as text only. -/
inductive Setting where
  | primaryKey
  | notNull
  | unique
  | default (text : String)
  | note (text : Option String)
  | ref (kind : Cardinality) (target : ColumnRef)
  | other
  deriving DecidableEq, Repr

/-- Reads one setting of a column that starts on the given line. -/
def readSetting (line : Nat) (group : List Token) : Except ReadError Setting :=
  match settingValue? group with
  | none =>
    let name := settingName group
    .ok (if name = "pk" ∨ name = "primary key" then .primaryKey
      else if name = "not null" then .notNull
      else if name = "unique" then .unique
      else .other)
  | some value =>
    let name := settingName group
    if name = "default" then .ok (.default (defaultOf value))
    else if name = "note" then .ok (.note (value.head?.map Token.content))
    else if name = "ref" then
      match inlineRef line value with
      | .error e => .error e
      | .ok (kind, target) => .ok (.ref kind target)
    else .ok .other

/-- A column as read so far, and the references in its settings, in order. -/
structure ColumnDraft where
  column : Column
  refs : List (Cardinality × ColumnRef) := []

/-- Applies a setting, and keeps its text. -/
def ColumnDraft.apply (d : ColumnDraft) (setting : Setting) (written : String) : ColumnDraft :=
  let c := { d.column with constraints := d.column.constraints ++ [written] }
  match setting with
  | .primaryKey => { d with column := { c with primaryKey := true } }
  | .notNull => { d with column := { c with notNull := true } }
  | .unique => { d with column := { c with unique := true } }
  | .default text => { d with column := { c with defaultValue := some text } }
  | .note text => { d with column := { c with note := text } }
  | .ref kind target =>
    { column := { c with references := some target }, refs := d.refs ++ [(kind, target)] }
  | .other => { d with column := c }

/-- Applies settings in brackets, one group of tokens each, up to the first faulty one. -/
def applySettings (line : Nat) : ColumnDraft → List (List Token) → Except ReadError ColumnDraft
  | d, [] => .ok d
  | d, group :: groups =>
    match readSetting line group with
    | .error e => .error e
    | .ok setting => applySettings line (d.apply setting (Token.join group)) groups

theorem length_bareConstraint (c : Column) (word : String) (ts : List PlacedToken) :
    (bareConstraint c word ts).2.length ≤ ts.length := by
  simp only [bareConstraint]
  split
  · simp
  · split <;> simp

/-- Reads constraints and settings up to the end of the column. -/
def columnTail (last line : Nat) (d : ColumnDraft) (ts : List PlacedToken) :
    Except ReadError (ColumnDraft × List PlacedToken) :=
  match ts with
  | [] => .ok (d, [])
  | t :: ts =>
    if endsLine t.token then .ok (d, t :: ts)
    else match t.token with
      | .mark .openBracket =>
        match _h : settingGroups t.line 0 [] ts with
        | .error e => .error e
        | .ok (groups, rest) => match applySettings line d groups with
          | .error e => .error e
          | .ok d => columnTail last line d rest
      | .ident word =>
        let next := bareConstraint d.column word ts
        columnTail last line { d with column := next.1 } next.2
      | _ => unexpected last .columnSetting (t :: ts)
termination_by ts.length
decreasing_by
  · have := length_settingGroups _h; simp only [List.length_cons]; omega
  · have := length_bareConstraint d.column word ts
    simp only [List.length_cons]; omega

/-- Reads a column from the tokens after its name. -/
def readColumn (last line : Nat) (name : String) (ts : List PlacedToken) :
    Except ReadError (ColumnDraft × List PlacedToken) :=
  match readType line name ts with
  | .error e => .error e
  | .ok (dataType, rest) => columnTail last line { column := { name, dataType } } rest

theorem length_typeArguments {line : Nat} {ts rest : List PlacedToken} {args : List String}
    (h : typeArguments line ts = .ok (args, rest)) : rest.length < ts.length := by
  induction ts generalizing args with
  | nil => simp [typeArguments] at h
  | cons t ts ih =>
    simp only [List.length_cons]
    unfold typeArguments at h
    split at h
    · cases h; omega
    split at h
    · simp at h
    split at h
    · have := ih h; omega
    · obtain ⟨_, hr, hp⟩ := exists_ok_of_bind h
      cases hp
      have := ih hr
      omega

theorem length_readType {line : Nat} {column : String} {ts rest : List PlacedToken}
    {dataType : String} (h : readType line column ts = .ok (dataType, rest)) :
    rest.length < ts.length := by
  unfold readType at h
  split at h
  · simp at h
  · next name ts' hq =>
    have hlt := length_qualifiedName hq
    split at h
    · next t rest' =>
      simp only [List.length_cons] at hlt
      split at h
      · obtain ⟨_, hr, hp⟩ := exists_ok_of_bind h
        cases hp
        have := length_typeArguments hr
        omega
      · cases h; simpa using hlt
    · cases h; simpa using hlt

theorem length_columnTail {last line : Nat} {d d' : ColumnDraft} {ts rest : List PlacedToken}
    (h : columnTail last line d ts = .ok (d', rest)) : rest.length ≤ ts.length := by
  fun_induction columnTail last line d ts with
  | case1 => cases h; simp
  | case2 => cases h; simp
  | case3 => simp at h
  | case4 => simp at h
  | case5 d t ts _ _ groups rest' hg d'' _ ih =>
    have := length_settingGroups hg
    have := ih h
    simp only [List.length_cons]; omega
  | case6 d t ts _ word _ next ih =>
    have hn : next.2.length ≤ ts.length := length_bareConstraint d.column word ts
    have := ih h
    simp only [List.length_cons]; omega
  | case7 => simp [unexpected] at h

theorem length_readColumn {last line : Nat} {name : String} {d : ColumnDraft}
    {ts rest : List PlacedToken} (h : readColumn last line name ts = .ok (d, rest)) :
    rest.length < ts.length := by
  unfold readColumn at h
  split at h
  · simp at h
  · next hr =>
    have := length_readType hr
    have := length_columnTail h
    omega

end Mockup.Schema
