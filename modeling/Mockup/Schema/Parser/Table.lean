import Mockup.Schema.Parser.Column

/-!
# Reading tables

* `readIndexes`: the indexes of a table;
* `readItem`: a note, the indexes or a column;
* `readTable`: a whole table.
-/

namespace Mockup.Schema

/-! ### Indexes -/

/-- Reads the columns of an index up to the closing parenthesis; commas between them are left
out. -/
def indexColumns (last : Nat) :
    List PlacedToken → Except ReadError (List String × List PlacedToken)
  | [] => unexpected last .indexParen []
  | t :: ts =>
    if t.token = .mark .closeParen then .ok ([], ts)
    else if t.token = .newline then unexpected last .indexParen ts
    else if t.token = .mark .comma then indexColumns last ts
    else do
      let (columns, rest) ← indexColumns last ts
      return (t.token.content :: columns, rest)

/-- Reads the settings of an index, if there are any. -/
def indexSettings (ts : List PlacedToken) :
    Except ReadError (List String × List PlacedToken) :=
  match ts with
  | [] => .ok ([], [])
  | t :: rest =>
    if t.token = .mark .openBracket then
      match settingGroups t.line 0 [] rest with
      | .error e => .error e
      | .ok (groups, rest) => .ok (groups.map Token.join, rest)
    else .ok ([], t :: rest)

theorem length_indexColumns {last : Nat} {ts rest : List PlacedToken} {columns : List String}
    (h : indexColumns last ts = .ok (columns, rest)) : rest.length < ts.length := by
  induction ts generalizing columns with
  | nil => simp [indexColumns, unexpected] at h
  | cons t ts ih =>
    simp only [List.length_cons]
    unfold indexColumns at h
    split at h
    · cases h; omega
    split at h
    · simp [unexpected] at h
    split at h
    · have := ih h; omega
    · obtain ⟨_, hr, hp⟩ := exists_ok_of_bind h
      cases hp
      have := ih hr
      omega

theorem length_indexSettings {ts rest : List PlacedToken} {settings : List String}
    (h : indexSettings ts = .ok (settings, rest)) : rest.length ≤ ts.length := by
  unfold indexSettings at h
  split at h
  · cases h; simp
  · next t rest' =>
    split at h
    · split at h
      · simp at h
      · next hg =>
        cases h
        have := length_settingGroups hg
        simp only [List.length_cons]; omega
    · cases h; simp

/-- Reads the columns of one index: many in parentheses, or a single token. -/
def indexHead (last : Nat) (t : PlacedToken) (ts : List PlacedToken) :
    Except ReadError (List String × List PlacedToken) :=
  if t.token = .mark .openParen then indexColumns last ts else .ok ([t.token.content], ts)

theorem length_indexHead {last : Nat} {t : PlacedToken} {ts rest : List PlacedToken}
    {columns : List String} (h : indexHead last t ts = .ok (columns, rest)) :
    rest.length ≤ ts.length := by
  unfold indexHead at h
  split at h
  · exact Nat.le_of_lt (length_indexColumns h)
  · cases h; simp

/-- Reads indexes up to the closing brace; `opened` is the line of their table. -/
def readIndexes (last opened : Nat) (ts : List PlacedToken) :
    Except ReadError (List Index × List PlacedToken) :=
  match ts with
  | [] => .error ⟨opened, .unterminatedBlock .indexes⟩
  | t :: ts =>
    if t.token = .newline then readIndexes last opened ts
    else if t.token = .mark .closeBrace then .ok ([], ts)
    else match _hc : indexHead last t ts with
      | .error e => .error e
      | .ok (columns, rest) => match _hs : indexSettings rest with
        | .error e => .error e
        | .ok (settings, rest) => do
          let (indexes, rest) ← readIndexes last opened rest
          return (⟨columns, settings⟩ :: indexes, rest)
termination_by ts.length
decreasing_by
  · simp
  · have := length_indexHead _hc
    have := length_indexSettings _hs
    simp only [List.length_cons]; omega

theorem length_readIndexes {last opened : Nat} {ts rest : List PlacedToken}
    {indexes : List Index} (h : readIndexes last opened ts = .ok (indexes, rest)) :
    rest.length < ts.length := by
  fun_induction readIndexes last opened ts generalizing indexes with
  | case1 => simp at h
  | case2 t ts _ ih => have := ih h; simp only [List.length_cons]; omega
  | case3 => cases h; simp
  | case4 => simp at h
  | case5 => simp at h
  | case6 t ts _ _ columns rest₁ hc settings rest₂ hs ih =>
    obtain ⟨_, hr, hp⟩ := exists_ok_of_bind h
    cases hp
    have := ih hr
    have := length_indexHead hc
    have := length_indexSettings hs
    simp only [List.length_cons]; omega

/-! ### Items -/

/-- Reads the text of a note, if one stands here. -/
def noteText (ts : List PlacedToken) : Option String × List PlacedToken :=
  match ts with
  | [] => (none, [])
  | t :: rest => match t.token with
    | .str s | .quoted s => (some s, rest)
    | _ => (none, t :: rest)

theorem length_noteText (ts : List PlacedToken) : (noteText ts).2.length ≤ ts.length := by
  unfold noteText
  split
  · simp
  · split <;> simp

/-- Reads a note between braces, from the token after the opening one. -/
def noteBlock (last : Nat) (ts : List PlacedToken) :
    Except ReadError (Option String × List PlacedToken) :=
  let note := noteText (dropNewlines ts)
  match dropNewlines note.2 with
  | t :: rest =>
    if t.token = .mark .closeBrace then .ok (note.1, rest)
    else unexpected last .noteBrace (t :: rest)
  | [] => unexpected last .noteBrace []

theorem length_noteBlock {last : Nat} {ts rest : List PlacedToken} {note : Option String}
    (h : noteBlock last ts = .ok (note, rest)) : rest.length < ts.length := by
  have h₁ := length_dropNewlines ts
  have h₂ := length_noteText (dropNewlines ts)
  have h₃ := length_dropNewlines (noteText (dropNewlines ts)).2
  simp only [noteBlock] at h
  split at h
  · next t rest' heq =>
    rw [heq] at h₃
    simp only [List.length_cons] at h₃
    split at h
    · cases h; omega
    · simp [unexpected] at h
  · simp [unexpected] at h

/-- The tokens that open the body of a reference. -/
def opensRef : Token → Bool
  | .mark .colon | .mark .openBrace => true
  | _ => false

/-- A reference follows the word `ref`, as opposed to the type of a column. -/
def startsRef : List PlacedToken → Bool
  | [] => false
  | t :: ts => opensRef t.token || (t.token.name?.isSome && opensRef (peek ts))

/-- Reads what stands at the head of the tokens inside of a table; `opened` is the table's line. -/
def readItem (last opened : Nat) (t : PlacedToken) (ts : List PlacedToken) :
    Except ReadError (TableItem × List PlacedToken) :=
  if t.token.isKeyword "note" ∧ peek ts = .mark .colon then
    let note := noteText ts.tail
    .ok (.note note.1, note.2)
  else if t.token.isKeyword "note" ∧ peek ts = .mark .openBrace then
    match noteBlock last ts.tail with
    | .error e => .error e
    | .ok (note, rest) => .ok (.note note, rest)
  else if t.token.isKeyword "indexes" ∧ peek ts = .mark .openBrace then
    match readIndexes last opened ts.tail with
    | .error e => .error e
    | .ok (indexes, rest) => .ok (.indexes indexes, rest)
  else if t.token.isKeyword "ref" ∧ startsRef ts then
    unexpected last .columnNotRef (t :: ts)
  else match t.token.name? with
    | some name => match readColumn last t.line name ts with
      | .error e => .error e
      | .ok (d, rest) => .ok (.column d.column d.refs, rest)
    | none => unexpected last .column (t :: ts)

theorem length_readItem {last opened : Nat} {t : PlacedToken} {ts rest : List PlacedToken}
    {item : TableItem} (h : readItem last opened t ts = .ok (item, rest)) :
    rest.length ≤ ts.length := by
  have htail : ts.tail.length ≤ ts.length := by simp
  unfold readItem at h
  split at h
  · cases h
    exact Nat.le_trans (length_noteText ts.tail) htail
  split at h
  · split at h
    · simp at h
    · next hn =>
      cases h
      have := length_noteBlock hn
      omega
  split at h
  · split at h
    · simp at h
    · next hi =>
      cases h
      have := length_readIndexes hi
      omega
  split at h
  · simp [unexpected] at h
  split at h
  · split at h
    · simp at h
    · next hc =>
      cases h
      exact Nat.le_of_lt (length_readColumn hc)
  · simp [unexpected] at h

/-- Reads the items of a table up to the closing brace. -/
def readItems (last opened : Nat) (ts : List PlacedToken) :
    Except ReadError (List TableItem × List PlacedToken) :=
  match ts with
  | [] => .error ⟨opened, .unterminatedBlock .table⟩
  | t :: ts =>
    if t.token = .newline then readItems last opened ts
    else if t.token = .mark .closeBrace then .ok ([], ts)
    else match _h : readItem last opened t ts with
      | .error e => .error e
      | .ok (item, rest) => do
        let (items, rest) ← readItems last opened rest
        return (item :: items, rest)
termination_by ts.length
decreasing_by
  · simp
  · have := length_readItem _h
    simp only [List.length_cons]; omega

theorem length_readItems {last opened : Nat} {ts rest : List PlacedToken}
    {items : List TableItem} (h : readItems last opened ts = .ok (items, rest)) :
    rest.length < ts.length := by
  fun_induction readItems last opened ts generalizing items with
  | case1 => simp at h
  | case2 t ts _ ih => have := ih h; simp only [List.length_cons]; omega
  | case3 => cases h; simp
  | case4 => simp at h
  | case5 t ts _ _ item rest' hi ih =>
    obtain ⟨_, hr, hp⟩ := exists_ok_of_bind h
    cases hp
    have := ih hr
    have := length_readItem hi
    simp only [List.length_cons]; omega

/-- Reads a second name after the word `as`. -/
def readShortName (ts : List PlacedToken) : Option String × List PlacedToken :=
  match ts with
  | [] => (none, [])
  | t :: rest =>
    if t.token.isKeyword "as" then
      match qualifiedName rest with
      | some (name, rest) => (some name, rest)
      | none => (none, rest)
    else (none, t :: rest)

theorem length_readShortName (ts : List PlacedToken) :
    (readShortName ts).2.length ≤ ts.length := by
  unfold readShortName
  split
  · simp
  · split
    · split
      · next hq => have := length_qualifiedName hq; simp only [List.length_cons]; omega
      · simp
    · simp

/-- Skips the settings of a table, if there are any. -/
def skipTableSettings (ts : List PlacedToken) : Except ReadError (List PlacedToken) :=
  match ts with
  | [] => .ok []
  | t :: rest =>
    if t.token = .mark .openBracket then dropSettings t.line rest else .ok (t :: rest)

theorem length_skipTableSettings {ts rest : List PlacedToken}
    (h : skipTableSettings ts = .ok rest) : rest.length ≤ ts.length := by
  unfold skipTableSettings at h
  split at h
  · cases h; simp
  · split at h
    · have := length_dropSettings h; simp only [List.length_cons]; omega
    · cases h; simp

/-- Skips line ends and then a brace that has to be there. -/
def expectBrace (last : Nat) (expected : Expectation) (ts : List PlacedToken) :
    Except ReadError (List PlacedToken) :=
  match dropNewlines ts with
  | t :: rest =>
    if t.token = .mark .openBrace then .ok rest else unexpected last expected (t :: rest)
  | [] => unexpected last expected []

theorem length_expectBrace {last : Nat} {expected : Expectation} {ts rest : List PlacedToken}
    (h : expectBrace last expected ts = .ok rest) : rest.length < ts.length := by
  have hle := length_dropNewlines ts
  unfold expectBrace at h
  split at h
  · next t rest' heq =>
    rw [heq] at hle
    simp only [List.length_cons] at hle
    split at h
    · cases h; omega
    · simp [unexpected] at h
  · simp [unexpected] at h

/-- Reads a table from the token after its keyword. -/
def readTable (last : Nat) (ts : List PlacedToken) :
    Except ReadError (Statement × List PlacedToken) := do
  let opened := lineOf last ts
  let some (name, ts) := qualifiedName ts | throw ⟨opened, .missingTableName⟩
  let (shortName, ts) := readShortName ts
  let ts ← skipTableSettings ts
  let ts ← expectBrace last .tableBrace ts
  let (items, ts) ← readItems last opened ts
  return (.table name shortName items, ts)

theorem length_readTable {last : Nat} {ts rest : List PlacedToken} {s : Statement}
    (h : readTable last ts = .ok (s, rest)) : rest.length < ts.length := by
  unfold readTable at h
  cases hq : qualifiedName ts with
  | none => rw [hq] at h; cases h
  | some p =>
    rw [hq] at h
    obtain ⟨ts₁, hs, h⟩ := exists_ok_of_bind h
    obtain ⟨_, hb, h⟩ := exists_ok_of_bind h
    obtain ⟨_, hi, h⟩ := exists_ok_of_bind h
    cases h
    have := length_qualifiedName hq
    have := length_readShortName p.2
    have : ts₁.length ≤ (readShortName p.2).2.length := length_skipTableSettings hs
    have := length_expectBrace hb
    have := length_readItems hi
    omega

end Mockup.Schema
