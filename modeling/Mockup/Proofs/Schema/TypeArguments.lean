import Mockup.Proofs.Schema.Flags
import Mockup.Proofs.Schema.References
import Mockup.Proofs.Schema.TableLines
import Mockup.Proofs.Text.Lines

/-!
# The arguments of declared types

The type of a column is kept as one text, which is cut at its commas when the arguments are asked
for.  This text has a comma between each two tokens of the arguments, wherever the commas stood.
So each token comes back as an argument of its own, and the arguments of a type are those that were
written if and only if each of them is a single token.

* `Token.isArgument`: the tokens that an argument is made of;
* `typeText`, `typeName_typeText`, `typeParameters_typeText`: a type's text and its two parts;
* `TypeName`, `TypedColumn`: the line of a column with arguments, up to the end of the type;
* `TypedColumn.Declares`: the column of such a line;
* `readItem_typed`: the reading of the line;
* `parse_typed`: its column in a text; `arguments_astray` is an argument of two tokens.
-/

namespace Mockup

open Schema (takeWhile_append_cons dropWhile_append_cons)

/-! ### The text of a type -/

namespace Column

/-- The text stands for itself among the parts of a text that is cut at its commas. -/
structure StandsAlone (cs : List Char) : Prop where
  ne_nil : cs ≠ []
  notMem : ',' ∉ cs
  trimmed : Text.trimmed cs = cs

section Parts

variable {name : String} {args : List String}

/-- A type with its arguments in parentheses. -/
def typeText (name : String) (args : List String) : String :=
  name ++ "(" ++ ",".intercalate args ++ ")"

theorem toList_typeText (name : String) (args : List String) :
    (typeText name args).toList
      = name.toList ++ '(' :: ([','].intercalate (args.map String.toList) ++ [')']) := by
  simp [typeText]

theorem ne_paren_of_mem (hname : '(' ∉ name.toList) :
    ∀ c ∈ name.toList, decide (c ≠ '(') = true := by
  intro c hc
  refine decide_eq_true ?_
  rintro rfl
  exact hname hc

theorem argumentText_typeText (hname : '(' ∉ name.toList) (args : List String) :
    argumentText (typeText name args).toList = [','].intercalate (args.map String.toList) := by
  have hinner : ((typeText name args).toList.dropWhile (· ≠ '(')).tail
      = [','].intercalate (args.map String.toList) ++ [')'] := by
    rw [toList_typeText, dropWhile_append_cons (ne_paren_of_mem hname) (by decide)]
    rfl
  unfold argumentText
  dsimp only
  rw [hinner, if_pos (by simp), List.reverse_append, List.reverse_singleton,
    List.singleton_append, List.dropWhile_cons_of_neg (by decide), List.tail_cons,
    List.reverse_reverse]

variable {c : Column} (hc : c.dataType = typeText name args) (hname : '(' ∉ name.toList)
include hc hname

theorem typeName_typeText (htrimmed : Text.trimmed name.toList = name.toList) :
    c.typeName = Text.lower name := by
  rw [typeName, hc, toList_typeText, takeWhile_append_cons (ne_paren_of_mem hname) (by decide),
    htrimmed, String.ofList_toList]

theorem typeParameters_typeText (hne : args ≠ []) (hargs : ∀ a ∈ args, StandsAlone a.toList) :
    c.typeParameters = args := by
  have hpieces : Text.pieces ',' ([','].intercalate (args.map String.toList))
      = args.map String.toList := by
    refine Text.pieces_intercalate (by simpa using hne) fun p hp => ?_
    obtain ⟨a, ha, rfl⟩ := List.mem_map.1 hp
    exact (hargs a ha).notMem
  have htrimmed : (args.map String.toList).map Text.trimmed = args.map String.toList := by
    rw [List.map_map]
    exact List.map_congr_left fun a ha => (hargs a ha).trimmed
  have hkept : (args.map String.toList).filter (!·.isEmpty) = args.map String.toList := by
    refine List.filter_eq_self.2 fun p hp => ?_
    obtain ⟨a, ha, rfl⟩ := List.mem_map.1 hp
    simpa using (hargs a ha).ne_nil
  rw [typeParameters, hc, argumentText_typeText hname, hpieces, htrimmed, hkept, List.map_map]
  simp

end Parts

end Column

namespace Schema

open Reference (Name)

/-! ### The tokens of an argument -/

/-- The tokens of arguments: names without commas, numbers and dashes. -/
def Token.isArgument : Token → Bool
  | .ident s => isWord s.toList
  | .quoted s => !s.toList.contains ','
  | .num s => isNumeral s.toList
  | .mark m => m == .dash
  | _ => false

theorem isBlank_of_mem_isWord {cs : List Char} (h : isWord cs = true) :
    ∀ c ∈ cs, Text.isBlank c = false := by
  intro c hc
  rcases isNameChar_of_mem_isWord h c hc with rfl | hname
  · decide
  · exact isBlank_of_isNameChar hname

theorem isDigit_or_dot_of_mem {cs : List Char} (h : isNumeral cs = true) :
    ∀ c ∈ cs, c.isDigit = true ∨ c = '.' := by
  obtain ⟨-, hrest⟩ := (Bool.and_eq_true _ _).mp h
  intro c hc
  rw [← List.takeWhile_append_dropWhile (p := Char.isDigit) (l := cs), List.mem_append] at hc
  rcases hc with hc | hc
  · exact .inl (List.mem_takeWhile_imp hc)
  · split at hrest
    · next hnil => rw [hnil] at hc; cases hc
    · next d ds hcons =>
      simp only [Bool.and_eq_true, decide_eq_true_eq, List.all_eq_true] at hrest
      rw [hcons] at hc
      rcases List.mem_cons.1 hc with rfl | hc
      · exact .inr hrest.1.1
      · exact .inl (hrest.2 c hc)

theorem standsAlone_text {t : Token} (h : t.isArgument = true) :
    Column.StandsAlone t.text.toList := by
  cases t with
  | ident s =>
    constructor
    · intro hnil
      rw [Token.isArgument, show s.toList = [] from hnil] at h
      cases h
    · exact notMem_of_isWord h (by decide) (by decide +kernel)
    · exact Text.trimmed_of_forall (isBlank_of_mem_isWord h)
  | num s =>
    have hchars := isDigit_or_dot_of_mem h
    constructor
    · intro hnil
      rw [Token.isArgument, show s.toList = [] from hnil] at h
      cases h
    · intro hmem
      rcases hchars _ hmem with hc | hc <;> exact absurd hc (by decide)
    · refine Text.trimmed_of_forall fun c hc => ?_
      rcases hchars c hc with hdigit | rfl
      · exact isBlank_of_isDigit hdigit
      · decide
  | quoted s =>
    have htext : (Token.quoted s).text.toList = '"' :: (s.toList ++ ['"']) := by
      simp [Token.text]
    rw [htext]
    constructor
    · simp
    · simpa [Token.isArgument] using h
    · refine Text.trimmed_of_ends ⟨'"', rfl, by decide⟩ ⟨'"', ?_, by decide⟩
      rw [← List.cons_append]
      exact List.getLast?_concat
  | mark m =>
    obtain rfl : m = .dash := eq_of_beq h
    exact ⟨by decide, by decide, by decide⟩
  | _ => cases h

/-! ### Lines of columns -/

/-- The name of a type. -/
structure TypeName where
  name : Name
  notMem_name : '(' ∉ name.text.toList
  trimmed_name : Text.trimmed name.text.toList = name.text.toList

/-- Every bare word can be the name of a type. -/
def TypeName.bare (word : String) (h : isWord word.toList = true) : TypeName where
  name := .bare word h
  notMem_name := notMem_of_isWord h (by decide) (by decide +kernel)
  trimmed_name := Text.trimmed_of_forall (isBlank_of_mem_isWord h)

/-- The line of a column with a name, a type and arguments of the type between commas, up to the
closing parenthesis. -/
structure TypedColumn where
  name : Name
  typeName : TypeName
  arguments : List (List Token)
  arguments_ne_nil : arguments ≠ []
  ne_nil_of_mem : ∀ g ∈ arguments, g ≠ []
  isArgument_of_mem : ∀ g ∈ arguments, ∀ t ∈ g, t.isArgument = true

namespace TypedColumn

variable (c : TypedColumn)

/-- The tokens of the line. -/
def tokens : List Token :=
  c.name.token :: c.typeName.name.token :: .mark .openParen ::
    ([.mark .comma].intercalate c.arguments ++ [.mark .closeParen])

/-- The texts of all tokens of the arguments. -/
def argumentTexts : List String :=
  c.arguments.flatten.map Token.text

/-- The column has the type's name in small letters, and each token of the arguments as an argument
of its own. -/
structure Declares (col : Mockup.Column) : Prop where
  name : col.name = c.name.text
  typeName : col.typeName = Text.lower c.typeName.name.text
  typeParameters : col.typeParameters = c.argumentTexts
  length_eq_iff : col.typeParameters.length = c.arguments.length ↔ ∀ g ∈ c.arguments, g.length = 1
  eq_join : (∀ g ∈ c.arguments, g.length = 1) →
    col.typeParameters = c.arguments.map Token.join

end TypedColumn

/-- Rows that are not empty have at least as many members as there are rows, and no more just if
each has one. -/
theorem length_flatten_eq_iff {α : Type} {gs : List (List α)} (h : ∀ g ∈ gs, g ≠ []) :
    gs.length ≤ gs.flatten.length ∧
      (gs.flatten.length = gs.length ↔ ∀ g ∈ gs, g.length = 1) := by
  induction gs with
  | nil => simp
  | cons g gs ih =>
    obtain ⟨hg, hgs⟩ := List.forall_mem_cons.1 h
    obtain ⟨hle, hiff⟩ := ih hgs
    have hpos : 0 < g.length := List.length_pos_iff.2 hg
    rw [List.forall_mem_cons, ← hiff, List.flatten_cons, List.length_append, List.length_cons]
    omega

theorem filter_intercalate {α : Type} [DecidableEq α] {sep : α} {gs : List (List α)}
    (h : ∀ g ∈ gs, sep ∉ g) : ([sep].intercalate gs).filter (· ≠ sep) = gs.flatten := by
  have hself : ∀ g : List α, sep ∉ g → g.filter (· ≠ sep) = g := by
    intro g hg
    refine List.filter_eq_self.2 fun x hx => decide_eq_true ?_
    rintro rfl
    exact hg hx
  induction gs with
  | nil => rfl
  | cons g gs ih =>
    obtain ⟨hg, hgs⟩ := List.forall_mem_cons.1 h
    cases gs with
    | nil => simpa using hself g hg
    | cons g' gs =>
      rw [List.intercalate_cons_cons, List.filter_append, List.filter_append, hself g hg, ih hgs]
      simp

/-- Rows of single tokens have the texts of these tokens. -/
theorem map_text_flatten {gs : List (List Token)} (h : ∀ g ∈ gs, g.length = 1) :
    gs.flatten.map Token.text = gs.map Token.join := by
  induction gs with
  | nil => rfl
  | cons g gs ih =>
    obtain ⟨hg, hgs⟩ := List.forall_mem_cons.1 h
    obtain ⟨t, rfl⟩ := List.length_eq_one_iff.1 hg
    rw [List.flatten_cons, List.singleton_append, List.map_cons, List.map_cons, ih hgs]
    simp [Token.join, Token.appendTo]

namespace TypedColumn

variable {c : TypedColumn}

theorem isArgument_of_mem_flatten : ∀ t ∈ c.arguments.flatten, t.isArgument = true := by
  intro t ht
  obtain ⟨g, hg, ht⟩ := List.mem_flatten.1 ht
  exact c.isArgument_of_mem g hg t ht

theorem declares_of_dataType {col : Mockup.Column} (hname : col.name = c.name.text)
    (htype : col.dataType = Column.typeText c.typeName.name.text c.argumentTexts) :
    c.Declares col := by
  have hcount := length_flatten_eq_iff c.ne_nil_of_mem
  have hne : c.argumentTexts ≠ [] := by
    intro hnil
    have hpos : 0 < c.arguments.length := List.length_pos_iff.2 c.arguments_ne_nil
    have hzero : c.arguments.flatten.length = 0 := by
      rw [← List.length_map (f := Token.text)]
      exact congrArg List.length hnil
    omega
  have hparameters : col.typeParameters = c.argumentTexts := by
    refine Column.typeParameters_typeText htype c.typeName.notMem_name hne fun a ha => ?_
    obtain ⟨t, ht, rfl⟩ := List.mem_map.1 ha
    exact standsAlone_text (isArgument_of_mem_flatten t ht)
  refine ⟨hname, ?_, hparameters, ?_, fun hsingle => ?_⟩
  · exact Column.typeName_typeText htype c.typeName.notMem_name c.typeName.trimmed_name
  · rw [hparameters, argumentTexts, List.length_map]
    exact hcount.2
  · rw [hparameters, argumentTexts, map_text_flatten hsingle]

end TypedColumn

/-! ### Reading the line -/

section Reading

variable {last line : Nat} {t : PlacedToken} {us after : List PlacedToken}

/-- Up to the closing parenthesis every token but a comma is an argument. -/
theorem typeArguments_append {inner : List PlacedToken}
    (hinner : ∀ u ∈ inner, u.token ≠ .newline ∧ u.token ≠ .mark .closeParen)
    (ht : t.token = .mark .closeParen) :
    typeArguments line (inner ++ t :: after)
      = .ok (((inner.map PlacedToken.token).filter (· ≠ .mark .comma)).map Token.text, after) := by
  induction inner with
  | nil => rw [List.nil_append, typeArguments, if_pos ht]; rfl
  | cons u inner ih =>
    obtain ⟨⟨hline, hclose⟩, hinner⟩ := List.forall_mem_cons.1 hinner
    rw [List.cons_append, typeArguments, if_neg hclose, if_neg hline, ih hinner]
    by_cases hcomma : u.token = .mark .comma
    · simp [hcomma]
    · simp [hcomma, pure, Except.pure, bind, Except.bind]

variable {c : TypedColumn}

theorem readType_typed {u opening closing : PlacedToken} {inner : List PlacedToken}
    (hu : u.token = c.typeName.name.token) (hopening : opening.token = .mark .openParen)
    (hinner : inner.map PlacedToken.token = [.mark .comma].intercalate c.arguments)
    (hclosing : closing.token = .mark .closeParen) (column : String) :
    readType line column (u :: opening :: (inner ++ closing :: after))
      = .ok (Column.typeText c.typeName.name.text c.argumentTexts, after) := by
  have hname : u.token.name? = some c.typeName.name.text := by
    rw [hu, Name.name?_token]
  have hcomma : ∀ g ∈ c.arguments, Token.mark .comma ∉ g :=
    fun g hg hmem => absurd (c.isArgument_of_mem g hg _ hmem) (by decide)
  have hfilter := filter_intercalate hcomma
  have hends : ∀ v ∈ inner, v.token ≠ .newline ∧ v.token ≠ .mark .closeParen := by
    intro v hv
    by_cases hsep : v.token = .mark .comma
    · simp [hsep]
    · -- what is no comma belongs to an argument
      have hmem : v.token ∈ c.arguments.flatten := by
        rw [← hfilter, ← hinner]
        exact List.mem_filter.2 ⟨List.mem_map_of_mem hv, decide_eq_true hsep⟩
      have hargument := TypedColumn.isArgument_of_mem_flatten _ hmem
      constructor <;> intro heq <;> rw [heq] at hargument <;> cases hargument
  unfold readType
  rw [qualifiedName_of_name hname (by simp [hopening])]
  dsimp only
  rw [if_pos hopening, typeArguments_append hends hclosing, hinner, hfilter]
  rfl

/-- The line of a column is read up to the end of its type, whatever follows. -/
theorem readItem_typed (h : (t :: us).map PlacedToken.token = c.tokens)
    (last opened : Nat) (after : List PlacedToken) :
    readItem last opened t (us ++ after) = do
      let (d, rest) ← columnTail last t.line { column := {
        name := c.name.text
        dataType := Column.typeText c.typeName.name.text c.argumentTexts } } after
      return (.column d.column d.refs, rest) := by
  obtain ⟨ht, hus⟩ := List.cons.inj h
  obtain ⟨u, us, rfl, hu, hus⟩ := List.map_eq_cons_iff.1 hus
  obtain ⟨opening, us, rfl, hopening, hus⟩ := List.map_eq_cons_iff.1 hus
  obtain ⟨inner, closings, rfl, hinner, hclosings⟩ := List.map_eq_append_iff.1 hus
  obtain ⟨closing, rfl, hclosing⟩ := List.map_eq_singleton_iff.1 hclosings
  have hname : t.token.name? = some c.name.text := by
    rw [ht, Name.name?_token]
  have hopens : opensRef (peek (opening :: (inner ++ closing :: after))) = false := by
    rw [peek, hopening]
    rfl
  rw [List.cons_append, List.cons_append, List.append_assoc, List.singleton_append,
    readItem_of_names hname (by simp [hu]) hopens, readColumn_eq,
    readType_typed hu hopening hinner hclosing]
  rfl

/-- The constraints and settings after a type change neither it nor the name of the column. -/
theorem columnTail_keeps {d d' : ColumnDraft} {rest : List PlacedToken}
    (h : columnTail last line d after = .ok (d', rest)) :
    d'.column.name = d.column.name ∧ d'.column.dataType = d.column.dataType := by
  refine columnTail_invariant (Q := fun _ => True)
    (P := fun e => e.column.name = d.column.name ∧ e.column.dataType = d.column.dataType)
    ?_ ?_ (fun _ _ => trivial) ⟨rfl, rfl⟩ h
  · intro e word ts _ he
    unfold bareConstraint
    dsimp only
    split
    · exact he
    split
    · exact he
    · exact he
  · intro e group setting _ _ he
    cases setting <;> exact he

end Reading

/-- The line of a column with arguments of its type is read, and kept with each token of the
arguments as an argument of its own, in whichever place of a table it stands.  So the arguments are
those that were written if and only if each of them is a single token. -/
theorem parse_typed (c : TypedColumn) :
    (∀ (last opened : Nat) (t : PlacedToken) (us after : List PlacedToken),
      (t :: us).map PlacedToken.token = c.tokens → EndsLine after →
      ∃ col, readItem last opened t (us ++ after) = .ok (.column col [], after) ∧
        c.Declares col) ∧
    ∀ (text : String) (ts line after : List PlacedToken) (last : Nat) (s : Schema),
      scan text = .ok ⟨ts, last⟩ → InTable last ts (line ++ after) →
      line.map PlacedToken.token = c.tokens → parse text = .ok s →
      ∃ table ∈ s.tables, ∃ col ∈ table.columns, c.Declares col := by
  constructor
  · intro last opened t us after h hafter
    let col : Mockup.Column :=
      { name := c.name.text
        dataType := Column.typeText c.typeName.name.text c.argumentTexts }
    refine ⟨col, ?_, TypedColumn.declares_of_dataType rfl rfl⟩
    rw [readItem_typed h]
    cases after with
    | nil => rw [columnTail]; rfl
    | cons u after => rw [columnTail_of_end (hafter u rfl)]; rfl
  · intro text ts line after last s hscan hplace hline hparse
    obtain ⟨t, us, rfl, ht, -⟩ := List.map_eq_cons_iff.1 hline
    rw [List.cons_append] at hplace
    obtain ⟨opened, item, rest, hread, hmem⟩ := exists_readItem_of_inTable hscan hplace
      (by rw [ht]; exact c.name.token_ne_newline) (by rw [ht]; exact c.name.token_ne_mark _) hparse
    rw [readItem_typed hline] at hread
    obtain ⟨⟨d, _⟩, htail, hp⟩ := exists_ok_of_bind hread
    cases hp
    obtain ⟨table, htable, hcol⟩ := hmem d.column rfl
    obtain ⟨hname, htype⟩ := columnTail_keeps htail
    exact ⟨table, htable, d.column, hcol, TypedColumn.declares_of_dataType hname htype⟩

/-- A column with a scale below zero: its second argument is two tokens. -/
def amountColumn : TypedColumn where
  name := .bare "amount" (by decide)
  typeName := .bare "Numeric" (by decide)
  arguments := [[.num "10"], [.mark .dash, .num "2"]]
  arguments_ne_nil := by decide
  ne_nil_of_mem := by decide
  isArgument_of_mem := by decide

/-- The sign is an argument of its own. -/
theorem parse_typed_amount :
    (∃ col, readItem 4 1 ⟨.ident "amount", 3⟩
        (placed 3 amountColumn.tokens.tail ++ [⟨.newline, 3⟩, ⟨.mark .closeBrace, 4⟩])
          = .ok (.column col [], [⟨.newline, 3⟩, ⟨.mark .closeBrace, 4⟩]) ∧
      amountColumn.Declares col) ∧
    ∃ s, parse "Table t \x7b\n  id int [pk]\n  amount Numeric(10,-2) [not null]\n\x7d" = .ok s ∧
      s.tables.flatMap (·.columns.map (·.typeParameters)) = [[], ["10", "-", "2"]] ∧
      ∃ table ∈ s.tables, ∃ col ∈ table.columns, amountColumn.Declares col := by
  constructor
  · exact (parse_typed amountColumn).1 4 1 _ _ _ (by decide) (by rintro t ht; cases ht; rfl)
  · let settings : List PlacedToken :=
      placed 3 [.mark .openBracket, .ident "not", .ident "null", .mark .closeBracket, .newline]
        ++ [⟨.mark .closeBrace, 4⟩]
    let line : List PlacedToken := placed 3 amountColumn.tokens
    let first : List PlacedToken :=
      placed 2 [.ident "id", .ident "int", .mark .openBracket, .ident "pk", .mark .closeBracket]
    let head : List PlacedToken := placed 1 [.ident "t", .mark .openBrace, .newline]
    let s : Schema :=
      { tables := [{
          name := "t"
          columns := [
            { name := "id", dataType := "int", primaryKey := true, constraints := ["pk"] },
            { name := "amount", dataType := "Numeric(10,-,2)", notNull := true
              constraints := ["not null"] }] }] }
    have hscan : scan "Table t \x7b\n  id int [pk]\n  amount Numeric(10,-2) [not null]\n\x7d" = .ok
        ⟨⟨.ident "Table", 1⟩ :: (head ++ first ++ ⟨.newline, 2⟩ :: (line ++ settings)), 4⟩ :=
      eq_ok_of_toOption (by decide +kernel)
    have hparse :
        parse "Table t \x7b\n  id int [pk]\n  amount Numeric(10,-2) [not null]\n\x7d" = .ok s :=
      eq_ok_of_toOption (by decide +kernel)
    have hfirst : readItem 4 1 ⟨.ident "id", 2⟩
        (first.tail ++ ⟨.newline, 2⟩ :: (line ++ settings))
          = .ok (.column { name := "id", dataType := "int", primaryKey := true
                           constraints := ["pk"] } [],
            ⟨.newline, 2⟩ :: (line ++ settings)) :=
      eq_ok_of_toOption (by decide +kernel)
    have hitem : ReachesItem 4 1
        (⟨.newline, 1⟩ :: (first ++ ⟨.newline, 2⟩ :: (line ++ settings))) (line ++ settings) :=
      .newline rfl (.item (by decide) (by decide) hfirst
        (.newline (t := ⟨.newline, 2⟩) rfl (.here _)))
    have hplace : InTable 4
        (⟨.ident "Table", 1⟩ :: (head ++ first ++ ⟨.newline, 2⟩ :: (line ++ settings)))
        (line ++ settings) :=
      ⟨⟨.ident "Table", 1⟩, _, _, .here _, by decide, ⟨"t", _, _, rfl, rfl, rfl⟩, hitem⟩
    exact ⟨s, hparse, by decide +kernel,
      (parse_typed amountColumn).2 _ _ line settings 4 s hscan hplace (by decide) hparse⟩

/-- A column with a length in characters: its only argument is two tokens. -/
def lengthColumn : TypedColumn where
  name := .bare "label" (by decide)
  typeName := .bare "varchar" (by decide)
  arguments := [[.num "10", .ident "char"]]
  arguments_ne_nil := by decide
  ne_nil_of_mem := by decide
  isArgument_of_mem := by decide

/-- The arguments are not always those that were written: the one argument of this type comes back
as two, as if there were a comma in it. -/
theorem arguments_astray :
    ∃ ts line after s col,
      scan "Table t \x7b\n  label varchar(10 char)\n\x7d\n" = .ok ⟨ts, 4⟩ ∧
      InTable 4 ts (line ++ after) ∧ line.map PlacedToken.token = lengthColumn.tokens ∧
      lengthColumn.arguments = [[.num "10", .ident "char"]] ∧
      parse "Table t \x7b\n  label varchar(10 char)\n\x7d\n" = .ok s ∧
      s.tables.flatMap (·.columns) = [col] ∧
      col.dataType = "varchar(10,char)" ∧ col.typeParameters = ["10", "char"] := by
  let line : List PlacedToken := placed 2 lengthColumn.tokens
  let after : List PlacedToken := [⟨.newline, 2⟩, ⟨.mark .closeBrace, 3⟩, ⟨.newline, 3⟩]
  let ts : List PlacedToken :=
    placed 1 [.ident "Table", .ident "t", .mark .openBrace, .newline] ++ (line ++ after)
  let col : Mockup.Column := { name := "label", dataType := "varchar(10,char)" }
  refine ⟨ts, line, after, { tables := [{ name := "t", columns := [col] }] }, col,
    eq_ok_of_toOption (by decide +kernel), ?_, by decide, rfl,
    eq_ok_of_toOption (by decide +kernel), rfl, rfl, by decide +kernel⟩
  exact ⟨⟨.ident "Table", 1⟩, _, _, .here _, by decide, ⟨"t", _, _, rfl, rfl, rfl⟩,
    .newline rfl (.here _)⟩

end Schema

end Mockup
