import Mockup.Toml.Quoted
import Mockup.Toml.Tree

/-!
# Values of a TOML text

* `Toml.dropGap`: the rest after blanks, line ends and comments;
* `Toml.key?`: a key, which may be a row of keys with points between them;
* `Toml.items?`, `Toml.pairs?`: the rest of a list and of an inline table;
* `Toml.maxDepth`: the limit on parts within each other and on keys in a row;
* `Toml.value?`: a value, with no more than a given number of lists and tables within each other.
-/

namespace Mockup.Toml

/-- Something at the start of a list of characters, and the rest. -/
abbrev Scan (α : Type) := List Char → Option (α × List Char)

/-- The rest after blanks, line ends and comments; `inComment` says whether a comment goes on. -/
def dropGap (inComment : Bool) : List Char → List Char
  | [] => []
  | '\x0d' :: '\n' :: cs => dropGap false cs
  | c :: cs =>
    if inComment && isPlain c then dropGap true cs
    else if c == ' ' || c == '\t' || c == '\n' then dropGap false cs
    else if c == '#' then dropGap true cs
    else c :: cs

/-! ### Keys -/

/-- The characters of keys without quotes. -/
def isBareChar (c : Char) : Bool :=
  c.isAlphanum || c == '_' || c == '-'

/-- A key without points. -/
def simpleKey? : Scan String := fun cs =>
  let bare := cs.takeWhile isBareChar
  if bare.isEmpty then (quotedKey? cs).map fun (key, rest) => (String.ofList key, rest)
  else some (String.ofList bare, cs.dropWhile isBareChar)

/-- Keys with points between them, of which there are at most `fuel`: the way to the last key, and
that key. -/
def dottedKey? : Nat → Scan (List String × String)
  | 0, _ => none
  | fuel + 1, cs => do
    let (key, rest) ← simpleKey? (Text.dropBlanks cs)
    match Text.dropBlanks rest with
    | '.' :: rest =>
      let ((way, last), rest) ← dottedKey? fuel rest
      return ((key :: way, last), rest)
    | rest => return (([], key), rest)

/-- The limit on lists and inline tables within each other, and on keys in a row. -/
def maxDepth : Nat := 79

/-- A key with the blanks around it. -/
def key? : Scan (List String × String) := dottedKey? maxDepth

/-! ### Values -/

/-- A key, an equals sign and a value. -/
def pair? (value : Scan Node) : Scan ((List String × String) × Node) := fun cs => do
  let (key, rest) ← key? cs
  match rest with
  | '=' :: rest =>
    let (v, rest) ← value (Text.dropBlanks rest)
    return ((key, v), rest)
  | _ => none

/-- The items of a list up to its closing bracket; there are at most `fuel`. -/
def items? (value : Scan Node) : Nat → Scan (List Node)
  | 0, _ => none
  | fuel + 1, cs =>
    match dropGap false cs with
    | ']' :: rest => some ([], rest)
    | cs => do
      let (v, rest) ← value cs
      match dropGap false rest with
      | ',' :: rest =>
        let (vs, rest) ← items? value fuel rest
        return (v :: vs, rest)
      | ']' :: rest => return ([v], rest)
      | _ => none

/-- The pairs of an inline table up to its closing brace; there are at most `fuel`. -/
def pairs? (value : Scan Node) : Nat → List (String × Node) → Scan (List (String × Node))
  | 0, _, _ => none
  | fuel + 1, members, cs => do
    let (((way, key), v), rest) ← pair? value cs
    let members ← Node.assign way key v members
    match Text.dropBlanks rest with
    | ',' :: rest => pairs? value fuel members rest
    | '}' :: rest => return (members, rest)
    | _ => none

/-- An inline table, after its opening brace. -/
def inlineTable? (value : Scan Node) : Scan Node := fun cs =>
  match Text.dropBlanks cs with
  | '}' :: rest => some (.table .inline [], rest)
  | cs => (pairs? value (cs.length + 1) [] cs).map fun (members, rest) =>
      (.table .inline members, rest)

/-- The value of a word. -/
def ofWord? (word : List Char) : Option Node :=
  (moment? word).map .moment <|> (scalar? word).map .leaf

/-- A word, or a date and a time with a space between them. -/
def word? : Scan Node := fun cs =>
  let word := cs.takeWhile isWordChar
  let rest := cs.dropWhile isWordChar
  match isDate word, rest with
  | true, ' ' :: c :: more =>
    if c.isDigit then
      let time := (c :: more).takeWhile isWordChar
      (moment? (word ++ ' ' :: time)).map fun text =>
        (.moment text, (c :: more).dropWhile isWordChar)
    else (ofWord? word).map (·, rest)
  | _, _ => (ofWord? word).map (·, rest)

/-- A value that is neither a list nor an inline table. -/
def simpleValue? : Scan Node := fun cs =>
  match cs with
  | '"' :: _ | '\'' :: _ => (quoted? cs).map fun (s, rest) =>
      (.leaf (.text (String.ofList s)), rest)
  | cs => word? cs

/-- A value; at most `depth` lists and inline tables stand one within another. -/
def value? : Nat → Scan Node
  | 0, cs => simpleValue? cs
  | depth + 1, cs => match cs with
    | '[' :: rest => (items? (value? depth) (rest.length + 1) rest).map fun (vs, rest) =>
        (.list vs, rest)
    | '{' :: rest => inlineTable? (value? depth) rest
    | cs => simpleValue? cs

end Mockup.Toml
