import Mockup.Text.Case
import Mockup.Schema.Basic

/-!
# Tokens of a schema text

* `Mark`: the punctuation, with `Mark.text` and its inverse on single characters;
* `Token`: names, literals, numbers, punctuation, line ends and the end of the text;
* `Token.text`: the text that stands for a token when raw settings are put together again;
* `Token.shown`: the token in a message;
* `PlacedToken`: a token and its line;
* `TokenStream`: the tokens of a text, and the line on which the text ends.
-/

namespace Mockup.Schema

/-- Punctuation. -/
inductive Mark where
  | openBrace
  | closeBrace
  | openParen
  | closeParen
  | openBracket
  | closeBracket
  | comma
  | colon
  | dot
  | greater
  | less
  | lessGreater
  | dash
  deriving DecidableEq, Repr

namespace Mark

/-- The characters of the mark. -/
def chars : Mark → List Char
  | .openBrace => ['\x7b']
  | .closeBrace => ['\x7d']
  | .openParen => ['(']
  | .closeParen => [')']
  | .openBracket => ['[']
  | .closeBracket => [']']
  | .comma => [',']
  | .colon => [':']
  | .dot => ['.']
  | .greater => ['>']
  | .less => ['<']
  | .lessGreater => ['<', '>']
  | .dash => ['-']

/-- The mark that a single character is. -/
def ofChar? : Char → Option Mark
  | '\x7b' => some .openBrace
  | '\x7d' => some .closeBrace
  | '(' => some .openParen
  | ')' => some .closeParen
  | '[' => some .openBracket
  | ']' => some .closeBracket
  | ',' => some .comma
  | ':' => some .colon
  | '.' => some .dot
  | '>' => some .greater
  | '<' => some .less
  | '-' => some .dash
  | _ => none

/-- The cardinality that the mark stands for between the ends of a reference. -/
def cardinality? : Mark → Option Cardinality
  | .greater => some .manyToOne
  | .less => some .oneToMany
  | .dash => some .oneToOne
  | .lessGreater => some .manyToMany
  | _ => none

theorem ofSymbol?_chars {m : Mark} {k : Cardinality} (h : m.cardinality? = some k) :
    Cardinality.ofSymbol? (String.ofList m.chars) = some k := by
  cases m <;> simp_all [cardinality?, chars] <;> subst h <;> decide

end Mark

/-- The tokens of a schema text: `quoted` is a name between double quotes, `str` a text between
single ones, and `expr` an expression between backticks. -/
inductive Token where
  | ident (name : String)
  | quoted (name : String)
  | str (s : String)
  | expr (s : String)
  | num (digits : String)
  | mark (m : Mark)
  | symbol (c : Char)
  | newline
  | eof
  deriving DecidableEq, Repr

namespace Token

/-- The text that stands for the token in raw settings. -/
def text : Token → String
  | .ident s | .num s => s
  | .quoted s => "\"" ++ s ++ "\""
  | .str s => "'" ++ s ++ "'"
  | .expr s => "`" ++ s ++ "`"
  | .mark m => String.ofList m.chars
  | .symbol c => String.singleton c
  | .newline => "\\n"
  | .eof => ""

/-- The token in a message. -/
def shown : Token → String
  | .newline => "end of line"
  | .eof => "end of input"
  | t => "'" ++ t.text ++ "'"

/-- The name that the token is, bare or quoted. -/
def name? : Token → Option String
  | .ident s | .quoted s => some s
  | _ => none

/-- The token is this bare word, up to the case of the letters A to Z. -/
def isKeyword (word : String) : Token → Bool
  | .ident s => Text.sameIgnoringCase s word
  | _ => false

/-- The content of a literal, a name or a number; the text of any other token. -/
def content : Token → String
  | .ident s | .quoted s | .str s | .expr s | .num s => s
  | t => t.text

/-- The cardinality that the token stands for in a reference. -/
def cardinality? : Token → Option Cardinality
  | .mark m => m.cardinality?
  | _ => none

/-- The token follows the one before it without a blank. -/
def isTight : Token → Bool
  | .mark .dot | .mark .comma | .mark .colon | .mark .openParen | .mark .closeParen => true
  | _ => false

/-- Adds a token to raw text: after a blank, unless one of the two sides is tight. -/
def appendTo (out : String) (t : Token) : String :=
  let blank := out ≠ "" && !t.isTight
    && out.toList.getLast? != some '.' && out.toList.getLast? != some '('
  (if blank then out ++ " " else out) ++ t.text

/-- Raw text for a row of tokens. -/
def join (ts : List Token) : String :=
  ts.foldl appendTo ""

end Token

/-- A token and the line on which it starts, counted from one. -/
structure PlacedToken where
  token : Token
  line : Nat
  deriving DecidableEq, Repr

/-- The tokens before the end of a text, and the line of the end. -/
structure TokenStream where
  tokens : List PlacedToken
  endLine : Nat
  deriving DecidableEq, Repr

namespace TokenStream

/-- The stream with one more token in front. -/
def push (t : PlacedToken) (s : TokenStream) : TokenStream :=
  { s with tokens := t :: s.tokens }

/-- All tokens, the end of the text included. -/
def toList (s : TokenStream) : List PlacedToken :=
  s.tokens ++ [⟨.eof, s.endLine⟩]

@[simp] theorem toList_push (t : PlacedToken) (s : TokenStream) :
    (s.push t).toList = t :: s.toList := rfl

end TokenStream

end Mockup.Schema
