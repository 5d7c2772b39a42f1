import Mockup.Schema.Token

/-!
# Why a schema text is refused

* `ParseFault`: the causes, and `ParseFault.message`;
* `ReadError`: a cause and a line, and `ReadError.message`.
-/

namespace Mockup.Schema

/-- The constructs that are opened and have to be closed. -/
inductive Block where
  | comment
  | statement
  | settings
  | table
  | indexes
  | ref
  | enum
  deriving DecidableEq, Repr

/-- The word for the construct in messages. -/
def Block.name : Block → String
  | .comment => "comment"
  | .statement => "statement"
  | .settings => "settings"
  | .table => "table"
  | .indexes => "indexes"
  | .ref => "ref"
  | .enum => "enum"

/-- The constructs that the parser expects at a token. -/
inductive Expectation where
  | tableBrace
  | noteBrace
  | column
  | columnNotRef
  | indexParen
  | typeParen
  | columnSetting
  | refBody
  | enumName
  | enumBrace
  deriving DecidableEq, Repr

/-- The words for the construct in messages. -/
def Expectation.words : Expectation → String
  | .tableBrace => "'\x7b' after table name"
  | .noteBrace => "'\x7d' closing note"
  | .column => "column definition"
  | .columnNotRef => "a column definition; Ref declarations belong outside table blocks"
  | .indexParen => "')' closing index columns"
  | .typeParen => "')' closing type arguments"
  | .columnSetting => "column setting"
  | .refBody => "':' or '\x7b' after Ref"
  | .enumName => "enum name"
  | .enumBrace => "'\x7b' after enum name"

/-- The causes for which a schema text is refused. -/
inductive ParseFault where
  | unterminatedString
  | unexpected (found : Token) (expected : Expectation)
  | unterminatedBlock (block : Block)
  | missingTableName
  | missingColumnType (column : String)
  | malformedReference (written : String)
  deriving DecidableEq, Repr

def ParseFault.message : ParseFault → String
  | .unterminatedString => "unterminated string literal"
  | .unexpected found expected => "unexpected " ++ found.shown ++ ", expected " ++ expected.words
  | .unterminatedBlock block => block.name ++ " block opened here is never closed"
  | .missingTableName => "table declaration is missing a name"
  | .missingColumnType column => "column '" ++ column ++ "' has no type"
  | .malformedReference written =>
    "malformed reference '" ++ written ++ "', expected table.column"

/-- A cause, and the line it is reported on, counted from one. -/
structure ReadError where
  line : Nat
  fault : ParseFault
  deriving DecidableEq, Repr

def ReadError.message (e : ReadError) : String :=
  "line " ++ toString e.line ++ ": " ++ e.fault.message

end Mockup.Schema
