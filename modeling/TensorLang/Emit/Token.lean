import TensorLang.Text.Decimal
import TensorLang.Text.Letter
import TensorLang.Text.Utf8

/-!
# Tokens of emitted code

The words of which emitted code consists, and the characters of which its names consist.

* `Token.is` asks for a keyword or a sign by its spelling.
* `Token.isIdentifier` tells which texts are names.
* `Sign.precedence` tells how strongly binary operators bind.
-/

namespace TensorLang.Emit

/-- Kinds of tokens. -/
inductive TokenKind where
  | name
  | int
  | float
  | imaginary
  /-- A character in quotes, with the quotes. -/
  | char
  /-- A text in quotes, with the quotes. -/
  | quoted
  | comment
  /-- A keyword, an operator or a mark of punctuation. -/
  | sign
  /-- No token of the language. -/
  | illegal
  /-- The end of the text. -/
  | finish
  deriving DecidableEq, Inhabited, Repr

/-- Is the kind that of names and literals? -/
def TokenKind.isLiteral : TokenKind → Bool
  | .name | .int | .float | .imaginary | .char | .quoted => true
  | _ => false

/-- Is the kind that of literals which stand for a value? -/
def TokenKind.isValue : TokenKind → Bool
  | .int | .float | .imaginary | .char | .quoted => true
  | _ => false

/-- A token and where it stands. -/
structure Token where
  kind : TokenKind
  /-- The spelling of a keyword or sign, empty for other kinds. -/
  sign : String := ""
  /-- The spelling, without the carriage returns of comments and raw texts. A semicolon that stands
  for the end of a line is spelled as a line end. -/
  text : Bytes
  /-- The offset of its first byte. -/
  offset : Nat
  /-- The offset behind its last byte. -/
  stop : Nat
  deriving DecidableEq, Inhabited, Repr

namespace Token

/-- Is the token this keyword or sign? -/
def is (t : Token) (sign : String) : Bool := t.kind == .sign && t.sign == sign

/-- Is the token one of these keywords and signs? -/
def isAny (t : Token) (signs : List String) : Bool := t.kind == .sign && signs.contains t.sign

/-- Is the token the end of a line that ends a statement? -/
def isLineEnd (t : Token) : Bool := t.is ";" && t.text == [10]

/-- The words that are not names. -/
def keywords : List String :=
  ["break", "case", "chan", "const", "continue", "default", "defer", "else", "fallthrough", "for",
    "func", "go", "goto", "if", "import", "interface", "map", "package", "range", "return",
    "select", "struct", "switch", "type", "var"]

/-- The keywords with their bytes. -/
def keywordTable : List (Bytes × String) := keywords.map fun word => (word.utf8, word)

/-- Signs of one to three bytes; longer ones come first. -/
def signs : List String :=
  ["<<=", ">>=", "&^=", "...", ":=", "==", "!=", "<=", ">=", "&&", "||", "<-", "++", "--", "<<",
    ">>", "&^", "+=", "-=", "*=", "/=", "%=", "&=", "|=", "^=", "+", "-", "*", "/", "%", "&", "|",
    "^", "<", ">", "=", "!", "(", ")", "[", "]", "\x7b", "\x7d", ",", ";", ".", ":", "~"]

/-- The signs with their bytes. -/
def signTable : List (Bytes × String) := signs.map fun sign => (sign.utf8, sign)

/-- Words after which the end of a line ends a statement. -/
def endingWords : List String := ["break", "continue", "fallthrough", "return"]

/-- Signs after which the end of a line ends a statement. -/
def endingSigns : List String := [")", "]", "\x7d", "++", "--"]

/-- Does the end of the line after such a token end a statement? -/
def endsStatement (kind : TokenKind) (sign : String) : Bool :=
  kind.isLiteral || (kind == .sign && (endingWords.contains sign || endingSigns.contains sign))

/-- May a code point begin a name? -/
def isNameStart (code : Nat) : Bool :=
  (97 ≤ code && code ≤ 122) || (65 ≤ code && code ≤ 90) || code == 95 ||
    (0x80 ≤ code && Text.isLetter code)

/-- May a code point continue a name? -/
def isNameRest (code : Nat) : Bool :=
  isNameStart code || (48 ≤ code && code ≤ 57) || (0x80 ≤ code && Text.isDigit code)

/-- Is the text a name? -/
def isIdentifier (text : Bytes) : Bool :=
  match Utf8.codes text with
  | [] => false
  | c :: rest => isNameStart c && rest.all isNameRest && (keywordTable.lookup text).isNone

end Token

/-- The precedence of a binary operator, zero for everything else. -/
def Sign.precedence (sign : String) : Nat :=
  if ["*", "/", "%", "<<", ">>", "&", "&^"].contains sign then 5
  else if ["+", "-", "|", "^"].contains sign then 4
  else if ["==", "!=", "<", "<=", ">", ">="].contains sign then 3
  else if sign == "&&" then 2
  else if sign == "||" then 1
  else 0

end TensorLang.Emit
