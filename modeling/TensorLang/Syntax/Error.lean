import TensorLang.Source.Span
import TensorLang.DType

/-!
# Syntax errors

Why a text is no program. Either a literal was rejected, or at some place the text does not continue
in any of the expected ways.

* `LiteralProblem` lists the ways in which a literal can be wrong.
* `SyntaxError.describe` says what is wrong without saying where, `SyntaxError.message` says both.
* `ParseError` holds all errors of one attempt.
-/

namespace TensorLang

/-- What a parser may look for at some place of the text. -/
inductive Label where
  /-- A fixed token. -/
  | token (text : Bytes)
  | digit
  | identifier
  | endOfInput
  deriving DecidableEq, Repr

namespace Label

/-- How an expectation is called. -/
def text : Label → Bytes
  | token t => "'".utf8 ++ t ++ "'".utf8
  | digit => "digit".utf8
  | identifier => "identifier".utf8
  | endOfInput => "end of input".utf8

end Label

/-- Reasons to reject a literal that is well-formed as a run of characters. -/
inductive LiteralProblem where
  /-- These digits spell a number outside the range of `int32`. -/
  | int32 (digits : Bytes)
  /-- These digits spell a number beyond the largest dimension. -/
  | dimension (digits : Bytes)
  /-- This word names no element type. -/
  | dtype (word : Bytes)
  deriving DecidableEq, Repr

namespace LiteralProblem

/-- The problem in words. -/
def message : LiteralProblem → Bytes
  | int32 digits => "integer literal ".utf8 ++ digits ++ " does not fit in int32".utf8
  | dimension digits => "dimension ".utf8 ++ digits ++ " is too large".utf8
  | dtype word => DType.unknownMessage word

end LiteralProblem

/-- One reason why a text is no program. -/
inductive SyntaxError where
  /-- Something other than `found` was needed. -/
  | mismatch (span : Span) (expected : List Bytes) (found : Bytes)
  /-- The text under the span is wrong in itself. -/
  | rejected (span : Span) (message : Bytes)
  deriving DecidableEq, Repr

namespace SyntaxError

/-- Where the error is. -/
def span : SyntaxError → Span
  | mismatch span _ _ | rejected span _ => span

/-- What was expected; nothing for a rejected literal. -/
def expected : SyntaxError → List Bytes
  | mismatch _ expected _ => expected
  | rejected _ _ => []

/-- What was found; nothing for a rejected literal. -/
def found : SyntaxError → Bytes
  | mismatch _ _ found => found
  | rejected _ _ => []

/-- What is wrong with the literal; nothing for a mismatch. -/
def problem : SyntaxError → Bytes
  | mismatch _ _ _ => []
  | rejected _ message => message

/-- `a`, `a or b`, `a, b or c`. -/
def alternatives : List Bytes → Bytes
  | [] => "something else".utf8
  | [one] => one
  | items =>
    Bytes.joinWith ", ".utf8 items.dropLast ++ " or ".utf8 ++ (items.getLast?).getD []

/-- What is wrong, without the place. -/
def describe : SyntaxError → Bytes
  | mismatch _ expected found =>
    "expected ".utf8 ++ alternatives expected ++ ", found ".utf8 ++ found
  | rejected _ message => message

/-- What is wrong, after the byte offsets of the place. -/
def message (e : SyntaxError) : Bytes :=
  Decimal.ofNat e.span.start ++ "..".utf8 ++ Decimal.ofNat e.span.stop ++ ": ".utf8 ++ e.describe

end SyntaxError

/-- All reasons why a text is no program; the first one leads. -/
structure ParseError where
  first : SyntaxError
  more : List SyntaxError
  deriving DecidableEq, Repr

namespace ParseError

/-- The errors in the order in which they were found. -/
def errors (e : ParseError) : List SyntaxError := e.first :: e.more

/-- Where the first error is. -/
def primary (e : ParseError) : Span := e.first.span

/-- All errors on one line. -/
def message (e : ParseError) : Bytes :=
  "failed to parse: ".utf8 ++ Bytes.joinWith "; ".utf8 (e.errors.map SyntaxError.message)

end ParseError

end TensorLang
