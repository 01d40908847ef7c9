import TensorLang.Proofs.Text.Blanks
import TensorLang.Syntax.Parser

/-!
# Derivations

The language as a context-free grammar over terminals, independent of any way to read it. A text is
**laid out** as a list of terminals with runs of blanks around them (`Laid`), and the rules derive
trees from such lists:

```
dims    := (uint ('x' uint)*)?
fill    := '[' dims ';' uint (';' dtype)? ']'
range   := '[' uint '..' uint (';' uint)? ']'
atom    := fill | range | name
expr    := atom | expr '*' atom
stmt    := expr ';' | name '=' expr ';'
program := stmt*
```

There is no order among alternatives and nothing is greedy: a repetition (`Repeated`) may stop
anywhere, and a run of digits may be cut into two terminals as far as `Laid` is concerned. Every
terminal comes with its place in the text, and the trees have the spans that follow from the places;
where spans do not matter, they are erased.
-/

namespace TensorLang.Grammar

open Text (Blanks)

/-! ### Terminals -/

/-- Runs of digits: `[0-9]+`. -/
def IsNumber (digits : Bytes) : Prop := digits ≠ [] ∧ ∀ b ∈ digits, Decimal.isDigit b = true

/-- Names: `[A-Za-z_][A-Za-z0-9_]*`. -/
def IsName : Bytes → Prop
  | [] => False
  | b :: bs => isNameStart b = true ∧ ∀ c ∈ bs, isNamePart c = true

instance : DecidablePred IsName
  | [] => inferInstanceAs (Decidable False)
  -- not by trying all bytes
  | _ :: bs => @instDecidableAnd _ _ _ (List.decidableBAll (isNamePart · = true) bs)

/-- The terminals of the grammar. -/
inductive Terminal where
  | openBracket
  | closeBracket
  | semicolon
  | times
  | dots
  | star
  | equals
  | number (digits : Bytes) (h : IsNumber digits)
  | word (letters : Bytes) (h : IsName letters)

/-- How a terminal is written. The sign `times` is a letter, so the text of `times` is also the text
of a word. -/
def Terminal.text : Terminal → Bytes
  | openBracket => "[".utf8
  | closeBracket => "]".utf8
  | semicolon => ";".utf8
  | times => "x".utf8
  | dots => "..".utf8
  | star => "*".utf8
  | equals => "=".utf8
  | number digits _ => digits
  | word letters _ => letters

/-- A terminal at its place. -/
abbrev Lexeme := Spanned Terminal

/-- The text from offset `pos` of a file on is laid out as these lexemes, with runs of blanks
between and around them. -/
inductive Laid (file : Nat) : (pos : Nat) → (text : Bytes) → List Lexeme → Prop where
  | nil {pos : Nat} {w : Bytes} : Blanks w → Laid file pos w []
  | cons {pos : Nat} {w rest : Bytes} {t : Terminal} {ls : List Lexeme} :
      Blanks w → Laid file (pos + w.length + t.text.length) rest ls →
      Laid file pos (w ++ t.text ++ rest)
        (⟨t, ⟨file, pos + w.length, pos + w.length + t.text.length⟩⟩ :: ls)

/-! ### Literals -/

/-- A number that fits 32 bits with sign. -/
inductive Int32Literal : Lexeme → Spanned Int32 → Prop where
  | mk {digits : Bytes} {h : IsNumber digits} {s : Span} :
      Decimal.value digits < 2147483648 →
      Int32Literal ⟨.number digits h, s⟩ ⟨Int32.ofNat (Decimal.value digits), s⟩

/-- A number that fits 64 bits with sign. -/
inductive Dimension : Lexeme → Spanned Int64 → Prop where
  | mk {digits : Bytes} {h : IsNumber digits} {s : Span} :
      Decimal.value digits < 9223372036854775808 →
      Dimension ⟨.number digits h, s⟩ ⟨Int64.ofNat (Decimal.value digits), s⟩

/-- A word that spells an element type in any letter case. -/
inductive Annotation : Lexeme → Spanned DType → Prop where
  | mk {letters : Bytes} {h : IsName letters} {s : Span} {dt : DType} :
      (Bytes.toLowerAscii letters, dt) ∈ DType.spellings →
      Annotation ⟨.word letters h, s⟩ ⟨dt, s⟩

/-! ### Rules -/

/-- From the beginning of one span to the end of another in the same file. -/
def across (first last : Span) : Span := ⟨first.file, first.start, last.stop⟩

/-- Any number of repetitions of a rule. -/
inductive Repeated {α : Type} (rule : List Lexeme → α → Prop) : List Lexeme → List α → Prop where
  | nil : Repeated rule [] []
  | cons {ls ms : List Lexeme} {a : α} {as : List α} :
      rule ls a → Repeated rule ms as → Repeated rule (ls ++ ms) (a :: as)

/-- A dimension behind the sign for one more. -/
inductive MoreDims : List Lexeme → Spanned Int64 → Prop where
  | mk {x : Span} {l : Lexeme} {d : Spanned Int64} : Dimension l d → MoreDims [⟨.times, x⟩, l] d

/-- The dimensions of a tensor, possibly none. -/
inductive Dims : List Lexeme → List (Spanned Int64) → Prop where
  | none : Dims [] []
  | some {l : Lexeme} {d : Spanned Int64} {ls : List Lexeme} {ds : List (Spanned Int64)} :
      Dimension l d → Repeated MoreDims ls ds → Dims (l :: ls) (d :: ds)

/-- Tensors filled with one value. -/
inductive FillTensor : List Lexeme → Expr → Prop where
  | plain {first semi last : Span} {ls : List Lexeme} {shape : List (Spanned Int64)} {n : Lexeme}
      {value : Spanned Int32} :
      Dims ls shape → Int32Literal n value →
      FillTensor (⟨.openBracket, first⟩ :: (ls ++ [⟨.semicolon, semi⟩, n, ⟨.closeBracket, last⟩]))
        (.fill (across first last) value shape none)
  | typed {first semi semi' last : Span} {ls : List Lexeme} {shape : List (Spanned Int64)}
      {n a : Lexeme} {value : Spanned Int32} {dt : Spanned DType} :
      Dims ls shape → Int32Literal n value → Annotation a dt →
      FillTensor
        (⟨.openBracket, first⟩ ::
          (ls ++ [⟨.semicolon, semi⟩, n, ⟨.semicolon, semi'⟩, a, ⟨.closeBracket, last⟩]))
        (.fill (across first last) value shape (some dt))

/-- Tensors of consecutive integers. -/
inductive RangeTensor : List Lexeme → Expr → Prop where
  | plain {first between last : Span} {l m : Lexeme} {lo hi : Spanned Int32} :
      Int32Literal l lo → Int32Literal m hi →
      RangeTensor [⟨.openBracket, first⟩, l, ⟨.dots, between⟩, m, ⟨.closeBracket, last⟩]
        (.range (across first last) lo hi none)
  | stepped {first between semi last : Span} {l m n : Lexeme} {lo hi step : Spanned Int32} :
      Int32Literal l lo → Int32Literal m hi → Int32Literal n step →
      RangeTensor
        [⟨.openBracket, first⟩, l, ⟨.dots, between⟩, m, ⟨.semicolon, semi⟩, n,
          ⟨.closeBracket, last⟩]
        (.range (across first last) lo hi (some step))

/-- Operands. -/
inductive Atom : List Lexeme → Expr → Prop where
  | fill {ls : List Lexeme} {e : Expr} : FillTensor ls e → Atom ls e
  | range {ls : List Lexeme} {e : Expr} : RangeTensor ls e → Atom ls e
  | name {letters : Bytes} {h : IsName letters} {s : Span} :
      Atom [⟨.word letters h, s⟩] (.var s letters)

/-- Products, which associate to the left. -/
inductive Product : List Lexeme → Expr → Prop where
  | atom {ls : List Lexeme} {e : Expr} : Atom ls e → Product ls e
  | mul {ls ms : List Lexeme} {lhs rhs : Expr} {op : Span} :
      Product ls lhs → Atom ms rhs →
      Product (ls ++ ⟨.star, op⟩ :: ms)
        (.binary (lhs.span.cover rhs.span) ⟨.mul, op⟩ lhs rhs)

/-- Statements. -/
inductive Statement : List Lexeme → Stmt → Prop where
  | eval {ls : List Lexeme} {e : Expr} {semi : Span} :
      Product ls e → Statement (ls ++ [⟨.semicolon, semi⟩]) (.eval (across e.span semi) e)
  | assign {letters : Bytes} {h : IsName letters} {s eq semi : Span} {ls : List Lexeme} {e : Expr} :
      Product ls e →
      Statement (⟨.word letters h, s⟩ :: ⟨.equals, eq⟩ :: (ls ++ [⟨.semicolon, semi⟩]))
        (.assign (across s semi) ⟨letters, s⟩ e)

/-- Programs. -/
abbrev Statements : List Lexeme → List Stmt → Prop := Repeated Statement

/-- The text is a sentence of the language, with these statements as its tree. -/
def Sentence (file : Nat) (text : Bytes) (stmts : List Stmt) : Prop :=
  ∃ ls, Laid file 0 text ls ∧ Statements ls stmts

end TensorLang.Grammar
