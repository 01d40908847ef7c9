import TensorLang.Emit.Scan

/-!
# Comments of emitted code

Comments stand between tokens and belong to no rule of the grammar. Those that follow each other
without a blank line form a group. A group right above a token leads it; a group at the end of a
line trails what stands in front of it.

* `Remark.attach` takes the comments out of a list of tokens and notes which group leads or trails
  which token.
-/

namespace TensorLang.Emit

/-- A comment. -/
structure Remark where
  offset : Nat
  text : Bytes
  deriving DecidableEq, Inhabited, Repr

namespace Remark

/-- Does the comment end where its line ends? -/
def isLine (r : Remark) : Bool := r.text[1]? == some 47

/-- The offset behind the comment. -/
def stop (r : Remark) : Nat := r.offset + r.text.length

/-- A token that is no comment, with the groups of comments that lead it and trail what is in front
of it; a missing group is empty. -/
structure Step where
  token : Token
  lead : List Remark := []
  trail : List Remark := []
  deriving DecidableEq, Inhabited, Repr

/-- The line on which a comment ends. -/
def lastLine (places : Places) (r : Remark) : Nat :=
  places.lineOf r.offset + (if r.isLine then 0 else r.text.count 10)

/-- Reads comments, each at most `gap` lines below the end of the one before; the first line counts
from `line`. Gives the group, the line on which it ends and the tokens behind it. -/
def takeGroup (places : Places) (gap line : Nat) : List Token → List Remark × Nat × List Token
  | [] => ([], line, [])
  | t :: rest =>
    if t.kind == .comment && places.lineOf t.offset ≤ line + gap then
      let r : Remark := ⟨t.offset, t.text⟩
      let (group, last, rest) := takeGroup places gap (r.lastLine places) rest
      (r :: group, last, rest)
    else ([], line, t :: rest)

/-- Reads the group at the beginning of a list of tokens. -/
def firstGroup (places : Places) (gap : Nat) (tokens : List Token) :
    List Remark × Nat × List Token :=
  match tokens with
  | [] => ([], 0, [])
  | t :: _ => takeGroup places gap (places.lineOf t.offset) tokens

/-- Reads groups up to the next token that is no comment; gives them, the line on which the last one
ends and the tokens behind. -/
def takeGroups (places : Places) : (fuel : Nat) → List Token →
    List (List Remark) × Option Nat × List Token
  | 0, tokens => ([], none, tokens)
  | fuel + 1, tokens =>
    match tokens with
    | t :: _ =>
      if t.kind == .comment then
        let (group, last, rest) := firstGroup places 1 tokens
        let (groups, line, rest) := takeGroups places fuel rest
        (group :: groups, line.or (some last), rest)
      else ([], none, tokens)
    | [] => ([], none, [])

/-- Does a group that ends on `line` end a line, in front of these tokens? -/
def endsLine (places : Places) (line : Nat) : List Token → Bool
  | [] => true
  | t :: _ => places.lineOf t.offset != line || t.is ";" || t.kind == .finish

/-- Takes the comments out of a list of tokens. `previous` is the line of the token in front of it.
Gives what is left and all groups in order. -/
def attachFrom (places : Places) :
    (fuel previous : Nat) → List Token → List Step × List (List Remark)
  | 0, _, _ => ([], [])
  | fuel + 1, previous, tokens =>
    match tokens with
    | [] => ([], [])
    | t :: rest =>
      if t.kind == .comment then
        let (trail, last, rest) :=
          if places.lineOf t.offset == previous then firstGroup places 0 tokens
          else ([], 0, tokens)
        let (groups, line, rest') := takeGroups places fuel rest
        match rest' with
        | [] => ([], (if trail.isEmpty then [] else [trail]) ++ groups)
        | u :: rest' =>
          let here := places.lineOf u.offset
          let lead := match line with
            | some line => if line + 1 == here then groups.getLast?.getD [] else []
            | none => []
          let step : Step := ⟨u, lead, if endsLine places last rest then trail else []⟩
          let (steps, more) := attachFrom places fuel here rest'
          (step :: steps, (if trail.isEmpty then [] else [trail]) ++ groups ++ more)
      else
        let (steps, groups) := attachFrom places fuel (places.lineOf t.offset) rest
        ({ token := t } :: steps, groups)

/-- Takes the comments out of the tokens of a text. -/
def attach (s : Scan) : List Step × List (List Remark) :=
  attachFrom s.places (s.tokens.length + 1) 0 s.tokens

end Remark

end TensorLang.Emit
