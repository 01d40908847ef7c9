import TensorLang.Text.Grapheme
import TensorLang.Text.Normal

/-!
# Display width

How many columns a text takes on a terminal. A text is cut into user-perceived characters, and each
of them is as wide as the first of its code points that has a width.

* `clusters` cuts a text into user-perceived characters.
* `width` adds up their columns.
* `truncate` cuts a text that is too wide and marks the cut.
-/

namespace TensorLang.Text

/-- Grapheme classes of code points. -/
inductive GraphemeClass where
  | other
  | control
  | extending
  | joiner
  | prepended
  | spacing
  | leading
  | vowel
  | trailing
  | regional
  | carriage
  | newline
  /-- A Hangul syllable without trailing consonant. -/
  | openSyllable
  /-- A Hangul syllable with one. -/
  | closedSyllable
  deriving DecidableEq, Repr

namespace GraphemeClass

/-- The class with the given number in the table. -/
def ofNumber : Nat → GraphemeClass
  | 1 => control
  | 2 => extending
  | 3 => joiner
  | 4 => prepended
  | 5 => spacing
  | 6 => leading
  | 7 => vowel
  | 8 => trailing
  | 9 => regional
  | 10 => carriage
  | 11 => newline
  | _ => other

/-- The class of a code point. -/
def ofCode (code : Nat) : GraphemeClass :=
  if 0x20 ≤ code && code < 0x7F then other
  else if 0xAC00 ≤ code && code < 0xAC00 + 11172 then
    if (code - 0xAC00) % 28 = 0 then openSyllable else closedSyllable
  else
    match searchMapping graphemeClasses code 32 0 graphemeClasses.size with
    | some (k :: _) => ofNumber k
    | _ => other

/-- Does this class end a line or stand alone? -/
def isBreaking : GraphemeClass → Bool
  | control | carriage | newline => true
  | _ => false

end GraphemeClass

/-- What matters about the text before a possible boundary. -/
structure ClusterState where
  /-- The class of the code point before. -/
  last : GraphemeClass
  /-- Is there a pictograph before, followed by extending marks only? -/
  afterPictograph : Bool
  /-- Is there such a pictograph and then a joiner right before? -/
  afterPictographJoiner : Bool
  /-- How many regional indicators stand right before? -/
  regionals : Nat

/-- The state behind `code`, coming from `before`. -/
def ClusterState.next (before : Option ClusterState) (code : Nat) : ClusterState :=
  let cls := GraphemeClass.ofCode code
  let run := (before.map ClusterState.afterPictograph).getD false
  { last := cls
    afterPictograph := pictographs.contains code || (run && cls == .extending)
    afterPictographJoiner := run && cls == .joiner
    regionals := if cls = .regional then (before.map ClusterState.regionals).getD 0 + 1 else 0 }

/-- Does `code` belong to the same user-perceived character as what stands before it? -/
def ClusterState.joins (s : ClusterState) (code : Nat) : Bool :=
  let cls := GraphemeClass.ofCode code
  if s.last = .carriage && cls = .newline then true
  else if s.last.isBreaking || cls.isBreaking then false
  else
    match s.last, cls with
    | .leading, .leading | .leading, .vowel | .leading, .openSyllable
  | .leading, .closedSyllable => true
    | .openSyllable, .vowel | .openSyllable, .trailing | .vowel, .vowel | .vowel, .trailing => true
    | .closedSyllable, .trailing | .trailing, .trailing => true
    | _, .extending | _, .joiner | _, .spacing => true
    | .prepended, _ => true
    | _, _ => (s.afterPictographJoiner && pictographs.contains code) ||
        (cls == .regional && s.regionals % 2 == 1)

/-- Collects pieces into clusters; `open` is the cluster being built, its last piece first. -/
def clustersFrom (pending : List (Nat × Bytes)) (s : Option ClusterState) :
    List (Nat × Bytes) → List (List (Nat × Bytes))
  | [] => if pending.isEmpty then [] else [pending.reverse]
  | piece :: rest =>
    let next := ClusterState.next s piece.1
    match s with
    | some before =>
      if before.joins piece.1 then clustersFrom (piece :: pending) (some next) rest
      else pending.reverse :: clustersFrom [piece] (some next) rest
    | none => clustersFrom [piece] (some next) rest

/-- The user-perceived characters of a text, each as its code points with their bytes. -/
def clusters (text : Bytes) : List (List (Nat × Bytes)) := clustersFrom [] none (Utf8.split text)

/-- The columns of a single code point. -/
def codeWidth (code : Nat) : Nat :=
  if code < 0x20 || (0x7F ≤ code && code ≤ 0x9F) || code == 0xAD then 0
  else if code < 0x300 then 1
  else if invisibleRanges.contains code || combiningRanges.contains code then 0
  else if wideRanges.contains code then 2
  else 1

/-- The columns of a user-perceived character: those of its first code point that has any. -/
def clusterWidth (cluster : List (Nat × Bytes)) : Nat :=
  ((cluster.map fun piece => codeWidth piece.1).find? (0 < ·)).getD 0

/-- The columns of a text. -/
def width (text : Bytes) : Nat := ((clusters text).map clusterWidth).foldr (· + ·) 0

/-- The longest beginning of the clusters that takes at most `limit` columns. -/
def takeWidth (limit : Int) : List (List (Nat × Bytes)) → Bytes
  | [] => []
  | c :: rest =>
    if limit < clusterWidth c then []
    else c.flatMap Prod.snd ++ takeWidth (limit - clusterWidth c) rest

/-- A text of at most `limit` columns stays; a wider one is cut so that it and `tail` fit. -/
def truncate (limit : Nat) (tail text : Bytes) : Bytes :=
  if width text ≤ limit then text
  else takeWidth ((limit : Int) - width tail) (clusters text) ++ tail

end TensorLang.Text
