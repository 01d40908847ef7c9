import TensorLang.Text.Decomposition
import TensorLang.Text.Utf8

/-!
# Composed normal form

A text is cut into segments: a code point with the marks behind it and the code points that can join
it. Each segment is decomposed, its marks are ordered by their classes, and it is composed again. A
segment has at most thirty marks; where more follow each other, a combining grapheme joiner is put
in between.

Pairs are looked up by the low sixteen bits of both code points.

Malformed bytes stay as they are and never combine. Text in ASCII is always in normal form, which is
the statement `nfc_of_ascii`, and all that is used of the normal form elsewhere.
-/

namespace TensorLang.Text

/-- The values of the range that holds `code`, halving the index range `[lo, hi)`. -/
def searchMapping (table : Array ((Nat × Nat) × List Nat)) (code : Nat) :
    (fuel lo hi : Nat) → Option (List Nat)
  | 0, _, _ => none
  | fuel + 1, lo, hi =>
    if lo < hi then
      let mid := (lo + hi) / 2
      match table[mid]? with
      | some ((first, last), values) =>
        if last < code then searchMapping table code fuel (mid + 1) hi
        else if code < first then searchMapping table code fuel lo mid
        else some values
      | none => none
    else none

/-- The combining class of a code point. -/
def combiningClass (code : Nat) : Nat :=
  if code < 0x300 then 0
  else
    match searchMapping combiningClasses code 32 0 combiningClasses.size with
    | some (k :: _) => k
    | _ => 0

/-- The parts of a Hangul syllable. -/
def hangulParts? (code : Nat) : Option (List Nat) :=
  if 0xAC00 ≤ code && code < 0xAC00 + 11172 then
    let s := code - 0xAC00
    let lead := 0x1100 + s / 588
    let vowel := 0x1161 + s % 588 / 28
    some (if s % 28 = 0 then [lead, vowel] else [lead, vowel, 0x11A7 + s % 28])
  else none

/-- One step of canonical decomposition. -/
def decomposeOnce? (code : Nat) : Option (List Nat) :=
  match hangulParts? code with
  | some parts => some parts
  | none => searchMapping decompositions code 32 0 decompositions.size

/-- Full canonical decomposition; no chain in the tables is longer than `fuel`. -/
def decomposeFully : (fuel code : Nat) → List Nat
  | 0, code => [code]
  | fuel + 1, code =>
    match decomposeOnce? code with
    | some parts => parts.flatMap (decomposeFully fuel)
    | none => [code]

/-- Full canonical decomposition of a code point. -/
def decompose (code : Nat) : List Nat := if code < 0xC0 then [code] else decomposeFully 8 code

/-- The part of a code point by which pairs are looked up. -/
def pairKey (code : Nat) : Nat := code % 0x10000

/-- The pairs that compose, each with its composite. -/
def canonicalPairs : List ((Nat × Nat) × Nat) :=
  decompositions.toList.filterMap fun entry =>
    match entry with
    | ((code, _), [a, b]) =>
      if combiningClass a = 0 ∧ combiningClass code = 0 ∧ !compositionExclusions.contains code then
        some ((a, b), code)
      else none
    | _ => none

/-- The keys of the pairs that compose, each with its composite, in order. -/
def compositions : Array ((Nat × Nat) × Nat) :=
  ((canonicalPairs.map fun entry => ((pairKey entry.1.1, pairKey entry.1.2), entry.2)).mergeSort
    fun x y => x.1.1 < y.1.1 || (x.1.1 == y.1.1 && x.1.2 ≤ y.1.2)).toArray

/-- The second halves of pairs. -/
def secondHalves : List Nat := (canonicalPairs.map fun entry => entry.1.2).eraseDups

/-- Looks a pair up, halving the index range `[lo, hi)`. -/
def searchPair (a b : Nat) : (fuel lo hi : Nat) → Option Nat
  | 0, _, _ => none
  | fuel + 1, lo, hi =>
    if lo < hi then
      let mid := (lo + hi) / 2
      match compositions[mid]? with
      | some ((x, y), code) =>
        if x = a ∧ y = b then some code
        else if x < a ∨ (x = a ∧ y < b) then searchPair a b fuel (mid + 1) hi
        else searchPair a b fuel lo mid
      | none => none
    else none

/-- The composite of two code points, if they have one; Hangul is left out. -/
def composePair? (a b : Nat) : Option Nat :=
  searchPair (pairKey a) (pairKey b) 32 0 compositions.size

/-- The Hangul syllable that two parts make, if they make one. -/
def composeHangul? (a b : Nat) : Option Nat :=
  if 0x1100 ≤ a ∧ a < 0x1113 ∧ 0x1161 ≤ b ∧ b < 0x1176 then
    some (0xAC00 + ((a - 0x1100) * 21 + (b - 0x1161)) * 28)
  else if 0xAC00 ≤ a ∧ a < 0xAC00 + 11172 ∧ (a - 0xAC00) % 28 = 0 ∧ 0x11A8 ≤ b ∧ b < 0x11C3 then
    some (a + (b - 0x11A7))
  else none

/-- Can this code point join the one before it? -/
def combinesBackward (code : Nat) : Bool :=
  (0x1161 ≤ code && code < 0x1176) || (0x11A8 ≤ code && code < 0x11C3) ||
    (0x300 ≤ code && secondHalves.contains code)

/-! ### Segments -/

/-- Does the code point count as a mark? -/
def isMark (code : Nat) : Bool := combiningClass code ≠ 0 || combinesBackward code

/-- How many marks a code point begins and ends with when it is decomposed. -/
def markCounts (code : Nat) : Nat × Nat :=
  if code < 0xA8 then (0, 0)
  else
    match searchMapping compatibleMarks code 32 0 compatibleMarks.size with
    | some [leading, trailing] => (leading, trailing)
    | _ =>
      let parts := decompose code
      ((parts.takeWhile isMark).length, (parts.reverse.takeWhile isMark).length)

/-- The greatest number of marks in a row. -/
def maxMarks : Nat := 30

/-- The combining grapheme joiner. -/
def joiner : Nat := 0x34F

/-- Cuts code points into segments. `count` is the number of marks at the end of the current
segment, which stands in `segment`, the last code point first. -/
def segments (count : Nat) (segment : List Nat) : List Nat → List (List Nat)
  | [] => [segment.reverse]
  | c :: rest =>
    let (leading, trailing) := markCounts c
    if maxMarks < count + leading then
      (joiner :: segment).reverse :: segments leading [c] rest
    else if leading = 0 then segment.reverse :: segments trailing [c] rest
    else segments (count + leading) (c :: segment) rest

/-- A code point in a decomposed segment. -/
structure Letter where
  code : Nat
  /-- The combining class. -/
  rank : Nat := 0
  /-- Can it join the code point before it? -/
  joins : Bool := false
  deriving DecidableEq, Inhabited, Repr

/-- A code point decomposed. The parts of a Hangul syllable join by a rule of their own. -/
def lettersOf (code : Nat) : List Letter :=
  match hangulParts? code with
  | some parts => parts.map fun part => { code := part }
  | none =>
    (decompose code).map fun part => ⟨part, combiningClass part, combinesBackward part⟩

/-- Puts a letter behind those of its class or a lower one. -/
def insertLetter (x : Letter) (letters : List Letter) : List Letter :=
  if x.rank = 0 then letters ++ [x]
  else
    let tail := (letters.reverse.takeWhile fun y => x.rank < y.rank).length
    letters.take (letters.length - tail) ++ x :: letters.drop (letters.length - tail)

/-- Composes the parts of Hangul syllables. `done` are the letters composed so far, and `base` is
the index of the one that others join. -/
def composeSyllables (base : Nat) (done : List Letter) : List Letter → List Letter
  | [] => done
  | x :: rest =>
    let last := done.getLast?.getD default
    let base := if last.rank = 0 then done.length - 1 else base
    let isBlocked := base ≠ done.length - 1 && x.rank ≤ last.rank
    match if isBlocked then none else composeHangul? (done.getD base default).code x.code with
    | some code => composeSyllables base (done.set base { code }) rest
    | none => composeSyllables base (done ++ [x]) rest

/-- Composes the letters of a segment. `base` is the index of the letter that the last letter which
can join looked at: a letter that cannot join does not change it. -/
def composeLetters (base : Nat) (done : List Letter) : List Letter → List Letter
  | [] => done
  | x :: rest =>
    if 0x1100 ≤ x.code && x.code < 0x1200 then composeSyllables base done (x :: rest)
    else if x.joins then
      let last := done.getLast?.getD default
      let isBlocked := last.rank ≠ 0 && base ≠ done.length - 1 && x.rank ≤ last.rank
      let base := if last.rank = 0 then done.length - 1 else base
      match if isBlocked then none else composePair? (done.getD base default).code x.code with
      | some code => composeLetters base (done.set base { code }) rest
      | none => composeLetters base (done ++ [x]) rest
    else composeLetters base (done ++ [x]) rest

/-- The normal form of a segment. -/
def composeSegment (segment : List Nat) : List Nat :=
  match (segment.flatMap lettersOf).foldl (fun letters x => insertLetter x letters) [] with
  | [] => []
  | x :: rest => (composeLetters 0 [x] rest).map Letter.code

/-- A malformed byte as a number beyond all code points, so that it goes through unchanged. -/
def markedCode (piece : Nat × Bytes) : Nat :=
  match piece.2 with
  | [b] => if Utf8.isMalformed piece then 0x110000 + b.toNat else piece.1
  | _ => piece.1

/-- The bytes of a code point or of a marked malformed byte. -/
def encodeMarked (code : Nat) : Bytes :=
  if 0x110000 ≤ code then [UInt8.ofNat (code - 0x110000)] else Utf8.encode code

/-- The composed normal form of a text. -/
def nfc (text : Bytes) : Bytes :=
  if text.all (· < 0x80) then text
  else
    ((segments 0 [] ((Utf8.split text).map markedCode)).flatMap composeSegment).flatMap encodeMarked

/-- Text in ASCII is in normal form. -/
theorem nfc_of_ascii {text : Bytes} (h : ∀ b ∈ text, b < 0x80) : nfc text = text := by
  have : text.all (· < 0x80) = true := List.all_eq_true.2 fun b hb => decide_eq_true (h b hb)
  rw [nfc, if_pos this]

end TensorLang.Text
