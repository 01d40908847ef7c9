import Mathlib.Algebra.Group.Nat.Defs
import TensorLang.Proofs.Text.Pieces
import TensorLang.Source.FileSet

/-!
# Offsets and positions

Cut at an offset, the table of line starts has the start of the offset's line between the starts of
earlier lines and those behind the offset (`File.exists_lineStarts_eq`). The search ends there, so
the line of an offset is the one after as many newlines as there are before it, and its column
counts the bytes since the last of them (`File.position_eq`). What is cut out from this start to the
next are these bytes and what follows up to the next newline (`File.line_eq`); so the lines are the
pieces between newlines (`File.line_eq_splitLines`). For a span, the part of it on its first line is
told from what follows (`File.line_span`).

Lines and columns are 32-bit words, and count from one. In a file of `2 ^ 32 - 1` bytes, the longest
there is, one of them may be too great by one (`File.position_exact_limit`).
-/

namespace TensorLang

namespace Bytes

/-! ### Cutting into lines -/

/-- What stands before the first newline. -/
def firstLine (text : Bytes) : Bytes := text.takeWhile (· != 10)

/-- What stands behind the last newline. -/
def lastLine (text : Bytes) : Bytes := (firstLine text.reverse).reverse

theorem firstLine_append_of_not_mem {s : Bytes} (h : 10 ∉ s) (t : Bytes) :
    firstLine (s ++ t) = s ++ firstLine t := by
  refine List.takeWhile_append_of_pos fun b hb => ?_
  rw [bne_iff_ne]
  rintro rfl
  exact h hb

theorem firstLine_of_not_mem {s : Bytes} (h : 10 ∉ s) : firstLine s = s := by
  have happend := firstLine_append_of_not_mem h []
  rwa [List.append_nil, show firstLine [] = [] from rfl, List.append_nil] at happend

theorem firstLine_append_of_mem {s : Bytes} (h : 10 ∈ s) (t : Bytes) :
    firstLine (s ++ t) = firstLine s := by
  induction s with
  | nil => cases h
  | cons b s ih =>
    rw [firstLine, firstLine, List.cons_append, List.takeWhile_cons, List.takeWhile_cons]
    by_cases hb : b = 10
    · simp [hb]
    · have hs : 10 ∈ s := List.mem_of_ne_of_mem (Ne.symm hb) h
      simp only [firstLine] at ih
      rw [ih hs]

theorem not_mem_firstLine (text : Bytes) : 10 ∉ firstLine text := by
  intro h
  have hall : ((text.takeWhile (· != 10)).all (· != 10)) = true := List.all_takeWhile
  exact absurd (List.all_eq_true.mp hall 10 h) (by decide)

theorem lastLine_append_of_not_mem {t : Bytes} (h : 10 ∉ t) (s : Bytes) :
    lastLine (s ++ t) = lastLine s ++ t := by
  have hreverse : 10 ∉ t.reverse := fun hmem => h (List.mem_reverse.mp hmem)
  rw [lastLine, List.reverse_append, firstLine_append_of_not_mem hreverse, List.reverse_append,
    List.reverse_reverse, lastLine]

theorem not_mem_lastLine (text : Bytes) : 10 ∉ lastLine text := fun h =>
  not_mem_firstLine text.reverse (List.mem_reverse.mp h)

theorem lastLine_suffix (text : Bytes) : lastLine text <:+ text := by
  rw [← List.reverse_prefix, lastLine, List.reverse_reverse]
  exact List.takeWhile_prefix _

/-- A text is its last line, or ends in a newline and its last line. -/
theorem eq_lastLine_or (text : Bytes) :
    text = lastLine text ∨ ∃ before, text = before ++ 10 :: lastLine text := by
  have hcut : firstLine text.reverse ++ text.reverse.dropWhile (· != 10) = text.reverse :=
    List.takeWhile_append_dropWhile
  have hstop := List.head?_dropWhile_not (· != 10) text.reverse
  cases hdrop : text.reverse.dropWhile (· != 10) with
  | nil =>
    left
    rw [hdrop, List.append_nil] at hcut
    rw [lastLine, hcut, List.reverse_reverse]
  | cons b rest =>
    right
    rw [hdrop] at hcut hstop
    obtain rfl : b = 10 := by simpa using hstop
    refine ⟨rest.reverse, ?_⟩
    calc text = text.reverse.reverse := (List.reverse_reverse text).symm
      _ = (firstLine text.reverse ++ 10 :: rest).reverse := by rw [hcut]
      _ = rest.reverse ++ 10 :: lastLine text := by simp [lastLine]

/-- The first line of a text is cut out first. -/
theorem getElem?_splitLines_zero {s : Bytes} (h : 10 ∉ s) (t : Bytes) :
    (splitLines (s ++ t))[0]? = some (s ++ firstLine t) := by
  rw [← firstLine_append_of_not_mem h, splitLines]
  generalize s ++ t = text
  induction text with
  | nil => rfl
  | cons b text ih =>
    rw [splitOn_cons, firstLine, List.takeWhile_cons]
    by_cases hb : b = 10
    · simp [hb]
    · simp only [firstLine] at ih
      simp [hb, ih]

theorem length_splitLines (text : Bytes) : (splitLines text).length = text.count 10 + 1 := by
  rw [splitLines]
  induction text with
  | nil => rfl
  | cons b text ih =>
    rw [splitOn_cons, List.count_cons]
    split
    · rw [List.length_cons, ih]
    · rw [List.length_modifyHead, ih]

/-- **The line in which a text is cut in two.** -/
theorem getElem?_splitLines (s t : Bytes) :
    (splitLines (s ++ t))[s.count 10]? = some (lastLine s ++ firstLine t) := by
  have hzero := getElem?_splitLines_zero (not_mem_lastLine s) t
  have hcount : (lastLine s).count 10 = 0 := List.count_eq_zero.mpr (not_mem_lastLine s)
  rcases eq_lastLine_or s with h | ⟨before, h⟩
  · rw [← h] at hzero hcount
    rw [hcount, hzero, ← h]
  · -- the lines before the last newline come first, and there are as many as newlines
    have hlines : (splitLines before).length = s.count 10 := by
      conv_rhs => rw [h, List.count_append, List.count_cons_self, hcount]
      exact length_splitLines before
    have hsplit : splitLines (s ++ t) = splitLines before ++ splitLines (lastLine s ++ t) := by
      conv_lhs => rw [h, List.append_assoc, List.cons_append]
      exact splitOn_append_cons 10 before _
    rw [hsplit, ← hlines, List.getElem?_append_right (Nat.le_refl _), Nat.sub_self, hzero]

/-- Lines that were cut apart are put together again. -/
theorem joinWith_splitLines (text : Bytes) : joinWith [10] (splitLines text) = text :=
  joinWith_splitOn 10 text

end Bytes

/-- A text is cut behind any number of its newlines. -/
theorem Bytes.exists_take_count {text : Bytes} {k : Nat} (h : k ≤ text.count 10) :
    ∃ off ≤ text.length, (text.take off).count 10 = k := by
  induction text generalizing k with
  | nil => exact ⟨0, Nat.le_refl 0, (Nat.le_zero.mp h).symm⟩
  | cons b text ih =>
    cases k with
    | zero => exact ⟨0, Nat.zero_le _, rfl⟩
    | succ k =>
      rw [List.count_cons] at h
      by_cases hb : b = 10
      · obtain ⟨off, hle, hcount⟩ := ih (k := k) (by simpa [hb] using h)
        exact ⟨off + 1, Nat.succ_le_succ hle, by simp [hb, hcount]⟩
      · obtain ⟨off, hle, hcount⟩ := ih (k := k + 1) (by simpa [hb] using h)
        exact ⟨off + 1, Nat.succ_le_succ hle, by simp [hb, hcount]⟩

/-- The order of places: by line, then by column. -/
def LineCol.Before (a b : LineCol) : Prop := a.line < b.line ∨ (a.line = b.line ∧ a.col < b.col)

namespace File

/-! ### The table of line starts -/

theorem lineStartsFrom_append (offset : Nat) (s t : Bytes) :
    lineStartsFrom offset (s ++ t) =
      lineStartsFrom offset s ++ lineStartsFrom (offset + s.length) t := by
  induction s generalizing offset with
  | nil => rfl
  | cons b s ih =>
    have hlength : offset + 1 + s.length = offset + (b :: s).length := by
      rw [List.length_cons]
      omega
    rw [List.cons_append, lineStartsFrom, lineStartsFrom, ih, hlength]
    split <;> rfl

theorem length_lineStartsFrom (offset : Nat) (text : Bytes) :
    (lineStartsFrom offset text).length = text.count 10 := by
  induction text generalizing offset with
  | nil => rfl
  | cons b text ih =>
    rw [lineStartsFrom, List.count_cons]
    by_cases h : b = 10
    · rw [if_pos h, List.length_cons, ih, if_pos (beq_iff_eq.mpr h)]
    · rw [if_neg h, ih, if_neg (by simpa using h)]
      rfl

theorem bounds_of_mem_lineStartsFrom {offset start : Nat} {text : Bytes}
    (h : start ∈ lineStartsFrom offset text) : offset < start ∧ start ≤ offset + text.length := by
  induction text generalizing offset with
  | nil => cases h
  | cons b text ih =>
    have hlength : (b :: text).length = text.length + 1 := List.length_cons
    have htail : start ∈ lineStartsFrom (offset + 1) text →
        offset < start ∧ start ≤ offset + (b :: text).length := by
      intro hmem
      have := ih hmem
      omega
    rw [lineStartsFrom] at h
    split at h
    · rcases List.mem_cons.mp h with rfl | h
      · omega
      · exact htail h
    · exact htail h

/-- The first of the starts is behind the first line. -/
theorem head?_lineStartsFrom (offset : Nat) (text : Bytes) :
    (lineStartsFrom offset text).head? =
      if 10 ∈ text then some (offset + (Bytes.firstLine text).length + 1) else none := by
  induction text generalizing offset with
  | nil => rfl
  | cons b text ih =>
    rw [lineStartsFrom, Bytes.firstLine, List.takeWhile_cons]
    by_cases hb : b = 10
    · simp [hb]
    · have hmem : 10 ∈ b :: text ↔ 10 ∈ text := by simp [Ne.symm hb]
      have hne : (b != 10) = true := by simpa using hb
      simp only [if_neg hb, ih, hmem, hne, if_true, Bytes.firstLine, List.length_cons]
      split_ifs
      · rw [Option.some.injEq]
        omega
      · rfl

/-- The search comes to the start of the line, at once or with one step back. -/
theorem lineIndex_append {earlier later : List Nat} {start off : Nat} (hle : start ≤ off)
    (hearlier : ∀ a ∈ earlier, a < start) (hlater : ∀ a ∈ later, off < a) :
    lineIndex (earlier ++ start :: later) off = earlier.length := by
  rw [lineIndex]
  rcases Nat.eq_or_lt_of_le hle with rfl | hlt
  · have hfirst : Search.first (fun a => start ≤ a) (earlier ++ start :: later) =
        earlier.length := by
      refine Search.first_append (fun a ha => ?_) fun a ha => ?_
      · exact decide_eq_false (Nat.not_le.mpr (hearlier a ha))
      · rcases List.mem_cons.mp ha with rfl | ha
        · exact decide_eq_true (Nat.le_refl _)
        · exact decide_eq_true (Nat.le_of_lt (hlater a ha))
    rw [hfirst, if_pos (by simp)]
  · have hfirst : Search.first (fun a => off ≤ a) (earlier ++ start :: later) =
        (earlier ++ [start]).length := by
      rw [List.append_cons]
      refine Search.first_append (fun a ha => ?_) fun a ha => ?_
      · rcases List.mem_append.mp ha with ha | ha
        · exact decide_eq_false (Nat.not_le.mpr (Nat.lt_trans (hearlier a ha) hlt))
        · exact decide_eq_false (Nat.not_le.mpr (List.mem_singleton.mp ha ▸ hlt))
      · exact decide_eq_true (Nat.le_of_lt (hlater a ha))
    have hnot : later[0]? ≠ some off := fun hget =>
      absurd (hlater off (List.mem_of_getElem? hget)) (Nat.lt_irrefl off)
    rw [hfirst, List.append_cons, List.getElem?_append_right (Nat.le_refl _), Nat.sub_self,
      if_neg hnot, List.length_append, List.length_singleton, Nat.add_sub_cancel]

section Positions

variable (f : File) {off : Nat}

/-- **The table cut at an offset**: the starts of earlier lines, the start of the line with the
offset, and the starts behind the offset. -/
theorem exists_lineStarts_eq (h : off ≤ f.content.length) :
    ∃ earlier start,
      f.lineStarts = earlier ++ start :: lineStartsFrom off (f.content.drop off) ∧
      earlier.length = (f.content.take off).count 10 ∧ (∀ a ∈ earlier, a < start) ∧
      start + (Bytes.lastLine (f.content.take off)).length = off := by
  have hlength : (f.content.take off).length = off := by rw [List.length_take, Nat.min_eq_left h]
  have htable : f.lineStarts = (0 :: lineStartsFrom 0 (f.content.take off)) ++
      lineStartsFrom off (f.content.drop off) := by
    rw [lineStarts, List.cons_append]
    conv_lhs => rw [← List.take_append_drop off f.content, lineStartsFrom_append, hlength,
      Nat.zero_add]
  generalize f.content.take off = front at hlength htable
  have hnone : ∀ n, lineStartsFrom n (Bytes.lastLine front) = [] := fun n => by
    rw [← List.length_eq_zero_iff, length_lineStartsFrom]
    exact List.count_eq_zero.mpr (Bytes.not_mem_lastLine front)
  have hcount : (Bytes.lastLine front).count 10 = 0 :=
    List.count_eq_zero.mpr (Bytes.not_mem_lastLine front)
  rcases Bytes.eq_lastLine_or front with hfront | ⟨before, hfront⟩
  -- there is no newline before the offset, or there is a last one
  · refine ⟨[], 0, ?_, ?_, List.forall_mem_nil _, ?_⟩
    · rw [htable, hfront, hnone]
      rfl
    · rw [hfront, hcount]
      rfl
    · rw [← hfront, hlength, Nat.zero_add]
  · have hsum := congrArg List.length hfront
    rw [List.length_append, List.length_cons, hlength] at hsum
    refine ⟨0 :: lineStartsFrom 0 before, before.length + 1, ?_, ?_, fun a ha => ?_, by omega⟩
    · rw [htable]
      conv_lhs => rw [hfront, lineStartsFrom_append, lineStartsFrom, if_pos rfl, hnone]
      simp
    · rw [List.length_cons, length_lineStartsFrom]
      conv_rhs => rw [hfront, List.count_append, List.count_cons_self, hcount]
    · rcases List.mem_cons.mp ha with rfl | ha
      · exact Nat.succ_pos _
      · have hbounds := bounds_of_mem_lineStartsFrom ha
        omega

/-- **The position of an offset:** newlines before it and bytes since the last of them, as far as
they are 32-bit words. -/
theorem position_eq (h : off ≤ f.content.length) :
    f.position off = ⟨((f.content.take off).count 10 + 1) % UInt32.size,
      ((Bytes.lastLine (f.content.take off)).length + 1) % UInt32.size⟩ := by
  obtain ⟨earlier, start, htable, hcount, hearlier, hstart⟩ := f.exists_lineStarts_eq h
  have hbehind : ∀ a ∈ lineStartsFrom off (f.content.drop off), off < a := fun a ha =>
    (bounds_of_mem_lineStartsFrom ha).1
  have hindex : lineIndex f.lineStarts off = earlier.length := by
    rw [htable, lineIndex_append (by omega) hearlier hbehind]
  have hget : f.lineStarts[earlier.length]? = some start := by simp [htable]
  have hcol : off - start = (Bytes.lastLine (f.content.take off)).length := by omega
  rw [position, hindex, hget, Option.getD_some, hcount, hcol]

/-- **The line with an offset**: what stands on it before the offset, and what stands behind it. -/
theorem line_eq (h : off ≤ f.content.length) :
    f.line ((f.content.take off).count 10 + 1) =
      Bytes.lastLine (f.content.take off) ++ Bytes.firstLine (f.content.drop off) := by
  obtain ⟨earlier, start, htable, hcount, -, hstart⟩ := f.exists_lineStarts_eq h
  have hhere : f.lineStarts[earlier.length]? = some start := by simp [htable]
  have hnext : f.lineStarts[earlier.length + 1]? =
      (lineStartsFrom off (f.content.drop off)).head? := by
    rw [htable, List.getElem?_append_right (Nat.le_add_right _ 1), Nat.add_sub_cancel_left,
      List.getElem?_cons_succ, List.head?_eq_getElem?]
  -- the line ends behind the first line of what is left
  have hstop : (f.lineStarts[earlier.length + 1]?.map (· - 1)).getD f.content.length =
      off + (Bytes.firstLine (f.content.drop off)).length := by
    rw [hnext, head?_lineStartsFrom]
    split_ifs with hbreak
    · rfl
    · rw [Bytes.firstLine_of_not_mem hbreak, List.length_drop]
      exact (Nat.add_sub_cancel' h).symm
  have htake : f.content.take (off + (Bytes.firstLine (f.content.drop off)).length) =
      f.content.take off ++ Bytes.firstLine (f.content.drop off) := by
    rw [List.take_add]
    exact congrArg _ (List.prefix_iff_eq_take.mp (List.takeWhile_prefix _)).symm
  have hfront : (f.content.take off).drop start = Bytes.lastLine (f.content.take off) := by
    have hlength : (f.content.take off).length = off := by
      rw [List.length_take, Nat.min_eq_left h]
    have hsuffix := List.suffix_iff_eq_drop.mp (Bytes.lastLine_suffix (f.content.take off))
    rw [hlength] at hsuffix
    rw [hsuffix]
    congr 1
    omega
  rw [line, if_neg (Nat.succ_ne_zero _), Nat.add_sub_cancel, ← hcount, hhere]
  dsimp only
  rw [hstop, htake, List.drop_append_of_le_length, hfront]
  rw [List.length_take]
  omega

theorem position_eq_of_lt (h : off ≤ f.content.length)
    (hline : (f.content.take off).count 10 + 1 < UInt32.size)
    (hcol : (Bytes.lastLine (f.content.take off)).length + 1 < UInt32.size) :
    f.position off = ⟨1 + (f.content.take off).count 10,
      1 + (Bytes.lastLine (f.content.take off)).length⟩ := by
  rw [f.position_eq h, Nat.mod_eq_of_lt hline, Nat.mod_eq_of_lt hcol, Nat.add_comm 1,
    Nat.add_comm 1]

/-- The lines are the pieces between newlines. -/
theorem line_eq_splitLines (n : Nat) :
    f.line n = if n = 0 then [] else ((Bytes.splitLines f.content)[n - 1]?).getD [] := by
  cases n with
  | zero => rfl
  | succ k =>
    rw [if_neg (Nat.succ_ne_zero k), Nat.add_sub_cancel]
    by_cases hk : k ≤ f.content.count 10
    · obtain ⟨off, hoff, rfl⟩ := Bytes.exists_take_count hk
      have hcut := Bytes.getElem?_splitLines (f.content.take off) (f.content.drop off)
      rw [List.take_append_drop] at hcut
      rw [f.line_eq hoff, hcut, Option.getD_some]
    · have hlast : f.lineStarts.length = f.content.count 10 + 1 := by
        rw [lineStarts, List.length_cons, length_lineStartsFrom]
      have hnone : f.lineStarts[k]? = none := List.getElem?_eq_none (by omega)
      have hnone' : (Bytes.splitLines f.content)[k]? = none := by
        refine List.getElem?_eq_none ?_
        rw [Bytes.length_splitLines]
        omega
      rw [line, if_neg (Nat.succ_ne_zero k), Nat.add_sub_cancel, hnone, hnone', Option.getD_none]

/-- Later offsets are on later lines, or further on the same line. -/
theorem take_count_lt_or {off' : Nat} (hlt : off < off') (h : off' ≤ f.content.length) :
    (f.content.take off).count 10 < (f.content.take off').count 10 ∨
      (f.content.take off).count 10 = (f.content.take off').count 10 ∧
        (Bytes.lastLine (f.content.take off)).length <
          (Bytes.lastLine (f.content.take off')).length := by
  have htake : f.content.take off' =
      f.content.take off ++ (f.content.drop off).take (off' - off) := by
    rw [← List.take_add, Nat.add_sub_cancel' (Nat.le_of_lt hlt)]
  have hlength : ((f.content.drop off).take (off' - off)).length = off' - off := by
    rw [List.length_take, List.length_drop]
    omega
  rw [htake, List.count_append]
  by_cases hbreak : 10 ∈ (f.content.drop off).take (off' - off)
  · have hcount := List.count_pos_iff.mpr hbreak
    left
    omega
  · have hcount := List.count_eq_zero.mpr hbreak
    right
    rw [Bytes.lastLine_append_of_not_mem hbreak, List.length_append, hlength, hcount]
    omega

theorem lastLine_sublist (off : Nat) :
    (Bytes.lastLine (f.content.take off)).Sublist f.content :=
  (Bytes.lastLine_suffix _).sublist.trans (List.take_sublist off f.content)

/-! ### Lines and columns as 32-bit words -/

section Words

variable (hsize : f.content.length < UInt32.size)
include hsize

/-- A line is shorter than the content, unless it is all of it. -/
theorem length_add_one_lt (hcolumns : f.content.length + 1 < UInt32.size ∨ 10 ∈ f.content)
    {w : Bytes} (hw : 10 ∉ w) (hsub : w.Sublist f.content) : w.length + 1 < UInt32.size := by
  have hle := hsub.length_le
  rcases hcolumns with hshort | hmem
  · omega
  · have hne : w.length ≠ f.content.length := fun heq => hw (hsub.eq_of_length heq ▸ hmem)
    omega

/-- There are fewer newlines than bytes, unless there is nothing else. -/
theorem count_add_one_lt
    (hlines : f.content.length + 1 < UInt32.size ∨ ∃ b ∈ f.content, b ≠ 10) (off : Nat) :
    (f.content.take off).count 10 + 1 < UInt32.size := by
  have hle : (f.content.take off).count 10 ≤ f.content.count 10 :=
    (List.take_sublist off f.content).count_le 10
  have hcount : f.content.count 10 ≤ f.content.length := List.count_le_length
  rcases hlines with hshort | ⟨b, hb, hne⟩
  · omega
  · have hlt : f.content.count 10 ≠ f.content.length := fun heq =>
      hne (List.count_eq_length.mp heq b hb).symm
    omega

end Words

end Positions

/-- The lines with their numbers from one on are the pieces between newlines. -/
theorem map_line (f : File) :
    (List.range' 1 f.lineStarts.length).map f.line = Bytes.splitLines f.content := by
  have hlength : f.lineStarts.length = (Bytes.splitLines f.content).length := by
    rw [lineStarts, List.length_cons, length_lineStartsFrom, Bytes.length_splitLines]
  refine List.ext_getElem ?_ fun i hi hi' => ?_
  · rw [List.length_map, List.length_range', hlength]
  · rw [List.getElem_map, List.getElem_range', line_eq_splitLines, if_neg (by omega), Nat.one_mul,
      Nat.add_sub_cancel_left, List.getElem?_eq_getElem hi', Option.getD_some]

/-- **Positions are exact.** For every offset of a file, its end included: the line counts the
newlines before it, the column the bytes since the last of them; the table leads back to the offset;
and the column is within the line or one behind it. Later offsets have later positions. All this
holds as long as lines and columns are 32-bit words, and so for every file that is shorter than
`2 ^ 32 - 1` bytes, or has as many, and both newlines and other bytes among them. The lines with
newlines between them always are the content. -/
theorem position_exact (f : File) (hsize : f.content.length < UInt32.size) :
    ((f.content.length + 1 < UInt32.size ∨ 10 ∈ f.content ∧ ∃ b ∈ f.content, b ≠ 10) →
      ∀ off ≤ f.content.length,
        f.position off = ⟨1 + (f.content.take off).count 10,
          1 + (Bytes.lastLine (f.content.take off)).length⟩ ∧
        (∃ start, f.lineStarts[(f.position off).line - 1]? = some start ∧
          start + (f.position off).col - 1 = off) ∧
        (∀ off' < off, (f.position off').Before (f.position off)) ∧
        (f.position off).col - 1 ≤ (f.line (f.position off).line).length) ∧
    Bytes.joinWith [10] ((List.range' 1 f.lineStarts.length).map f.line) = f.content := by
  refine ⟨fun fits off h => ?_, ?_⟩
  · have hword : ∀ off ≤ f.content.length, f.position off =
        ⟨1 + (f.content.take off).count 10, 1 + (Bytes.lastLine (f.content.take off)).length⟩ :=
      fun off h => f.position_eq_of_lt h
        (f.count_add_one_lt hsize (fits.imp_right And.right) off)
        (f.length_add_one_lt hsize (fits.imp_right And.left) (Bytes.not_mem_lastLine _)
          (f.lastLine_sublist off))
    rw [hword off h]
    dsimp only
    refine ⟨rfl, ?_, fun off' hlt => ?_, ?_⟩
    · obtain ⟨earlier, start, htable, hcount, -, hstart⟩ := f.exists_lineStarts_eq h
      refine ⟨start, ?_, by omega⟩
      rw [Nat.add_sub_cancel_left, ← hcount]
      simp [htable]
    · rw [hword off' (by omega), LineCol.Before]
      dsimp only
      have hlater := f.take_count_lt_or hlt h
      omega
    · rw [Nat.add_comm 1 (List.count 10 _), f.line_eq h, List.length_append]
      omega
  · rw [map_line, Bytes.joinWith_splitLines]

/-- The end of a text that ends in a newline is on an empty line of its own, and a newline is on the
line that it ends. -/
theorem position_exact_newlines :
    let f : File := ⟨0, "m.tsa".utf8, "ab\n\ncd\n".utf8, 0⟩
    f.content.length + 1 < UInt32.size ∧ f.position 2 = ⟨1, 3⟩ ∧ f.position 3 = ⟨2, 1⟩ ∧
      f.position 7 = ⟨4, 1⟩ ∧ (f.position 3).Before (f.position 7) ∧
      Bytes.joinWith [10] ((List.range' 1 f.lineStarts.length).map f.line) = f.content := by
  intro f
  have fits : f.content.length + 1 < UInt32.size := by decide
  obtain ⟨hat, hjoin⟩ := position_exact f (Nat.lt_of_succ_lt fits)
  have hat := hat (.inl fits)
  exact ⟨fits, (hat 2 (by decide)).1.trans (by decide), (hat 3 (by decide)).1.trans (by decide),
    (hat 7 (by decide)).1.trans (by decide), (hat 7 (by decide)).2.2.1 3 (by decide), hjoin⟩

/-- A file of letters is one line. -/
theorem position_replicate (n : Nat) :
    (File.mk 0 "m.tsa".utf8 (List.replicate n 97) 0).position n = ⟨1, (n + 1) % UInt32.size⟩ := by
  have hletters : (10 : UInt8) ∉ List.replicate n 97 := fun h =>
    absurd (List.eq_of_mem_replicate h) (by decide)
  have hlength : (List.replicate n (97 : UInt8)).length = n := List.length_replicate
  have htake : (List.replicate n (97 : UInt8)).take n = List.replicate n 97 :=
    List.take_of_length_le (Nat.le_of_eq hlength)
  have hlast : Bytes.lastLine (List.replicate n 97) = List.replicate n 97 :=
    Bytes.lastLine_append_of_not_mem hletters []
  rw [position_eq _ (Nat.le_of_eq hlength.symm)]
  dsimp only
  rw [htake, hlast, hlength, List.count_eq_zero.mpr hletters]
  rfl

/-- The column behind a line of `2 ^ 32 - 1` bytes is no 32-bit word: it becomes zero, and the table
does not lead back to the offset. -/
theorem position_exact_limit :
    let f : File := ⟨0, "m.tsa".utf8, List.replicate (2 ^ 32 - 1) 97, 0⟩
    f.content.length < UInt32.size ∧ f.position f.content.length = ⟨1, 0⟩ ∧
      ¬∃ start, f.lineStarts[(f.position f.content.length).line - 1]? = some start ∧
        start + (f.position f.content.length).col - 1 = f.content.length := by
  intro f
  have hlength : f.content.length = 2 ^ 32 - 1 := List.length_replicate
  have hposition : f.position f.content.length = ⟨1, 0⟩ := by
    rw [hlength, position_replicate]
    rfl
  refine ⟨by rw [hlength]; decide, hposition, ?_⟩
  rw [hposition, hlength]
  rintro ⟨start, hstart, hsum⟩
  obtain rfl : 0 = start := Option.some.inj hstart
  exact absurd hsum (by decide)

/-! ### The first line of a span -/

theorem not_mem_line (f : File) (n : Nat) : 10 ∉ f.line n := by
  rw [line_eq_splitLines]
  split
  · exact List.not_mem_nil
  · cases hget : (Bytes.splitLines f.content)[n - 1]? with
    | none => exact List.not_mem_nil
    | some text => exact Bytes.not_mem_of_splitOn (List.mem_of_getElem? hget)

theorem line_sublist (f : File) (n : Nat) : (f.line n).Sublist f.content := by
  rw [line]
  split_ifs
  · exact List.nil_sublist _
  · split
    · exact List.nil_sublist _
    · exact (List.drop_sublist _ _).trans (List.take_sublist _ _)

section Span

variable (f : File) {span : Span}

theorem take_stop (hle : span.start ≤ span.stop) :
    f.content.take span.stop = f.content.take span.start ++ f.slice span := by
  have hcut := List.take_append_drop span.start (f.content.take span.stop)
  rw [List.take_take, Nat.min_eq_left hle] at hcut
  exact hcut.symm

theorem drop_start (hle : span.start ≤ span.stop) (hstop : span.stop ≤ f.content.length) :
    f.content.drop span.start = f.slice span ++ f.content.drop span.stop := by
  have hlength : span.start ≤ (f.content.take span.stop).length := by
    rw [List.length_take]
    omega
  rw [slice, ← List.drop_append_of_le_length hlength, List.take_append_drop]

/-- **The line on which a span begins:** what stands before the span, the part of the span on the
line, and the rest. The span ends on this line behind its part, or on a later line, and then there
is no rest. -/
theorem line_span (hsize : f.content.length < UInt32.size)
    (hline : (f.content.take span.start).count 10 + 1 < UInt32.size)
    (hcolumns : f.content.length + 1 < UInt32.size ∨ 10 ∈ f.content)
    (hle : span.start ≤ span.stop) (hstop : span.stop ≤ f.content.length) :
    ∃ rest, f.line (f.position span.start).line =
        Bytes.lastLine (f.content.take span.start) ++ (Bytes.firstLine (f.slice span) ++ rest) ∧
      if (f.position span.stop).line = (f.position span.start).line then
        (f.position span.stop).col = 1 + ((Bytes.lastLine (f.content.take span.start)).length +
          (Bytes.firstLine (f.slice span)).length)
      else rest = [] := by
  have hstart : span.start ≤ f.content.length := Nat.le_trans hle hstop
  have hcol : ∀ off, (Bytes.lastLine (f.content.take off)).length + 1 < UInt32.size := fun off =>
    f.length_add_one_lt hsize hcolumns (Bytes.not_mem_lastLine _) (f.lastLine_sublist off)
  rw [f.position_eq_of_lt hstart hline (hcol _)]
  dsimp only
  rw [Nat.add_comm 1 (List.count 10 _), f.line_eq hstart, f.drop_start hle hstop]
  by_cases hbreak : 10 ∈ f.slice span
  · -- the newline that ends the line is in the span
    refine ⟨[], ?_, ?_⟩
    · rw [Bytes.firstLine_append_of_mem hbreak, List.append_nil]
    · have hcount := List.count_pos_iff.mpr hbreak
      have hmore : (f.content.take span.stop).count 10 =
          (f.content.take span.start).count 10 + (f.slice span).count 10 := by
        rw [f.take_stop hle, List.count_append]
      have hbound : (f.content.take span.stop).count 10 ≤ f.content.length :=
        Nat.le_trans ((List.take_sublist _ _).count_le 10) List.count_le_length
      rw [f.position_eq hstop, if_neg]
      dsimp only
      -- the later line number is greater, or zero where it would be too great
      rcases Nat.lt_or_ge ((f.content.take span.stop).count 10 + 1) UInt32.size with hlt | hge
      · rw [Nat.mod_eq_of_lt hlt]
        omega
      · rw [show (f.content.take span.stop).count 10 + 1 = UInt32.size by omega, Nat.mod_self]
        omega
  · -- the whole span is on the line
    have hfirst : Bytes.firstLine (f.slice span) = f.slice span :=
      Bytes.firstLine_of_not_mem hbreak
    have hcount : (f.content.take span.stop).count 10 = (f.content.take span.start).count 10 := by
      rw [f.take_stop hle, List.count_append, List.count_eq_zero.mpr hbreak, Nat.add_zero]
    refine ⟨Bytes.firstLine (f.content.drop span.stop), ?_, ?_⟩
    · rw [Bytes.firstLine_append_of_not_mem hbreak, hfirst]
    · rw [f.position_eq_of_lt hstop (hcount ▸ hline) (hcol _),
        if_pos (by rw [hcount, Nat.add_comm]), f.take_stop hle,
        Bytes.lastLine_append_of_not_mem hbreak, hfirst, List.length_append]

end Span

end File

end TensorLang
