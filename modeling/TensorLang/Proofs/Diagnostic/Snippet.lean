import TensorLang.Diagnostic.Snippet
import TensorLang.Proofs.Source.Positions
import TensorLang.Proofs.Text.Ansi
import TensorLang.Proofs.Text.Width

/-!
# Snippets and their markers

The first line of a span consists of what stands before the span, of the part of the span on this
line, and of a rest (`File.line_span`). The columns of both ends of the part are within the line, so
there is always something to show (`SnippetOptions.snippet_eq`).

The marker is padded by the columns of what stands before the span, and is as wide as the part. On a
line of printable ASCII and tabs, columns are bytes once tabs are blanks. The margins of both lines
are equally wide, because the margin is as wide as the number of the last line. So what a terminal
shows above the marker is the part (`SnippetOptions.snippet_aligned`).
-/

namespace TensorLang

/-- A line of text, with the newline that ends it. -/
def Bytes.IsLine (text : Bytes) : Prop := ∃ body, text = body ++ [10] ∧ 10 ∉ body

/-- The text has printable ASCII bytes and tabs only. -/
def Bytes.IsTabbed (text : Bytes) : Prop := ∀ b ∈ text, b = 9 ∨ (32 ≤ b ∧ b < 127)

instance : DecidablePred Bytes.IsTabbed := fun text =>
  List.decidableBAll (fun b => b = 9 ∨ (32 ≤ b ∧ b < 127)) text

namespace SnippetOptions

open Ansi

/-! ### Tabs -/

theorem expandTabs_append (s t : Bytes) : expandTabs (s ++ t) = expandTabs s ++ expandTabs t :=
  List.flatMap_append

theorem mem_expandTabs {text : Bytes} {b : UInt8} (h : b ∈ expandTabs text) :
    b = 32 ∨ (b ∈ text ∧ b ≠ 9) := by
  obtain ⟨c, hc, hb⟩ := List.mem_flatMap.mp h
  split at hb
  · exact .inl (List.eq_of_mem_replicate hb)
  · next hne =>
    obtain rfl := List.mem_singleton.mp hb
    exact .inr ⟨hc, by simpa using hne⟩

theorem isPrintable_expandTabs {text : Bytes} (h : text.IsTabbed) :
    (expandTabs text).IsPrintable := by
  intro b hb
  rcases mem_expandTabs hb with rfl | ⟨hmem, hne⟩
  · decide
  · exact (h b hmem).resolve_left hne

section Shown

variable (o : SnippetOptions) (f : File)

/-! ### Source lines -/

/-- The number of lines shown above a line. -/
def above (line : Nat) : Nat := min (max o.context 0).toNat (line - 1)

/-- What a terminal shows before the text of a line: its number and a bar. -/
def margin (line : Nat) : Bytes := " ".utf8 ++ Decimal.ofNat line ++ " | ".utf8

theorem numbers_eq {line : Nat} (h : 1 ≤ line) :
    (List.range (line + 1 - o.firstLine line)).map (o.firstLine line + ·) =
      List.range' (line - o.above line) (o.above line + 1) := by
  have hfirst : o.firstLine line = line - o.above line := by
    rw [firstLine, above]
    split
    · split <;> omega
    · omega
  have habove : o.above line ≤ line - 1 := Nat.min_le_right _ _
  rw [hfirst, List.range'_eq_map_range]
  congr 2
  omega

/-- The number of a line, with blanks before it, holds digits and blanks only. -/
theorem not_mem_number {b : UInt8} (hblank : b ≠ 32) (hdigit : Decimal.isDigit b = false)
    (w n : Nat) : b ∉ Bytes.padLeft w (Decimal.ofNat n) := by
  rw [Bytes.padLeft, List.mem_append, not_or]
  exact ⟨fun h => hblank (List.eq_of_mem_replicate h), Decimal.not_mem_ofNat hdigit n⟩

section Unbounded

variable (hwidth : o.width = 0)
include hwidth

theorem sourceLine_eq (w n : Nat) :
    o.sourceLine f w n = " ".utf8 ++ (o.gutter (Bytes.padLeft w (Decimal.ofNat n)) ++ (" ".utf8 ++
      (o.gutter "|".utf8 ++ (" ".utf8 ++ (expandTabs (f.line n) ++ [10]))))) := by
  rw [sourceLine, hwidth, if_neg (Nat.lt_irrefl 0)]
  simp only [List.append_assoc]
  rfl

theorem isLine_sourceLine (w n : Nat) : (o.sourceLine f w n).IsLine := by
  have hnumber : 10 ∉ o.gutter (Bytes.padLeft w (Decimal.ofNat n)) :=
    not_mem_paint _ _ (by decide) (by decide) (not_mem_number (by decide) (by decide) w n)
  have hbar : 10 ∉ o.gutter "|".utf8 := not_mem_paint _ _ (by decide) (by decide) (by decide)
  have htext : 10 ∉ expandTabs (f.line n) := by
    intro h
    rcases mem_expandTabs h with h | ⟨h, -⟩
    · cases h
    · exact f.not_mem_line n h
  have hblank : 10 ∉ " ".utf8 := by decide
  refine ⟨" ".utf8 ++ (o.gutter (Bytes.padLeft w (Decimal.ofNat n)) ++ (" ".utf8 ++
      (o.gutter "|".utf8 ++ (" ".utf8 ++ expandTabs (f.line n))))), ?_, ?_⟩
  · rw [sourceLine_eq o f hwidth]
    simp only [List.append_assoc]
  · simp only [List.mem_append, hblank, hnumber, hbar, htext, or_self, not_false_eq_true]

/-- A terminal shows a source line of printable ASCII and tabs with its tabs as blanks, behind
its number. -/
theorem visible_sourceLine {line : Nat} (h : (f.line line).IsTabbed) :
    visible (o.sourceLine f (Decimal.ofNat line).length line) =
      margin line ++ expandTabs (f.line line) ++ [10] := by
  have hpad : Bytes.padLeft (Decimal.ofNat line).length (Decimal.ofNat line) =
      Decimal.ofNat line := by
    rw [Bytes.padLeft, Nat.sub_self]
    rfl
  have hnumber : 0x1B ∉ Decimal.ofNat line := Decimal.not_mem_ofNat (by decide) line
  have htext : 0x1B ∉ expandTabs (f.line line) := fun hmem =>
    absurd (isPrintable_expandTabs h 0x1B hmem).1 (by decide)
  have hblank : 0x1B ∉ " ".utf8 := by decide
  have hbar : 0x1B ∉ "|".utf8 := by decide
  have hutf8 : " | ".utf8 = " ".utf8 ++ ("|".utf8 ++ " ".utf8) := by decide
  rw [sourceLine_eq o f hwidth, hpad, gutter, gutter, visible_append hblank,
    visible_paint_append _ _ hnumber, visible_append hblank, visible_paint_append _ _ hbar,
    visible_append hblank, visible_append htext, visible_of_not_mem (by decide), margin, hutf8]
  simp only [List.append_assoc]

end Unbounded

/-! ### The marker -/

/-- What stands before the marker. -/
def markerLead (w pad : Nat) (style : List Attribute) : Bytes :=
  " ".utf8 ++ (Bytes.blanks w ++ (" ".utf8 ++ (o.gutter "|".utf8 ++ (" ".utf8 ++
    (Bytes.blanks pad ++ opening o.color style)))))

/-- What stands behind the marker, up to the newline. -/
def markerTail (label : Bytes) (style : List Attribute) : Bytes :=
  (if label.isEmpty then [] else " ".utf8 ++ label) ++ closing o.color style

theorem markerLine_eq (w : Nat) (before part rest label : Bytes) (style : List Attribute) :
    o.markerLine w (before ++ (part ++ rest)) before.length (before.length + part.length) label
        style =
      o.markerLead w (Text.width (expandTabs before)) style ++
        94 :: List.replicate (max (Text.width (expandTabs part)) 1 - 1) 126 ++
        o.markerTail label style ++ [10] := by
  have hbefore : (before ++ (part ++ rest)).take before.length = before := List.take_left
  have hcovered : ((before ++ (part ++ rest)).take (before.length + part.length)).drop
      before.length = part := by
    rw [← List.append_assoc, ← List.length_append, List.take_left, List.drop_left]
  rw [markerLine, hbefore, hcovered, paint_eq, markerLead, markerTail]
  simp only [List.append_assoc, List.cons_append]
  rfl

theorem not_mem_markerLead {b : UInt8} (hsign : b ∉ ([0x1B, 91, 59, 109] : Bytes))
    (hdigit : Decimal.isDigit b = false) (hblank : b ≠ 32) (hbar : b ≠ 124) (w pad : Nat)
    (style : List Attribute) : b ∉ o.markerLead w pad style := by
  have hblanks : ∀ n, b ∉ Bytes.blanks n := fun n h => hblank (List.eq_of_mem_replicate h)
  have hgutter : b ∉ o.gutter "|".utf8 :=
    not_mem_paint _ _ hsign hdigit fun h => hbar (List.mem_singleton.mp h)
  have hopening : b ∉ opening o.color style := not_mem_opening _ _ hsign hdigit
  have hone : b ∉ " ".utf8 := hblanks 1
  simp only [markerLead, List.mem_append, hblanks, hgutter, hopening, hone, or_self,
    not_false_eq_true]

/-- A terminal shows as many columns before the marker as there are bytes in the margin and in the
text before the span. -/
theorem length_visible_markerLead (line pad : Nat) (style : List Attribute) :
    (visible (o.markerLead (Decimal.ofNat line).length pad style)).length =
      (margin line).length + pad := by
  have hblanks : ∀ n, 0x1B ∉ Bytes.blanks n := fun n h =>
    absurd (List.eq_of_mem_replicate h) (by decide)
  have hbar : 0x1B ∉ "|".utf8 := by decide
  have hone : " ".utf8 = Bytes.blanks 1 := by decide
  rw [markerLead, hone, visible_append (hblanks 1), visible_append (hblanks _),
    visible_append (hblanks 1), gutter, visible_paint_append _ _ hbar, visible_append (hblanks 1),
    visible_append (hblanks pad), ← List.append_nil (opening o.color style),
    visible_opening_append, margin]
  simp only [List.length_append, Bytes.blanks, List.length_replicate]
  have hlengths : " ".utf8.length = 1 ∧ "|".utf8.length = 1 ∧ " | ".utf8.length = 3 ∧
    (visible []).length = 0 := by decide
  omega

/-- The marker ends where its last tilde stands. -/
theorem head?_markerTail (label : Bytes) (style : List Attribute) :
    (o.markerTail label style ++ [10]).head? ≠ some 126 := by
  rw [markerTail]
  split
  · -- no label: what switches the style off, if anything, begins an escape sequence
    rw [closing]
    split
    · obtain ⟨body, hsequence, -⟩ := sequence_eq (style.map Attribute.offCode)
      rw [hsequence]
      change some (0x1B : UInt8) ≠ some 126
      decide
    · decide
  · change some (32 : UInt8) ≠ some 126
    decide

/-- The marker is on one line, as far as its label is. -/
theorem count_marker (w pad tildes : Nat) (label : Bytes) (style : List Attribute) :
    (o.markerLead w pad style ++ 94 :: List.replicate tildes 126 ++
      o.markerTail label style).count 10 = label.count 10 := by
  have hlead : (o.markerLead w pad style).count 10 = 0 := List.count_eq_zero.mpr
    (o.not_mem_markerLead (by decide) (by decide) (by decide) (by decide) w pad style)
  have hclosing : (closing o.color style).count 10 = 0 := List.count_eq_zero.mpr
    (not_mem_closing _ _ (by decide) (by decide))
  have hlabel : (if label.isEmpty then [] else " ".utf8 ++ label).count 10 = label.count 10 := by
    split
    · next h => rw [List.isEmpty_iff.mp h]
    · rw [List.count_append]
      exact Nat.zero_add _
  have htildes : (94 :: List.replicate tildes 126 : Bytes).count 10 = 0 := by
    rw [List.count_cons_of_ne (by decide), List.count_replicate, if_neg (by decide)]
  rw [markerTail, List.count_append, List.count_append, List.count_append, hlead, hclosing, hlabel,
    htildes]
  omega

end Shown

/-- On a terminal, the marker `^~~~` in one line is below `part` of the line above it, and `left`
stands before this part. If the part is empty, the marker is below one column. -/
def Underlines (source marker left part : Bytes) : Prop :=
  ∃ lead tildes tail right,
    marker = lead ++ 94 :: List.replicate tildes 126 ++ tail ∧
    94 ∉ lead ∧ tail.head? ≠ some 126 ∧
    visible source = left ++ part ++ right ∧
    (visible lead).length = left.length ∧ tildes + 1 = max part.length 1

theorem underlines_markerLine (o : SnippetOptions) (f : File) (hwidth : o.width = 0) {line : Nat}
    {before part rest : Bytes} (hline : f.line line = before ++ (part ++ rest))
    (h : (f.line line).IsTabbed) (label : Bytes) (style : List Attribute) :
    Underlines (o.sourceLine f (Decimal.ofNat line).length line)
      (o.markerLine (Decimal.ofNat line).length (f.line line) before.length
        (before.length + part.length) label style)
      (margin line ++ expandTabs before) (expandTabs part) := by
  have hsource := o.visible_sourceLine f hwidth h
  rw [hline, Bytes.IsTabbed, List.forall_mem_append, List.forall_mem_append] at h
  obtain ⟨hbefore, hpart, -⟩ := h
  -- without tabs, columns are bytes
  have hpad := Text.width_of_isPrintable (isPrintable_expandTabs hbefore)
  have hcovered := Text.width_of_isPrintable (isPrintable_expandTabs hpart)
  refine ⟨o.markerLead (Decimal.ofNat line).length (Text.width (expandTabs before)) style,
    max (Text.width (expandTabs part)) 1 - 1, o.markerTail label style ++ [10],
    expandTabs rest ++ [10], ?_, ?_, o.head?_markerTail label style, ?_, ?_, ?_⟩
  · rw [hline, markerLine_eq, List.append_assoc]
  · exact o.not_mem_markerLead (by decide) (by decide) (by decide) (by decide) _ _ style
  · rw [hsource, hline, expandTabs_append, expandTabs_append]
    simp only [List.append_assoc]
  · rw [length_visible_markerLead, hpad, List.length_append]
  · rw [hcovered]
    omega

/-! ### Snippets -/

/-- A column that is within a line or one behind it stays as it is. -/
theorem beforeCol_clampCol {line : Bytes} (hline : line.length + 1 < UInt32.size) {n : Nat}
    (hn : n ≤ line.length) : beforeCol (clampCol (1 + n) line) = n := by
  have hend : endCol line = line.length + 1 := Nat.mod_eq_of_lt hline
  have hsum : 1 + n + (UInt32.size - 1) = n + UInt32.size := by
    simp only [UInt32.size]
    omega
  rw [clampCol, if_neg (by omega), hend, Nat.min_eq_left (by omega), beforeCol, hsum,
    Nat.add_mod_right, Nat.mod_eq_of_lt (by omega)]

/-- The source lines and the marker of a span that begins behind `before` and covers `part` on its
first line. -/
theorem snippet_eq (o : SnippetOptions) {fs : FileSet} {f : File} {span : Span}
    (hfile : fs.get? span.file = some f) {line : Nat} {before part rest : Bytes}
    (hone : 1 ≤ line) (hlast : line + 1 ≠ UInt32.size)
    (hline : f.line line = before ++ (part ++ rest))
    (hlength : (f.line line).length + 1 < UInt32.size)
    (hstart : f.position span.start = ⟨line, 1 + before.length⟩)
    (hstop : if (f.position span.stop).line = line then
        (f.position span.stop).col = 1 + (before.length + part.length)
      else rest = []) (label : Bytes) (style : List Attribute) :
    o.snippet fs span label style =
      some ((List.range' (line - o.above line) (o.above line + 1)).flatMap
          (o.sourceLine f (Decimal.ofNat line).length) ++
        o.markerLine (Decimal.ofNat line).length (f.line line) before.length
          (before.length + part.length) label style) := by
  have hsum : (f.line line).length = before.length + (part.length + rest.length) := by
    rw [hline, List.length_append, List.length_append]
  have hleft : beforeCol (clampCol (1 + before.length) (f.line line)) = before.length :=
    beforeCol_clampCol hlength (by omega)
  -- a part that goes on to the end of the line ends one behind it, too
  have hright : beforeCol (if (f.position span.stop).line = line then
      clampCol (f.position span.stop).col (f.line line) else endCol (f.line line)) =
      before.length + part.length := by
    split at hstop
    · next hsame => rw [if_pos hsame, hstop, beforeCol_clampCol hlength (by omega)]
    · next hlater =>
      have hend := beforeCol_clampCol hlength (Nat.le_refl (f.line line).length)
      rw [clampCol, if_neg (by omega), endCol, Nat.mod_eq_of_lt hlength,
        Nat.min_eq_left (by omega)] at hend
      rw [hstop, List.length_nil] at hsum
      rw [if_neg hlater, endCol, Nat.mod_eq_of_lt hlength, Nat.add_comm, hend]
      omega
  simp only [snippet, FileSet.resolve, hfile, hstart]
  rw [hleft, hright, if_neg hlast, if_pos (by omega), o.numbers_eq hone]

/-- **Snippets exist, and their markers are aligned.** For every span within a file, and lines that
are not cut: the snippet consists of the lines above, as far as they are wanted and there are any,
of the line on which the span begins, and of a marker. Each is on one line, as far as the label is.
If the span begins on a line of printable ASCII and tabs, this line is shown with its tabs as blanks
behind its number, and the marker is below the part of the span on it.

The number of the line must be less than the greatest 32-bit word, and the column behind the line
must be a 32-bit word. -/
theorem snippet_aligned (o : SnippetOptions) (fs : FileSet) (f : File) (span : Span)
    (label : Bytes) (style : List Attribute) (hwidth : o.width = 0)
    (hfile : fs.get? span.file = some f) (hsize : f.content.length < UInt32.size)
    (hlines : (f.content.take span.start).count 10 + 2 < UInt32.size)
    (hcolumns : f.content.length + 1 < UInt32.size ∨ 10 ∈ f.content)
    (hle : span.start ≤ span.stop) (hstop : span.stop ≤ f.content.length) :
    let line := (f.position span.start).line
    let source := o.sourceLine f (Decimal.ofNat line).length
    ∃ marker,
      o.snippet fs span label style =
        some ((List.range' (line - o.above line) (o.above line + 1)).flatMap source ++ marker) ∧
      (∀ n, (source n).IsLine) ∧
      (∃ body, marker = body ++ [10] ∧ body.count 10 = label.count 10) ∧
      ((f.line line).IsTabbed →
        visible (source line) = margin line ++ expandTabs (f.line line) ++ [10] ∧
        Underlines (source line) marker
          (margin line ++ expandTabs (Bytes.lastLine (f.content.take span.start)))
          (expandTabs (Bytes.firstLine (f.slice span)))) := by
  intro line source
  have hstart : span.start ≤ f.content.length := Nat.le_trans hle hstop
  obtain ⟨rest, hline, hend⟩ := f.line_span hsize (Nat.lt_of_succ_lt hlines) hcolumns hle hstop
  have hposition := f.position_eq_of_lt hstart (Nat.lt_of_succ_lt hlines)
    (f.length_add_one_lt hsize hcolumns (Bytes.not_mem_lastLine _) (f.lastLine_sublist _))
  have hnumber : line = 1 + (f.content.take span.start).count 10 :=
    congrArg LineCol.line hposition
  have hlength : (f.line line).length + 1 < UInt32.size :=
    f.length_add_one_lt hsize hcolumns (f.not_mem_line line) (f.line_sublist line)
  rw [← hnumber] at hposition
  refine ⟨_, o.snippet_eq hfile (by omega) (by omega) hline hlength hposition hend label style,
    o.isLine_sourceLine f hwidth _, ?_, fun h => ⟨o.visible_sourceLine f hwidth h,
      o.underlines_markerLine f hwidth hline h label style⟩⟩
  rw [hline, markerLine_eq]
  exact ⟨_, rfl, o.count_marker _ _ _ label style⟩

/-- A span from the middle of a line into the next, behind a tab and in colour. -/
theorem snippet_aligned_tab :
    let f : File := ⟨0, "m.tsa".utf8, "x\n\tab\nc".utf8, 0⟩
    let o : SnippetOptions := ⟨true, 3, .auto, 0, true⟩
    ∃ marker, o.snippet ⟨#[f], [], []⟩ ⟨0, 4, 7⟩ "here".utf8 [.red] =
        some ([1, 2].flatMap (o.sourceLine f 1) ++ marker) ∧
      Underlines (o.sourceLine f 1 2) marker " 2 |     a".utf8 "b".utf8 := by
  intro f o
  obtain ⟨marker, hsnippet, -, -, haligned⟩ := snippet_aligned o ⟨#[f], [], []⟩ f ⟨0, 4, 7⟩
    "here".utf8 [.red] rfl rfl (by decide) (by decide) (.inl (by decide)) (by decide) (by decide)
  have hline : (f.position 4).line = 2 := by decide +kernel
  have hnumber : Decimal.ofNat 2 = "2".utf8 := by
    rw [Decimal.ofNat]
    decide
  have hplain : (f.line 2).IsTabbed := by decide
  have hmargin : margin 2 ++ "    a".utf8 = " 2 |     a".utf8 := by
    rw [margin, hnumber]
    decide
  rw [hline, hnumber] at hsnippet haligned
  refine ⟨marker, hsnippet, ?_⟩
  rw [← hmargin]
  exact (haligned hplain).2

/-! ### Snippets out of bounds -/

section Unshown

variable (o : SnippetOptions) {fs : FileSet} {f : File} (hfile : fs.get? 0 = some f)
  (label : Bytes) (style : List Attribute)
include hfile

/-- A single line can be so long that the column behind it is zero, and then the whole of it is
taken to end before it begins. -/
theorem snippet_long (hline : 10 ∉ f.content) (hlength : f.content.length + 1 = UInt32.size) :
    o.snippet fs ⟨0, 0, f.content.length⟩ label style = none := by
  have hfirst : f.position 0 = ⟨1, 1⟩ := f.position_eq (Nat.zero_le _)
  have hlast : f.position f.content.length = ⟨1, 0⟩ := by
    have hwhole : Bytes.lastLine f.content = f.content :=
      Bytes.lastLine_append_of_not_mem hline []
    rw [f.position_eq (Nat.le_refl _), List.take_length, hwhole, hlength,
      List.count_eq_zero.mpr hline]
    rfl
  have hcontent : f.line 1 = f.content :=
    (f.line_eq (Nat.zero_le _)).trans (Bytes.firstLine_of_not_mem hline)
  have hend : endCol f.content = 0 := by rw [endCol, hlength, Nat.mod_self]
  simp only [snippet, FileSet.resolve, hfile, hfirst, hlast, hcontent, if_true, clampCol, hend]
  have hleft : beforeCol (if 1 < 1 then 1 else min 1 0) = UInt32.size - 1 := by decide
  have hright : beforeCol (if 0 < 1 then 1 else min 0 0) = 0 := by decide
  rw [hleft, hright, if_neg (by decide), if_neg]
  exact fun h => absurd h.1 (by decide)

/-- A file can have so many lines that the numbers of the lines to show never come to an end. -/
theorem snippet_tall (hlines : ∀ b ∈ f.content, b = 10)
    (hlength : f.content.length + 2 = UInt32.size) :
    o.snippet fs ⟨0, f.content.length, f.content.length⟩ label style = none := by
  have hcount : f.content.count 10 = f.content.length :=
    List.count_eq_length.mpr fun b hb => (hlines b hb).symm
  have hnumber : (f.position f.content.length).line + 1 = UInt32.size := by
    rw [f.position_eq (Nat.le_refl _), List.take_length, hcount]
    dsimp only
    rw [Nat.mod_eq_of_lt (by omega)]
    exact hlength
  simp only [snippet, FileSet.resolve, hfile]
  rw [if_pos hnumber]

end Unshown

/-- Two snippets that do not exist, of all of a line of `2 ^ 32 - 1` bytes and of the place behind
`2 ^ 32 - 2` newlines, and one that has more lines than one would think, because of its label. -/
theorem snippet_aligned_limit :
    let o : SnippetOptions := ⟨false, 0, .auto, 0, true⟩
    let long : File := ⟨0, "m.tsa".utf8, List.replicate (2 ^ 32 - 1) 97, 0⟩
    let tall : File := ⟨0, "m.tsa".utf8, List.replicate (2 ^ 32 - 2) 10, 0⟩
    let short : File := ⟨0, "m.tsa".utf8, "a;".utf8, 0⟩
    o.snippet ⟨#[long], [], []⟩ ⟨0, 0, long.content.length⟩ [] [] = none ∧
    o.snippet ⟨#[tall], [], []⟩ ⟨0, tall.content.length, tall.content.length⟩ [] [] = none ∧
    o.snippet ⟨#[short], [], []⟩ ⟨0, 0, 1⟩ "here\nand there".utf8 [] =
      some " 1 | a;\n   | ^ here\nand there\n".utf8 := by
  intro o long tall short
  refine ⟨o.snippet_long rfl [] [] (fun h => ?_) ?_, o.snippet_tall rfl [] [] (fun b hb => ?_) ?_,
    ?_⟩
  · exact absurd (List.eq_of_mem_replicate h) (by decide)
  · exact congrArg (· + 1) List.length_replicate
  · exact List.eq_of_mem_replicate hb
  · exact congrArg (· + 2) List.length_replicate
  · decide +kernel

end SnippetOptions

end TensorLang
