import Mathlib.Data.List.Basic
import TensorLang.Proofs.Text.Pieces
import TensorLang.Proofs.Text.Width
import TensorLang.Text.TreeDrawing

/-!
# Drawn trees

A block that is drawn for labels of printable ASCII is a rectangle with its root in it
(`LabelTree.isRect_draw`). Blocks that stand side by side are placed at columns from the left, and
what is cut out of a row at the columns of a block is that block's own line (`Block.cut_row`).

So the drawing of a node shows its label over its root, and the drawings of its children as they
are, side by side, with a sign above the root of each (`LabelTree.draw_layout`).
-/

namespace TensorLang

/-! ### Filling up and cutting out -/

namespace Bytes

theorem length_blanks (n : Nat) : (blanks n).length = n := List.length_replicate

theorem isPrintable_blanks (n : Nat) : (blanks n).IsPrintable := fun b hb => by
  rw [List.eq_of_mem_replicate hb]
  decide

theorem IsPrintable.append {a b : Bytes} (ha : a.IsPrintable) (hb : b.IsPrintable) :
    Bytes.IsPrintable (a ++ b) :=
  List.forall_mem_append.mpr ⟨ha, hb⟩

/-- What the columns from `start` on show of some lines, `width` columns wide. -/
def window (start width : Nat) (lines : List Bytes) : List Bytes :=
  lines.map fun line => (line.drop start).take width

/-- A line with a sign in a column; there is none if the line has no such column. -/
def write? (col : Nat) (sign : UInt8) (line : Bytes) : Option Bytes :=
  if col < line.length then some (line.set col sign) else none

end Bytes

theorem le_foldl_max {a : Nat} {l : List Nat} {start : Nat} (h : a ≤ start ∨ a ∈ l) :
    a ≤ l.foldl max start := by
  induction l generalizing start with
  | nil => exact h.resolve_right List.not_mem_nil
  | cons b l ih =>
    refine ih ?_
    rcases h with h | h
    · exact .inl (Nat.le_trans h (Nat.le_max_left start b))
    · rcases List.mem_cons.mp h with rfl | h
      · exact .inl (Nat.le_max_right start a)
      · exact .inr h

/-- Looking up more elements than there are. -/
theorem map_range_getD {α : Type} {l : List α} {n : Nat} (h : l.length ≤ n) (d : α) :
    (List.range n).map (fun i => (l[i]?).getD d) = l ++ List.replicate (n - l.length) d := by
  refine List.ext_getElem (by simp; omega) fun i hi _ => ?_
  rw [List.getElem_map, List.getElem_range, List.getElem_append]
  split_ifs with hlt
  · rw [List.getElem?_eq_getElem hlt, Option.getD_some]
  · rw [List.getElem?_eq_none (Nat.le_of_not_lt hlt), List.getElem_replicate, Option.getD_none]

namespace Block

theorem padTo_eq {line : Bytes} (h : line.IsPrintable) (width : Nat) :
    padTo width line = line ++ Bytes.blanks (width - line.length) := by
  rw [padTo, Text.width_of_isPrintable h]

theorem isPrintable_padTo {line : Bytes} (h : line.IsPrintable) (width : Nat) :
    (padTo width line).IsPrintable := by
  rw [padTo_eq h]
  exact h.append (Bytes.isPrintable_blanks _)

theorem length_padTo {line : Bytes} (h : line.IsPrintable) {width : Nat}
    (hle : line.length ≤ width) : (padTo width line).length = width := by
  rw [padTo_eq h, List.length_append, Bytes.length_blanks]
  omega

/-! ### Rectangles -/

/-- Lines of printable ASCII, all of the same length, and a root among their columns. -/
structure IsRect (b : Block) : Prop where
  isPrintable : ∀ line ∈ b.lines, Bytes.IsPrintable line
  length_eq : ∀ line ∈ b.lines, line.length = b.width
  root_lt : b.root < b.width

/-- A line of a block, or blanks below its last one. -/
def cell (b : Block) (n : Nat) : Bytes := (b.lines[n]?).getD (Bytes.blanks b.width)

theorem IsRect.padTo_eq_cell {b : Block} (h : b.IsRect) (n : Nat) :
    padTo b.width ((b.lines[n]?).getD []) = b.cell n := by
  rw [cell]
  cases hline : b.lines[n]? with
  | none => exact padTo_eq (List.forall_mem_nil _) b.width
  | some line =>
    have hmem := List.mem_of_getElem? hline
    rw [Option.getD_some, Option.getD_some, padTo_eq (h.isPrintable line hmem),
      h.length_eq line hmem, Nat.sub_self]
    exact List.append_nil line

theorem IsRect.cell_spec {b : Block} (h : b.IsRect) (n : Nat) :
    (b.cell n).IsPrintable ∧ (b.cell n).length = b.width := by
  rw [cell]
  cases hline : b.lines[n]? with
  | none => exact ⟨Bytes.isPrintable_blanks _, Bytes.length_blanks _⟩
  | some line =>
    have hmem := List.mem_of_getElem? hline
    exact ⟨h.isPrintable line hmem, h.length_eq line hmem⟩

/-! ### Side by side -/

/-- Blocks that stand side by side, each with its first column; the first one begins at `start`. -/
def placedFrom (start : Nat) : List Block → List (Nat × Block)
  | [] => []
  | b :: rest => (start, b) :: placedFrom (start + b.width + gap) rest

theorem map_snd_placedFrom (start : Nat) (kids : List Block) :
    (placedFrom start kids).map Prod.snd = kids := by
  induction kids generalizing start with
  | nil => rfl
  | cons b rest ih => rw [placedFrom, List.map_cons, ih]

theorem rootsFrom_eq (start : Nat) (kids : List Block) :
    rootsFrom start kids = (placedFrom start kids).map fun k => k.1 + k.2.root := by
  induction kids generalizing start with
  | nil => rfl
  | cons b rest ih => rw [rootsFrom, placedFrom, List.map_cons, ih]

theorem rootsFrom_add (start shift : Nat) (kids : List Block) :
    (rootsFrom start kids).map (· + shift) = rootsFrom (start + shift) kids := by
  induction kids generalizing start with
  | nil => rfl
  | cons b rest ih =>
    have hroot : start + b.root + shift = start + shift + b.root := Nat.add_right_comm _ _ _
    have hrest : start + b.width + gap + shift = start + shift + b.width + gap := by omega
    simp only [rootsFrom, List.map_cons, ih, hroot, hrest]

theorem totalWidth_cons (b : Block) (rest : List Block) :
    totalWidth (b :: rest) = b.width + if rest = [] then 0 else gap + totalWidth rest := by
  cases rest with
  | nil => simp [totalWidth]
  | cons c rest =>
    rw [if_neg (List.cons_ne_nil c rest)]
    simp only [totalWidth, List.map_cons, List.foldr_cons, List.length_cons, Nat.add_sub_cancel,
      Nat.mul_add]
    omega

theorem le_of_mem_placedFrom {start : Nat} {kids : List Block} {k : Nat × Block}
    (h : k ∈ placedFrom start kids) : start ≤ k.1 ∧ k.1 + k.2.width ≤ start + totalWidth kids := by
  induction kids generalizing start with
  | nil => cases h
  | cons b rest ih =>
    rw [totalWidth_cons]
    rcases List.mem_cons.mp h with rfl | h
    · exact ⟨Nat.le_refl _, by simp only; omega⟩
    · have hne : rest ≠ [] := by
        rintro rfl
        cases h
      have := ih h
      rw [if_neg hne]
      omega

theorem pairwise_placedFrom (start : Nat) (kids : List Block) :
    (placedFrom start kids).Pairwise fun k l => k.1 + k.2.width + gap ≤ l.1 := by
  induction kids generalizing start with
  | nil => exact .nil
  | cons b rest ih => exact .cons (fun l hl => (le_of_mem_placedFrom hl).1) (ih _)

theorem row_cons (b : Block) (rest : List Block) (n : Nat) (hb : b.IsRect) :
    row (b :: rest) n = b.cell n ++ if rest = [] then [] else Bytes.blanks gap ++ row rest n := by
  rw [row, List.map_cons, hb.padTo_eq_cell]
  cases rest with
  | nil => exact (List.append_nil _).symm
  | cons c rest =>
    rw [if_neg (List.cons_ne_nil c rest), row, List.map_cons, Bytes.joinWith_cons,
      Bytes.joinWith_cons, List.flatMap_cons, List.append_assoc]

theorem row_spec {kids : List Block} (h : ∀ kid ∈ kids, kid.IsRect) (n : Nat) :
    (row kids n).IsPrintable ∧ (row kids n).length = totalWidth kids := by
  induction kids with
  | nil => exact ⟨List.forall_mem_nil _, rfl⟩
  | cons b rest ih =>
    obtain ⟨hb, hrest⟩ := List.forall_mem_cons.mp h
    obtain ⟨hprint, hlength⟩ := hb.cell_spec n
    obtain ⟨hprint', hlength'⟩ := ih hrest
    rw [row_cons b rest n hb, totalWidth_cons, List.length_append, hlength]
    split_ifs with hnil
    · exact ⟨hprint.append (List.forall_mem_nil _), rfl⟩
    · refine ⟨hprint.append ((Bytes.isPrintable_blanks gap).append hprint'), ?_⟩
      rw [List.length_append, Bytes.length_blanks, hlength']

/-- **Each block's own line is cut out of a row.** -/
theorem cut_row {kids : List Block} (h : ∀ kid ∈ kids, kid.IsRect) (n : Nat)
    {start : Nat} {before : Bytes} (hstart : before.length = start) (behind : Bytes)
    {k : Nat × Block} (hk : k ∈ placedFrom start kids) :
    ((before ++ (row kids n ++ behind)).drop k.1).take k.2.width = k.2.cell n := by
  induction kids generalizing start before with
  | nil => cases hk
  | cons b rest ih =>
    obtain ⟨hb, hrest⟩ := List.forall_mem_cons.mp h
    have hlength := (hb.cell_spec n).2
    rw [row_cons b rest n hb]
    rcases List.mem_cons.mp hk with rfl | hk
    · rw [← hstart, List.drop_left, List.append_assoc, ← hlength, List.take_left]
    · have hne : rest ≠ [] := by
        rintro rfl
        cases hk
      -- the block and the gap behind it are now before the row
      have hbefore : (before ++ b.cell n ++ Bytes.blanks gap).length = start + b.width + gap := by
        rw [List.length_append, List.length_append, Bytes.length_blanks, hlength, hstart]
      have hcut := ih hrest hbefore hk
      rw [if_neg hne]
      simpa only [List.append_assoc] using hcut

/-- **Rows show each block as it is**, with blanks below it: what stands before the rows and what
fills them up is not at its columns. -/
theorem window_rows {kids : List Block} (h : ∀ kid ∈ kids, kid.IsRect) {shift height : Nat}
    (width : Nat) {k : Nat × Block} (hk : k ∈ placedFrom shift kids)
    (hheight : k.2.lines.length ≤ height) :
    Bytes.window k.1 k.2.width
        ((List.range height).map fun n => padTo width (Bytes.blanks shift ++ row kids n)) =
      k.2.lines ++ List.replicate (height - k.2.lines.length) (Bytes.blanks k.2.width) := by
  rw [← map_range_getD hheight, Bytes.window, List.map_map]
  refine List.map_congr_left fun n _ => ?_
  have hrow := (Bytes.isPrintable_blanks shift).append (row_spec h n).1
  rw [Function.comp_apply, padTo_eq hrow, List.append_assoc]
  exact cut_row h n (Bytes.length_blanks shift) _ hk

/-! ### The line below a label -/

/-- A sign for the root of a child, if it is beside the label's root. -/
def writeSign? (root : Nat) (line : Bytes) (r : Nat) : Option Bytes :=
  if r < root then line.write? r 47 else if root < r then line.write? r 92 else some line

/-- The line below a label, written on blanks: a slash or a backslash for the root of each child,
then the bar. Every sign must be on the line. -/
def writeSigns? (width root : Nat) (roots : List Nat) : Option Bytes := do
  let line ← roots.foldlM (writeSign? root) (Bytes.blanks width)
  line.write? root 124

/-- A bar at the root, a slash or a backslash at each child's root beside it, and blanks
elsewhere. -/
structure IsConnector (root : Nat) (roots : List Nat) (signs : Bytes) : Prop where
  bar : signs[root]? = some 124
  slash : ∀ r ∈ roots, r < root → signs[r]? = some 47
  backslash : ∀ r ∈ roots, root < r → signs[r]? = some 92
  blank : ∀ col < signs.length, col ≠ root → col ∉ roots → signs[col]? = some 32

/-- The sign of a child whose root is beside the label's root. -/
def childSign (root r : Nat) : UInt8 := if r < root then 47 else 92

theorem connectorAt_of_mem {root r : Nat} {roots : List Nat} (hne : r ≠ root) (hr : r ∈ roots) :
    connectorAt root roots r = childSign root r := by
  rw [connectorAt, if_neg hne, if_pos (List.contains_iff_mem.mpr hr), childSign]

theorem connectorAt_of_not_mem {root col : Nat} {roots : List Nat} (hne : col ≠ root)
    (hcol : col ∉ roots) : connectorAt root roots col = 32 := by
  rw [connectorAt, if_neg hne, if_neg (mt List.contains_iff_mem.mp hcol)]

/-- One sign more on a line. -/
theorem writeSign?_spec (root : Nat) {r : Nat} {signs : Bytes} (hr : r < signs.length) :
    ∃ signs', writeSign? root signs r = some signs' ∧ signs'.length = signs.length ∧
      ∀ col, signs'[col]? =
        if col ≠ root ∧ col = r then some (childSign root col) else signs[col]? := by
  rcases eq_or_ne r root with rfl | hne
  · refine ⟨signs, ?_, rfl, fun col => (if_neg fun h => h.1 h.2).symm⟩
    rw [writeSign?, if_neg (Nat.lt_irrefl r), if_neg (Nat.lt_irrefl r)]
  · refine ⟨signs.set r (childSign root r), ?_, List.length_set, fun col => ?_⟩
    · rw [writeSign?, Bytes.write?, Bytes.write?, if_pos hr, if_pos hr, childSign]
      split_ifs with hleft hright
      · rfl
      · rfl
      · omega
    · split_ifs with hcol
      · rw [hcol.2, List.getElem?_set_self hr]
      · rw [List.getElem?_set_ne]
        rintro rfl
        exact hcol ⟨hne, rfl⟩

section Signs

variable {width root : Nat} {roots : List Nat}

/-- The signs of the children, on a line that may have others already. -/
theorem foldlM_writeSign? (root : Nat) (hroots : ∀ r ∈ roots, r < width) {signs : Bytes}
    (hsigns : signs.length = width) :
    ∃ signs', roots.foldlM (writeSign? root) signs = some signs' ∧ signs'.length = width ∧
      ∀ col, signs'[col]? =
        if col ≠ root ∧ col ∈ roots then some (childSign root col) else signs[col]? := by
  induction roots generalizing signs with
  | nil => exact ⟨signs, rfl, hsigns, fun col => by simp⟩
  | cons r rest ih =>
    obtain ⟨hr, hrest⟩ := List.forall_mem_cons.mp hroots
    obtain ⟨next, hnext, hlength, hget⟩ := writeSign?_spec root (hsigns ▸ hr)
    obtain ⟨signs', hfold, hlength', hget'⟩ := ih hrest (hlength.trans hsigns)
    refine ⟨signs', ?_, hlength', fun col => ?_⟩
    · rw [List.foldlM_cons, hnext]
      exact hfold
    · rw [hget' col, hget col]
      grind

variable (hroot : root < width) (hroots : ∀ r ∈ roots, r < width)

include hroot hroots

/-- **Every sign is on the line**, and the signs are those of the drawing. -/
theorem writeSigns?_eq :
    writeSigns? width root roots = some ((List.range width).map (connectorAt root roots)) := by
  obtain ⟨line, hfold, hlength, hline⟩ :=
    foldlM_writeSign? root hroots (Bytes.length_blanks width)
  rw [writeSigns?, hfold]
  change line.write? root 124 = _
  rw [Bytes.write?, if_pos (hlength ▸ hroot)]
  refine congrArg some (List.ext_getElem? fun col => ?_)
  rcases Nat.lt_or_ge col width with hcol | hcol
  · rw [List.getElem?_map, List.getElem?_range hcol, Option.map_some]
    by_cases hne : col = root
    · rw [hne, List.getElem?_set_self (hlength ▸ hroot), connectorAt, if_pos rfl]
    · rw [List.getElem?_set_ne (Ne.symm hne), hline col]
      split_ifs with hmem
      · rw [connectorAt_of_mem hne hmem.2]
      · rw [connectorAt_of_not_mem hne fun h => hmem ⟨hne, h⟩, Bytes.blanks,
          List.getElem?_replicate_of_lt hcol]
  · rw [List.getElem?_eq_none (by simpa [hlength] using hcol),
      List.getElem?_eq_none (by simpa using hcol)]

theorem isConnector_map_range :
    IsConnector root roots ((List.range width).map (connectorAt root roots)) := by
  have hget : ∀ col < width, ((List.range width).map (connectorAt root roots))[col]? =
      some (connectorAt root roots col) := by
    intro col hcol
    rw [List.getElem?_map, List.getElem?_range hcol, Option.map_some]
  refine ⟨?_, fun r hr hlt => ?_, fun r hr hlt => ?_, fun col hcol hne hmem => ?_⟩
  · rw [hget root hroot, connectorAt, if_pos rfl]
  · rw [hget r (hroots r hr), connectorAt_of_mem (Nat.ne_of_lt hlt) hr, childSign, if_pos hlt]
  · rw [hget r (hroots r hr), connectorAt_of_mem (Nat.ne_of_gt hlt) hr, childSign,
      if_neg (Nat.lt_asymm hlt)]
  · rw [List.length_map, List.length_range] at hcol
    rw [hget col hcol, connectorAt_of_not_mem hne hmem]

end Signs

theorem isPrintable_connector (width root : Nat) (roots : List Nat) :
    Bytes.IsPrintable ((List.range width).map (connectorAt root roots)) := by
  intro b hb
  obtain ⟨col, -, rfl⟩ := List.mem_map.mp hb
  unfold connectorAt
  split_ifs <;> decide

/-! ### A label above blocks -/

/-- A label stands on the first line, over the root. -/
def IsLabelled (b : Block) (label : Bytes) : Prop :=
  ∃ line start, b.lines.head? = some line ∧ (line.drop start).take label.length = label ∧
    start ≤ b.root ∧ b.root < start + label.length

/-- Blocks, each with its first column, stand side by side below the first two lines of a block, at
least three columns apart. At its columns each is shown as it is, with blanks below it, and the
second line connects their roots with that of the block. -/
structure Holds (b : Block) (placed : List (Nat × Block)) : Prop where
  apart : placed.Pairwise fun k l => k.1 + k.2.width + 3 ≤ l.1
  within : ∀ k ∈ placed, k.1 + k.2.width ≤ b.width
  shown : ∀ k ∈ placed, ∃ n, Bytes.window k.1 k.2.width (b.lines.drop 2) =
    k.2.lines ++ List.replicate n (Bytes.blanks k.2.width)
  connected : ∃ line, b.lines[1]? = some line ∧
    writeSigns? b.width b.root (placed.map fun k => k.1 + k.2.root) = some line ∧
    IsConnector b.root (placed.map fun k => k.1 + k.2.root) line

/-- What the drawing of a label above blocks consists of: the label begins at column `start`, the
blocks at column `shift`, and there is room for both. -/
theorem above_spec {label : Bytes} (h : label.IsPrintable) (kids : List Block) :
    ∃ start shift height, let b := above label kids
      b.lines = padTo b.width (Bytes.blanks start ++ label) ::
        (List.range b.width).map (connectorAt b.root (rootsFrom shift kids)) ::
        (List.range height).map (fun n => padTo b.width (Bytes.blanks shift ++ row kids n)) ∧
      b.root = start + label.length / 2 ∧ b.root < b.width ∧ start + label.length ≤ b.width ∧
      shift + totalWidth kids ≤ b.width ∧ ∀ kid ∈ kids, kid.lines.length ≤ height := by
  let middle := (((rootsFrom 0 kids).head?).getD 0 + ((rootsFrom 0 kids).getLast?).getD 0) / 2
  refine ⟨middle - label.length / 2, label.length / 2 - middle,
    (kids.map fun kid => kid.lines.length).foldl max 0, ?_⟩
  simp only [above, Text.width_of_isPrintable h, rootsFrom_add, Nat.zero_add]
  refine ⟨rfl, rfl, by omega, by omega, by omega, fun kid hkid => ?_⟩
  exact le_foldl_max (.inr (List.mem_map_of_mem hkid))

section Above

variable {label : Bytes} (hlabel : label.IsPrintable) {kids : List Block}
  (hkids : ∀ kid ∈ kids, kid.IsRect)

include hlabel

theorem isLabelled_above (hne : label ≠ []) (kids : List Block) :
    (above label kids).IsLabelled label := by
  obtain ⟨start, shift, height, hlines, hroot, -⟩ := above_spec hlabel kids
  have hpos : 0 < label.length := List.length_pos_of_ne_nil hne
  refine ⟨_, start, by rw [hlines, List.head?_cons], ?_, by omega, by omega⟩
  rw [padTo_eq ((Bytes.isPrintable_blanks start).append hlabel), List.append_assoc,
    List.drop_left' (Bytes.length_blanks start), List.take_left]

include hkids

theorem isRect_above : (above label kids).IsRect := by
  obtain ⟨start, shift, height, hlines, -, hroot, hstart, hshift, -⟩ := above_spec hlabel kids
  have hfirst : (Bytes.blanks start ++ label).IsPrintable :=
    (Bytes.isPrintable_blanks start).append hlabel
  have hrow : ∀ n, (Bytes.blanks shift ++ row kids n).IsPrintable := fun n =>
    (Bytes.isPrintable_blanks shift).append (row_spec hkids n).1
  refine ⟨?_, ?_, hroot⟩ <;> rw [hlines]
  · simp only [List.forall_mem_cons, List.forall_mem_map]
    exact ⟨isPrintable_padTo hfirst _, isPrintable_connector _ _ _,
      fun n _ => isPrintable_padTo (hrow n) _⟩
  · simp only [List.forall_mem_cons, List.forall_mem_map]
    refine ⟨length_padTo hfirst ?_, by simp, fun n _ => length_padTo (hrow n) ?_⟩
    · rw [List.length_append, Bytes.length_blanks]
      exact hstart
    · rw [List.length_append, Bytes.length_blanks, (row_spec hkids n).2]
      exact hshift

theorem exists_holds_above : ∃ placed, placed.map Prod.snd = kids ∧
    (above label kids).Holds placed := by
  obtain ⟨start, shift, height, hlines, -, hroot, -, hshift, hheight⟩ := above_spec hlabel kids
  have hwithin : ∀ k ∈ placedFrom shift kids, k.1 + k.2.width ≤ (above label kids).width :=
    fun k hk => Nat.le_trans (le_of_mem_placedFrom hk).2 hshift
  have hrect : ∀ k ∈ placedFrom shift kids, k.2.IsRect ∧ k.2.lines.length ≤ height := by
    intro k hk
    have hmem : k.2 ∈ kids := by
      rw [← map_snd_placedFrom shift kids]
      exact List.mem_map_of_mem hk
    exact ⟨hkids k.2 hmem, hheight k.2 hmem⟩
  have hroots : ∀ r ∈ (placedFrom shift kids).map fun k => k.1 + k.2.root,
      r < (above label kids).width := by
    rw [List.forall_mem_map]
    intro k hk
    have := (hrect k hk).1.root_lt
    have := hwithin k hk
    omega
  rw [rootsFrom_eq] at hlines
  refine ⟨placedFrom shift kids, map_snd_placedFrom shift kids, pairwise_placedFrom shift kids,
    hwithin, fun k hk => ?_, ?_⟩
  · refine ⟨height - k.2.lines.length, ?_⟩
    rw [hlines, List.drop_succ_cons, List.drop_succ_cons, List.drop_zero]
    exact window_rows hkids _ hk (hrect k hk).2
  · exact ⟨_, by rw [hlines]; rfl, writeSigns?_eq hroot hroots, isConnector_map_range hroot hroots⟩

end Above

end Block

namespace LabelTree

/-! ### Trees -/

/-- All labels are printable ASCII, and none is empty. -/
inductive IsPrintable : LabelTree → Prop where
  | node {label : Bytes} {kids : List LabelTree} (hne : label ≠ []) (hlabel : label.IsPrintable)
      (hkids : ∀ kid ∈ kids, kid.IsPrintable) : IsPrintable (.node label kids)

theorem drawAll_eq (trees : List LabelTree) : drawAll trees = trees.map draw := by
  induction trees with
  | nil => rw [drawAll, List.map_nil]
  | cons tree rest ih => rw [drawAll, List.map_cons, ih]

theorem draw_node {label : Bytes} {kids : List LabelTree} (hne : kids ≠ []) :
    (node label kids).draw = Block.above label (kids.map draw) := by
  obtain ⟨kid, kids, rfl⟩ := List.exists_cons_of_ne_nil hne
  rw [draw, drawAll_eq]

/-- A label alone. -/
theorem isRect_leaf {label : Bytes} (hne : label ≠ []) (h : label.IsPrintable) :
    (Block.leaf label).IsRect ∧ (Block.leaf label).IsLabelled label := by
  have hpos : 0 < label.length := List.length_pos_of_ne_nil hne
  have hwidth := Text.width_of_isPrintable h
  refine ⟨⟨?_, ?_, ?_⟩, label, 0, rfl, ?_, Nat.zero_le _, ?_⟩
  · exact List.forall_mem_singleton.mpr h
  · exact List.forall_mem_singleton.mpr hwidth.symm
  · simp only [Block.leaf]
    omega
  · rw [List.drop_zero, List.take_length]
  · simp only [Block.leaf]
    omega

/-- **Drawings are rectangles.** -/
theorem isRect_draw {t : LabelTree} (h : t.IsPrintable) : t.draw.IsRect := by
  induction h with
  | @node label kids hne hlabel _ ih =>
    rcases eq_or_ne kids [] with rfl | hkids
    · rw [draw]
      exact (isRect_leaf hne hlabel).1
    · rw [draw_node hkids]
      exact Block.isRect_above hlabel (List.forall_mem_map.mpr ih)

theorem isLabelled_draw {label : Bytes} (hne : label ≠ []) (hlabel : label.IsPrintable)
    (kids : List LabelTree) : (node label kids).draw.IsLabelled label := by
  rcases eq_or_ne kids [] with rfl | hkids
  · rw [draw]
    exact (isRect_leaf hne hlabel).2
  · rw [draw_node hkids]
    exact Block.isLabelled_above hlabel hne _

/-- **Drawings of nodes.** If all labels are printable ASCII and none is empty, every line of a
drawing takes as many characters as the drawing has columns, the root is one of these columns, and
the label stands on the first line over the root. The drawings of the children stand below the
second line, side by side, and each is shown as it is at its own columns; the second line has a bar
at the root and a slash or a backslash at the root of each child. -/
theorem draw_layout {label : Bytes} {kids : List LabelTree}
    (h : (node label kids).IsPrintable) :
    let b := (node label kids).draw
    (∀ line ∈ b.lines, line.length = b.width) ∧ b.root < b.width ∧ b.IsLabelled label ∧
      (kids ≠ [] → ∃ placed, placed.map Prod.snd = kids.map draw ∧ b.Holds placed) := by
  intro b
  have hrect : b.IsRect := isRect_draw h
  obtain ⟨hne, hlabel, hprint⟩ := h
  refine ⟨hrect.length_eq, hrect.root_lt, isLabelled_draw hne hlabel kids, fun hkids => ?_⟩
  have hdrawn : b = Block.above label (kids.map draw) := draw_node hkids
  rw [hdrawn]
  exact Block.exists_holds_above hlabel
    (List.forall_mem_map.mpr fun kid hkid => isRect_draw (hprint kid hkid))

/-- A label that is wider than what is between the roots of its children, so that these stand
further right. -/
theorem draw_layout_wide :
    let kids := [node "*".utf8 [node "a".utf8 [], node "b".utf8 []], node "x".utf8 []]
    let b := (node "Program".utf8 kids).draw
    (node "Program".utf8 kids).IsPrintable ∧
      b.lines = ["  Program".utf8, "  /  |  \\".utf8, "  *     x".utf8, "/ | \\    ".utf8,
        "a   b    ".utf8] ∧
      b.IsLabelled "Program".utf8 ∧
      ∃ placed, placed.map Prod.snd = kids.map draw ∧ b.Holds placed := by
  intro kids b
  have hleaf : ∀ label ∈ ["a".utf8, "b".utf8, "x".utf8], (node label []).IsPrintable := by
    have hplain : ∀ label ∈ ["a".utf8, "b".utf8, "x".utf8],
        label ≠ [] ∧ Bytes.IsPrintable label := by decide
    exact fun label h => .node (hplain label h).1 (hplain label h).2 (List.forall_mem_nil _)
  have hkids : ∀ kid ∈ kids, kid.IsPrintable := by
    refine List.forall_mem_cons.mpr ⟨.node (by decide) (by decide) ?_, ?_⟩
    · exact List.forall_mem_cons.mpr ⟨hleaf _ (by decide),
        List.forall_mem_singleton.mpr (hleaf _ (by decide))⟩
    · exact List.forall_mem_singleton.mpr (hleaf _ (by decide))
  have hprint : (node "Program".utf8 kids).IsPrintable := .node (by decide) (by decide) hkids
  obtain ⟨-, -, hlabelled, hholds⟩ := draw_layout hprint
  exact ⟨hprint, by decide +kernel, hlabelled, hholds (List.cons_ne_nil _ _)⟩

end LabelTree

end TensorLang
