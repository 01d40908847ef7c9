import TensorLang.Proofs.Text.Ascii
import TensorLang.Text.Width

/-!
# Columns of plain text

Printable ASCII characters do not join into larger ones and take one column each, so such a text
takes as many columns as it has bytes (`Text.width_of_isPrintable`). Nothing else is used of widths.
-/

namespace TensorLang

/-- The text has printable ASCII bytes only. -/
def Bytes.IsPrintable (text : Bytes) : Prop := ∀ b ∈ text, 32 ≤ b ∧ b < 127

instance : DecidablePred Bytes.IsPrintable := fun text =>
  List.decidableBAll (fun b => 32 ≤ b ∧ b < 127) text

namespace Text

theorem ofCode_of_printable {code : Nat} (h : 32 ≤ code ∧ code < 127) :
    GraphemeClass.ofCode code = .other := by
  rw [GraphemeClass.ofCode, if_pos (by simpa using h)]

theorem clusterWidth_of_printable {code : Nat} (h : 32 ≤ code ∧ code < 127) (bytes : Bytes) :
    clusterWidth [(code, bytes)] = 1 := by
  have hwidth : codeWidth code = 1 := by
    rw [codeWidth, if_neg (by simp; omega), if_pos (by omega)]
  simp [clusterWidth, hwidth]

/-- Behind a printable ASCII character, another one begins a character of its own. -/
theorem joins_next_of_printable {code next : Nat} (hcode : 32 ≤ code ∧ code < 127)
    (hnext : 32 ≤ next ∧ next < 127) (before : Option ClusterState) :
    (ClusterState.next before code).joins next = false := by
  simp [ClusterState.joins, ClusterState.next, ofCode_of_printable hcode,
    ofCode_of_printable hnext, GraphemeClass.isBreaking]

theorem split_cons_of_printable {b : UInt8} (h : 32 ≤ b ∧ b < 127) (text : Bytes) :
    (32 ≤ b.toNat ∧ b.toNat < 127) ∧
      Utf8.split (b :: text) = (b.toNat, [b]) :: Utf8.split text := by
  have hrange : 32 ≤ b.toNat ∧ b.toNat < 127 :=
    ⟨UInt8.le_iff_toNat_le.mp h.1, UInt8.lt_iff_toNat_lt.mp h.2⟩
  have hascii : b < 0x80 := UInt8.lt_iff_toNat_lt.mpr (Nat.lt_trans hrange.2 (by decide))
  exact ⟨hrange, Utf8.split_cons_of_ascii hascii text⟩

/-- Behind a printable ASCII character, which is still open, printable ASCII text adds as many
columns as it has bytes. -/
theorem width_clustersFrom {text : Bytes} (h : text.IsPrintable) {code : Nat}
    (hcode : 32 ≤ code ∧ code < 127) (bytes : Bytes) (before : Option ClusterState) :
    ((clustersFrom [(code, bytes)] (some (ClusterState.next before code))
      (Utf8.split text)).map clusterWidth).foldr (· + ·) 0 = text.length + 1 := by
  induction text generalizing code bytes before with
  | nil => simp [Utf8.split, clustersFrom, clusterWidth_of_printable hcode]
  | cons b text ih =>
    obtain ⟨hb, htext⟩ := List.forall_mem_cons.mp h
    obtain ⟨hrange, hsplit⟩ := split_cons_of_printable hb text
    have hrest := ih htext hrange [b] (some (ClusterState.next before code))
    rw [hsplit, clustersFrom]
    simp only [joins_next_of_printable hcode hrange, Bool.false_eq_true, if_false,
      List.reverse_singleton, List.map_cons, List.foldr_cons, clusterWidth_of_printable hcode,
      hrest, List.length_cons]
    omega

/-- **Printable ASCII text takes as many columns as it has bytes.** -/
theorem width_of_isPrintable {text : Bytes} (h : text.IsPrintable) : width text = text.length := by
  rw [width, clusters]
  cases text with
  | nil => simp [Utf8.split, clustersFrom]
  | cons b text =>
    obtain ⟨hb, htext⟩ := List.forall_mem_cons.mp h
    obtain ⟨hrange, hsplit⟩ := split_cons_of_printable hb text
    rw [hsplit, clustersFrom]
    exact width_clustersFrom htext hrange [b] none

end Text

end TensorLang
