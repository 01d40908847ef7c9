import Mathlib.Tactic.Common
import TensorLang.Diagnostic.Lines
import TensorLang.Proofs.Text.Decimal
import TensorLang.Proofs.Text.Pieces
import TensorLang.Proofs.Text.Validity

/-!
# One line per diagnostic, in any order of reports

Lines are ordered by everything that is written in them: two lines of which neither comes before the
other are the same (`DiagnosticLine.eq_of_le`). So sorting forgets in which order the diagnostics
were reported. Messages are folded onto one line before they are compared, and nothing else in a
line but its path can hold a line break (`DiagnosticLine.not_mem_text`). So there are as many lines
as places to tell of (`Diagnostic.lines_stable`).
-/

namespace TensorLang

/-! ### Lines of a text -/

namespace Bytes

/-- The number of lines of a text without a newline at its end; the empty text has none. -/
def lineCount (text : Bytes) : Nat := if text.isEmpty then 0 else text.count 10 + 1

/-- Non-empty lines that were put together are counted. -/
theorem lineCount_joinWith {parts : List Bytes} (hne : ∀ part ∈ parts, part ≠ [])
    (hline : ∀ part ∈ parts, 10 ∉ part) : lineCount (joinWith [10] parts) = parts.length := by
  induction parts with
  | nil => rfl
  | cons part rest ih =>
    rw [List.forall_mem_cons] at hne hline
    have hcount : part.count 10 = 0 := List.count_eq_zero.mpr hline.1
    have hrest := ih hne.2 hline.2
    cases rest with
    | nil => simp [lineCount, joinWith, hne.1, hcount]
    | cons next rest =>
      -- what is behind the first newline is not empty, so it is counted as its newlines and one
      have hmore : joinWith [10] (next :: rest) ≠ [] := by
        intro hnil
        rw [hnil] at hrest
        cases hrest
      have hjoin : joinWith [10] (part :: next :: rest) =
          part ++ [10] ++ joinWith [10] (next :: rest) := by
        rw [joinWith]
        exact List.cons_ne_nil next rest
      rw [lineCount, if_neg (by simpa using hmore)] at hrest
      rw [lineCount, hjoin, if_neg (by simp), List.count_append, List.count_append, hcount,
        List.count_singleton_self, List.length_cons, ← hrest]
      omega

end Bytes

namespace DiagnosticLine

/-! ### The order of lines -/

theorem compareBytes_eq (a b : Bytes) : compareBytes a b = compare a b := by
  induction a generalizing b with
  | nil => cases b <;> rfl
  | cons x a ih =>
    cases b with
    | nil => rfl
    | cons y b =>
      have hcons : compare (x :: a) (y :: b) = (compareOfLessAndEq x y).then (compare a b) := by
        rw [List.compare_eq_compareLex, List.compareLex_cons_cons]
        rfl
      rw [hcons, ← ih, compareBytes, compareBytes, Bytes.lt, Bytes.lt, compareOfLessAndEq]
      rcases Nat.lt_trichotomy x.toNat y.toNat with h | h | h
      · have hxy : x < y := UInt8.lt_iff_toNat_lt.mpr h
        simp [hxy]
      · have hxy : x = y := UInt8.toNat_inj.mp h
        simp [hxy]
      · have hyx : y < x := UInt8.lt_iff_toNat_lt.mpr h
        have hxy : ¬ x < y := by
          rw [UInt8.lt_iff_toNat_lt]
          omega
        have hne : x ≠ y := by
          rintro rfl
          omega
        simp [hyx, hxy, hne]

theorem firstDifference_cons (o : Ordering) (rest : List Ordering) :
    firstDifference (o :: rest) = o.then (firstDifference rest) := by
  cases o <;> rfl

/-- Comparison by all parts of a line, one after the other. -/
def order : DiagnosticLine → DiagnosticLine → Ordering :=
  compareLex (compareOn path) <| compareLex (compareOn (·.position.line)) <|
    compareLex (compareOn (·.position.col)) <| compareLex (compareOn severity) <|
      compareLex (compareOn code) (compareOn message)

instance : Std.TransCmp order :=
  inferInstanceAs (Std.TransCmp (compareLex (compareOn path) _))

theorem le_eq_isLE (a b : DiagnosticLine) : le a b = (order a b).isLE := by
  have horder : le a b = (order a b != .gt) := by
    simp only [le, firstDifference_cons, compareBytes_eq, order, compareLex, compareOn]
    rw [firstDifference, Ordering.then_eq]
  rw [horder]
  cases order a b <;> rfl

theorem le_trans {a b c : DiagnosticLine} (hab : le a b = true) (hbc : le b c = true) :
    le a c = true := by
  rw [le_eq_isLE] at hab hbc ⊢
  exact Std.TransCmp.isLE_trans hab hbc

theorem le_total (a b : DiagnosticLine) : (le a b || le b a) = true := by
  rw [le_eq_isLE, le_eq_isLE, @Std.OrientedCmp.eq_swap _ order _ b a]
  cases order a b <;> rfl

/-- **Lines of which neither comes before the other are the same.** -/
theorem eq_of_le {a b : DiagnosticLine} (hab : le a b = true) (hba : le b a = true) : a = b := by
  rw [le_eq_isLE] at hab hba
  have heq : order a b = .eq := Std.OrientedCmp.isLE_antisymm hab hba
  simp only [order, compareLex_eq_eq, compareOn, Std.compare_eq_iff_eq] at heq
  obtain ⟨hpath, hline, hcol, hseverity, hcode, hmessage⟩ := heq
  obtain ⟨severity, code, path, ⟨line, col⟩, message⟩ := a
  obtain ⟨severity', code', path', ⟨line', col'⟩, message'⟩ := b
  simp only at hpath hline hcol hseverity hcode hmessage
  subst hpath hline hcol hseverity hcode hmessage
  rfl

/-- Sorting forgets the order in which the lines came. -/
theorem mergeSort_eq_of_perm {as bs : List DiagnosticLine} (h : as.Perm bs) :
    as.mergeSort le = bs.mergeSort le := by
  have hsorted : ∀ ls : List DiagnosticLine, (ls.mergeSort le).Pairwise (le · · = true) :=
    List.pairwise_mergeSort (fun _ _ _ => le_trans) le_total
  have hperm : (as.mergeSort le).Perm (bs.mergeSort le) :=
    (List.mergeSort_perm as le).trans (h.trans (List.mergeSort_perm bs le).symm)
  exact List.Perm.eq_of_pairwise (fun _ _ _ _ => eq_of_le) (hsorted as) (hsorted bs) hperm

/-! ### Line breaks -/

section Breaks

variable {b : UInt8} (hb : b = 10 ∨ b = 13)
include hb

theorem not_mem_foldBreaks (message : Bytes) : b ∉ foldBreaks message := by
  fun_induction foldBreaks message with
  | case1 => exact List.not_mem_nil
  | case2 rest ih =>
    rw [List.mem_cons, not_or]
    refine ⟨?_, ih⟩
    rcases hb with rfl | rfl <;> decide
  | case3 c rest _ ih =>
    rw [List.mem_cons, not_or]
    refine ⟨?_, ih⟩
    split
    · rcases hb with rfl | rfl <;> decide
    · rename_i hc
      rintro rfl
      exact hc hb.symm

theorem not_mem_oneLine (message : Bytes) : b ∉ oneLine message := fun h =>
  not_mem_foldBreaks hb message (Text.mem_of_trim h)

theorem not_mem_severity (s : Severity) : b ∉ Bytes.toLowerAscii s.text := by
  have hnames : b ∉ Bytes.toLowerAscii "INFO".utf8 ∧ b ∉ Bytes.toLowerAscii "WARNING".utf8 ∧
      b ∉ Bytes.toLowerAscii "ERROR".utf8 ∧ b ∉ Bytes.toLowerAscii "UNKNOWN".utf8 := by
    rcases hb with rfl | rfl <;> decide
  cases s with
  | info => exact hnames.1
  | warning => exact hnames.2.1
  | error => exact hnames.2.2.1
  | other => exact hnames.2.2.2

theorem not_mem_number (n : Nat) : b ∉ Decimal.ofNat n := by
  refine Decimal.not_mem_ofNat ?_ n
  rcases hb with rfl | rfl <;> decide

theorem not_mem_id (c : Code) : b ∉ c.id := by
  have hareas : ∀ p ∈ Code.areas, b ∉ p.2.utf8 := by
    rcases hb with rfl | rfl <;> decide
  unfold Code.id
  split
  · rename_i letters hletters
    obtain ⟨before, behind, hsplit, -⟩ := List.lookup_eq_some_iff.mp hletters
    have hmem : (c.number / 1000, letters) ∈ Code.areas := by
      rw [hsplit]
      exact List.mem_append_right before List.mem_cons_self
    rw [List.mem_append, not_or]
    exact ⟨hareas _ hmem, not_mem_number hb c.number⟩
  · rcases hb with rfl | rfl <;> decide

/-- Only the path can bring a line break into a line. -/
theorem not_mem_text {fs : FileSet} {style : PathStyle} {severity : Bytes} {code : Code}
    {span : Span} {message : Bytes} {l : DiagnosticLine}
    (h : at? fs style severity code span message = some l) (hseverity : b ∉ severity)
    (hpath : b ∉ l.path) : b ∉ l.text := by
  obtain ⟨f, -, rfl⟩ := Option.map_eq_some_iff.mp h
  have hsigns : b ∉ " ".utf8 ∧ b ∉ ":".utf8 := by
    rcases hb with rfl | rfl <;> decide
  simp only [text, List.mem_append, not_or]
  exact ⟨⟨⟨⟨⟨⟨⟨⟨⟨⟨hseverity, hsigns.1⟩, not_mem_id hb code⟩, hsigns.1⟩, hpath⟩, hsigns.2⟩,
    not_mem_number hb _⟩, hsigns.2⟩, not_mem_number hb _⟩, hsigns.1⟩, not_mem_oneLine hb message⟩

end Breaks

theorem text_ne_nil (l : DiagnosticLine) : l.text ≠ [] := by
  have hblank : " ".utf8 ≠ [] := by decide
  simp [text, hblank]

end DiagnosticLine

/-! ### Texts of lines -/

namespace Diagnostic

/-- The places that a diagnostic tells of, those of its notes included if asked for. -/
def spans (withNotes : Bool) (d : Diagnostic) : List Span :=
  d.primary :: if withNotes then d.notes.map Note.span else []

/-- The paths that are shown, one for each place in a known file. -/
def shownPaths (ds : List Diagnostic) (fs : FileSet) (withNotes : Bool) (style : PathStyle) :
    List Bytes :=
  (ds.flatMap (spans withNotes)).filterMap fun s =>
    (fs.get? s.file).map fun f => DiagnosticLine.shownPath (fs.pathOf f style)

section Texts

variable {fs : FileSet} {style : PathStyle} {withNotes : Bool}

theorem exists_of_mem_linesOf {d : Diagnostic} {l : DiagnosticLine}
    (h : l ∈ linesOf fs style withNotes d) :
    ∃ severity span message, span ∈ spans withNotes d ∧
      DiagnosticLine.at? fs style severity d.code span message = some l ∧
      ∀ b : UInt8, b = 10 ∨ b = 13 → b ∉ severity := by
  rcases List.mem_append.mp h with h | h
  · exact ⟨_, d.primary, d.message, List.mem_cons_self, Option.mem_toList.mp h,
      fun b hb => DiagnosticLine.not_mem_severity hb d.severity⟩
  · cases withNotes with
    | false => cases h
    | true =>
      obtain ⟨n, hn, hl⟩ := List.mem_filterMap.mp h
      refine ⟨_, n.span, n.message, ?_, hl, ?_⟩
      · exact List.mem_cons_of_mem _ (List.mem_map_of_mem hn)
      · rintro b (rfl | rfl) <;> decide

theorem length_linesOf (d : Diagnostic) :
    (linesOf fs style withNotes d).length =
      (spans withNotes d).countP fun s => (fs.get? s.file).isSome := by
  have hat : ∀ severity (s : Span) message,
      (DiagnosticLine.at? fs style severity d.code s message).isSome =
        (fs.get? s.file).isSome := fun _ _ _ => Option.isSome_map
  have hnotes : (d.notes.filterMap fun n =>
      DiagnosticLine.at? fs style "note".utf8 d.code n.span n.message).length =
        (d.notes.map Note.span).countP fun s => (fs.get? s.file).isSome := by
    rw [List.length_filterMap_eq_countP, List.countP_map]
    exact List.countP_congr fun n _ => by rw [hat]; rfl
  rw [linesOf, spans, List.length_append, List.countP_cons, Option.length_toList, hat]
  cases withNotes with
  | false => exact Nat.add_comm _ 0
  | true => exact (Nat.add_comm _ _).trans (congrArg (· + _) hnotes)

theorem length_flatMap_linesOf (ds : List Diagnostic) :
    (ds.flatMap (linesOf fs style withNotes)).length =
      (ds.flatMap (spans withNotes)).countP fun s => (fs.get? s.file).isSome := by
  induction ds with
  | nil => rfl
  | cons d ds ih =>
    rw [List.flatMap_cons, List.flatMap_cons, List.length_append, List.countP_append,
      length_linesOf, ih]

/-- If no path that is shown holds a line break, no line does. -/
theorem not_mem_text_of_shownPaths {ds : List Diagnostic} {b : UInt8} (hb : b = 10 ∨ b = 13)
    (hpaths : ∀ path ∈ shownPaths ds fs withNotes style, b ∉ path) :
    ∀ l ∈ ds.flatMap (linesOf fs style withNotes), b ∉ l.text := by
  intro l hl
  obtain ⟨d, hd, hl⟩ := List.mem_flatMap.mp hl
  obtain ⟨severity, span, message, hspan, hat, hseverity⟩ := exists_of_mem_linesOf hl
  refine DiagnosticLine.not_mem_text hb hat (hseverity b hb) (hpaths l.path ?_)
  obtain ⟨f, hf, rfl⟩ := Option.map_eq_some_iff.mp hat
  exact List.mem_filterMap.mpr ⟨span, List.mem_flatMap.mpr ⟨d, hd, hspan⟩, by rw [hf]; rfl⟩

end Texts

theorem lines_eq (ds : List Diagnostic) (fs : FileSet) (withNotes : Bool) (style : PathStyle) :
    lines ds fs withNotes style = Bytes.joinWith [10]
      (((ds.flatMap (linesOf fs style withNotes)).mergeSort DiagnosticLine.le).map
        DiagnosticLine.text) := by
  have hnewline : "\n".utf8 = [10] := by decide
  rw [lines, hnewline]

/-- **The text does not depend on the order of reports, and has one line for each place.** Permuted
diagnostics give the same text. As long as no path that is shown has a newline, there are as many
lines as places in known files, whatever line breaks the messages have; and a carriage return can
only come from a path. -/
theorem lines_stable (fs : FileSet) (style : PathStyle) (withNotes : Bool) :
    (∀ ds es : List Diagnostic, ds.Perm es →
      lines ds fs withNotes style = lines es fs withNotes style) ∧
    (∀ ds : List Diagnostic, (∀ path ∈ shownPaths ds fs withNotes style, 10 ∉ path) →
      Bytes.lineCount (lines ds fs withNotes style) =
        (ds.flatMap (spans withNotes)).countP fun s => (fs.get? s.file).isSome) ∧
    (∀ ds : List Diagnostic, (∀ path ∈ shownPaths ds fs withNotes style, 13 ∉ path) →
      13 ∉ lines ds fs withNotes style) := by
  refine ⟨fun ds es h => ?_, fun ds hpaths => ?_, fun ds hpaths => ?_⟩
  · rw [lines_eq, lines_eq, DiagnosticLine.mergeSort_eq_of_perm (h.flatMap_right _)]
  · have hlines := not_mem_text_of_shownPaths (.inl rfl) hpaths
    rw [lines_eq, Bytes.lineCount_joinWith, List.length_map, List.length_mergeSort,
      length_flatMap_linesOf]
    · rintro part hpart rfl
      obtain ⟨l, -, hl⟩ := List.mem_map.mp hpart
      exact l.text_ne_nil hl
    · rintro part hpart
      obtain ⟨l, hl, rfl⟩ := List.mem_map.mp hpart
      exact hlines l (List.mem_mergeSort.mp hl)
  · have hlines := not_mem_text_of_shownPaths (.inr rfl) hpaths
    intro hmem
    rw [lines_eq] at hmem
    rcases Bytes.mem_joinWith hmem with hsep | ⟨part, hpart, hmem⟩
    · exact absurd hsep (by decide)
    · obtain ⟨l, hl, rfl⟩ := List.mem_map.mp hpart
      exact hlines l (List.mem_mergeSort.mp hl) hmem

/-- Two diagnostics and a note in a file of two lines, with breaks in their messages, and a note in
a file that is not known. -/
theorem lines_stable_folded :
    let fs : FileSet := { files := #[⟨0, "m.tsa".utf8, "a\nb".utf8, 0⟩] }
    let d : Diagnostic := ⟨.error, ⟨2001⟩, "one\r\ntwo\r".utf8, ⟨0, 2, 3⟩, [],
      [⟨⟨0, 0, 1⟩, "\nhere\nand there".utf8⟩, ⟨⟨7, 0, 1⟩, "lost".utf8⟩]⟩
    let e : Diagnostic := ⟨.warning, ⟨3001⟩, "three".utf8, ⟨0, 0, 1⟩, [], []⟩
    ([d, e].Perm [e, d] ∧ ∀ path ∈ shownPaths [d, e] fs true .plain, 10 ∉ path ∧ 13 ∉ path) ∧
      lines [d, e] fs true .plain = lines [e, d] fs true .plain ∧
      Bytes.lineCount (lines [d, e] fs true .plain) = 3 ∧ 13 ∉ lines [d, e] fs true .plain := by
  intro fs d e
  have hperm : [d, e].Perm [e, d] := List.Perm.swap e d []
  have hpaths : ∀ path ∈ shownPaths [d, e] fs true .plain, 10 ∉ path ∧ 13 ∉ path := by decide
  obtain ⟨hstable, hcount, hreturn⟩ := lines_stable fs .plain true
  exact ⟨⟨hperm, hpaths⟩, hstable _ _ hperm,
    (hcount _ fun path h => (hpaths path h).1).trans (by decide),
    hreturn _ fun path h => (hpaths path h).2⟩

end Diagnostic

end TensorLang
