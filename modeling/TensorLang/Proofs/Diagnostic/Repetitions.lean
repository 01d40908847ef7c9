import TensorLang.Proofs.Diagnostic.Bag
import TensorLang.Proofs.Text.Quoted

/-!
# Repeated diagnostics

A reporter that drops repetitions knows diagnostics by their keys, and a key holds the notes as one
text. Spans do not contain a blank and quoted messages show where they end, so the notes can be read
off this text (`DedupKey.notesText_injective`), and two diagnostics have the same key exactly if
they agree in everything but the label (`DedupKey.ofDiagnostic_eq_iff`). So what is kept is, in
order, what no earlier diagnostic has said (`Reporter.sinks_dedup`).
-/

namespace TensorLang

/-! ### Notes as one text -/

/-- What stands before the first separator, and what stands behind it. -/
theorem Bytes.append_cons_inj {sep : UInt8} {a b r s : Bytes} (ha : sep ∉ a) (hb : sep ∉ b)
    (h : a ++ sep :: r = b ++ sep :: s) : a = b ∧ r = s := by
  have hbefore : ∀ {c : Bytes} (q : Bytes), sep ∉ c →
      (c ++ sep :: q).takeWhile (· != sep) = c := by
    intro c q hc
    have hall : ∀ x ∈ c, (x != sep) = true := by
      intro x hx
      rw [bne_iff_ne]
      rintro rfl
      exact hc hx
    rw [List.takeWhile_append_of_pos hall, List.takeWhile_cons_of_neg (by simp), List.append_nil]
  have hab : a = b := by rw [← hbefore r ha, h, hbefore s hb]
  subst hab
  exact ⟨rfl, (List.cons.inj (List.append_cancel_left h)).2⟩

/-- Different spans are written differently. -/
theorem Span.text_injective : Function.Injective Span.text := by
  rintro ⟨file, start, stop⟩ ⟨file', start', stop'⟩ h
  have hcolon : ∀ n, (58 : UInt8) ∉ Decimal.ofNat n := Decimal.not_mem_ofNat (by decide)
  have hdash : ∀ n, (45 : UInt8) ∉ Decimal.ofNat n := Decimal.not_mem_ofNat (by decide)
  have htext : Decimal.ofNat file ++ 58 :: (Decimal.ofNat start ++ 45 :: Decimal.ofNat stop) =
      Decimal.ofNat file' ++ 58 :: (Decimal.ofNat start' ++ 45 :: Decimal.ofNat stop') := by
    have hutf8 : ":".utf8 = [58] ∧ "-".utf8 = [45] := by decide
    simpa only [text, hutf8.1, hutf8.2, List.append_assoc, List.cons_append,
      List.nil_append] using h
  obtain ⟨hfile, hrest⟩ := Bytes.append_cons_inj (hcolon file) (hcolon file') htext
  obtain ⟨hstart, hstop⟩ := Bytes.append_cons_inj (hdash start) (hdash start') hrest
  rw [Decimal.ofNat_injective hfile, Decimal.ofNat_injective hstart,
    Decimal.ofNat_injective hstop]

theorem Span.blank_not_mem_text (s : Span) : (32 : UInt8) ∉ s.text := by
  have hutf8 : ":".utf8 = [58] ∧ "-".utf8 = [45] := by decide
  have hdigits : ∀ n, (32 : UInt8) ∉ Decimal.ofNat n := Decimal.not_mem_ofNat (by decide)
  simp [text, hutf8.1, hutf8.2, hdigits]

namespace DedupKey

theorem notesText_cons (n : Note) (notes : List Note) :
    notesText (n :: notes) =
      n.span.text ++ 32 :: (Quoted.string n.message ++ 59 :: notesText notes) := by
  have hutf8 : " ".utf8 = [32] ∧ ";".utf8 = [59] := by decide
  simp only [notesText, List.flatMap_cons, hutf8.1, hutf8.2, List.append_assoc, List.cons_append,
    List.nil_append]

theorem notesText_cons_ne_nil (n : Note) (notes : List Note) : notesText (n :: notes) ≠ [] := by
  rw [notesText_cons]
  exact List.append_ne_nil_of_right_ne_nil _ (List.cons_ne_nil _ _)

/-- **Different notes are written differently,** whatever is in their messages. -/
theorem notesText_injective : Function.Injective notesText := by
  intro notes
  induction notes with
  | nil =>
    intro others h
    cases others with
    | nil => rfl
    | cons m others => exact absurd h.symm (notesText_cons_ne_nil m others)
  | cons n notes ih =>
    intro others h
    cases others with
    | nil => exact absurd h (notesText_cons_ne_nil n notes)
    | cons m others =>
      rw [notesText_cons, notesText_cons] at h
      obtain ⟨hspan, hrest⟩ :=
        Bytes.append_cons_inj n.span.blank_not_mem_text m.span.blank_not_mem_text h
      obtain ⟨hmessage, hmore⟩ := Quoted.string_append_inj hrest
      have hnote : n = m := by
        cases n
        cases m
        rw [Note.mk.injEq]
        exact ⟨Span.text_injective hspan, hmessage⟩
      rw [hnote, ih (List.cons.inj hmore).2]

end DedupKey

/-! ### What says the same -/

/-- The diagnostics agree in everything but the label. -/
def Diagnostic.Same (d e : Diagnostic) : Prop :=
  d.code = e.code ∧ d.severity = e.severity ∧ d.message = e.message ∧ d.primary = e.primary ∧
    d.notes = e.notes

instance (d e : Diagnostic) : Decidable (d.Same e) := inferInstanceAs (Decidable (_ ∧ _))

/-- In order, the diagnostics for which no earlier one says the same. -/
def Diagnostic.firstOccurrences (ds : List Diagnostic) : List Diagnostic :=
  (ds.zipIdx.filter fun p : Diagnostic × Nat => ∀ e ∈ ds.take p.2, ¬ e.Same p.1).map Prod.fst

namespace DedupKey

theorem ofDiagnostic_eq_iff {d e : Diagnostic} : ofDiagnostic d = ofDiagnostic e ↔ d.Same e := by
  simp only [ofDiagnostic, DedupKey.mk.injEq, Diagnostic.Same, notesText_injective.eq_iff]
  tauto

/-- What is kept behind `before`, if `seen` holds the keys of `before`. -/
theorem firsts_eq {seen : List DedupKey} {before : List Diagnostic} (ds : List Diagnostic)
    (hseen : ∀ d, ofDiagnostic d ∈ seen ↔ ∃ e ∈ before, e.Same d) :
    firsts seen ds = ((ds.zipIdx before.length).filter
      fun p : Diagnostic × Nat => ∀ e ∈ (before ++ ds).take p.2, ¬ e.Same p.1).map Prod.fst := by
  -- behind `d`, the diagnostics seen are those of `before` and `d`, be it kept or not
  induction ds generalizing seen before with
  | nil => rfl
  | cons d ds ih =>
    have hrest : before ++ d :: ds = (before ++ [d]) ++ ds := by simp
    have hlength : before.length + 1 = (before ++ [d]).length := by simp
    have hnew : (∀ e ∈ (before ++ [d] ++ ds).take before.length, ¬ e.Same d) ↔
        ofDiagnostic d ∉ seen := by
      rw [← hrest, List.take_left, hseen]
      simp
    have hbehind : ∀ e, (∃ c ∈ before ++ [d], c.Same e) ↔
        ofDiagnostic e ∈ ofDiagnostic d :: seen := by
      intro e
      rw [List.mem_cons, hseen, eq_comm, ofDiagnostic_eq_iff]
      simp only [List.mem_append, List.mem_singleton, or_and_right, exists_or, exists_eq_left,
        or_comm]
    rw [firsts, List.zipIdx_cons, List.filter_cons]
    simp only [hrest, hlength, List.contains_iff_mem, decide_eq_true_eq]
    by_cases h : ofDiagnostic d ∈ seen
    · rw [if_pos h, if_neg fun hall => hnew.mp hall h]
      refine ih fun e => ?_
      rw [hbehind, List.mem_cons, or_iff_right_of_imp]
      rintro heq
      rwa [heq]
    · rw [if_neg h, if_pos (hnew.mpr h), List.map_cons]
      exact congrArg (d :: ·) (ih fun e => (hbehind e).symm)

end DedupKey

/-- **Repetitions are dropped, and nothing else.** The bag behind a reporter that drops repetitions
holds, in order, the diagnostics that no earlier one has said, whatever their labels; and no two
lists of notes have the same text in the keys. -/
theorem Reporter.sinks_dedup {limit : Int} (hlimit : limit ≤ 0) (ds : List Diagnostic) :
    (ds.foldl report (dedup [.bag (Bag.empty limit)])).sinks =
        [.bag ⟨Diagnostic.firstOccurrences ds, limit⟩] ∧
      ∀ notes others, DedupKey.notesText notes = DedupKey.notesText others → notes = others := by
  refine ⟨?_, fun notes others h => DedupKey.notesText_injective h⟩
  have hfirsts : DedupKey.firsts [] ds = Diagnostic.firstOccurrences ds := by
    have hnone : ∀ d, DedupKey.ofDiagnostic d ∈ ([] : List DedupKey) ↔
        ∃ e ∈ ([] : List Diagnostic), e.Same d := by simp
    exact DedupKey.firsts_eq ds hnone
  have hroom : 0 < (Bag.empty limit).limit →
      ((Bag.empty limit).items.length + (Diagnostic.firstOccurrences ds).length : Int) ≤
        (Bag.empty limit).limit := fun h => absurd h (Int.not_lt.mpr hlimit)
  rw [dedup, sinks_foldl_report, hfirsts, Bag.foldl_push_eq hroom]
  rfl

/-- The third diagnostic repeats the first one under another label; the second one has a single note
whose message looks like the end of one note and the beginning of another. -/
theorem Reporter.sinks_dedup_lookalike :
    let plain : Diagnostic := ⟨.error, ⟨2001⟩, "m".utf8, ⟨0, 1, 2⟩, [],
      [⟨⟨0, 3, 4⟩, "a".utf8⟩, ⟨⟨0, 5, 6⟩, "b".utf8⟩]⟩
    let lookalike : Diagnostic :=
      { plain with notes := [⟨⟨0, 3, 4⟩, "a\";0:5-6 \"b".utf8⟩] }
    (0 : Int) ≤ 0 ∧
      ([plain, lookalike, plain.withLabel "here".utf8].foldl report
        (dedup [.bag (Bag.empty 0)])).sinks = [.bag ⟨[plain, lookalike], 0⟩] :=
  ⟨by decide, (sinks_dedup (by decide) _).1.trans (by decide)⟩

end TensorLang
