import Mathlib.Tactic.Common
import TensorLang.Pipeline.Run

/-!
# Bags

A bag with a limit never holds more than that (`Bag.Fits`), so taking its diagnostics out and
putting them into an empty bag with the same limit gives the bag back (`Bag.refill`). Reporting a
list of diagnostics without repetitions adds those that are the first of their kind
(`Outcome.report_eq`).
-/

namespace TensorLang

namespace Bag

/-! ### Limits -/

/-- The bag holds no more than its limit allows. -/
def Fits (b : Bag) : Prop := 0 < b.limit → (b.items.length : Int) ≤ b.limit

theorem fits_empty (limit : Int) : (empty limit).Fits := by
  intro h
  simp only [empty, List.length_nil] at h ⊢
  omega

theorem push_limit (b : Bag) (d : Diagnostic) : (b.push d).limit = b.limit := by
  unfold push add
  split <;> rfl

theorem Fits.push {b : Bag} (h : b.Fits) (d : Diagnostic) : (b.push d).Fits := by
  unfold Bag.push add
  split
  · exact h
  · rename_i hfull
    intro hlimit
    simp only [isFull, Bool.and_eq_true, decide_eq_true_eq, not_and, Int.not_le] at hfull
    have := hfull hlimit
    simp only [List.length_append, List.length_singleton]
    omega

theorem foldl_push_limit (ds : List Diagnostic) (b : Bag) :
    (ds.foldl push b).limit = b.limit := by
  induction ds generalizing b with
  | nil => rfl
  | cons d ds ih => rw [List.foldl_cons, ih, push_limit]

theorem Fits.foldl_push {b : Bag} (h : b.Fits) (ds : List Diagnostic) :
    (ds.foldl Bag.push b).Fits := by
  induction ds generalizing b with
  | nil => exact h
  | cons d ds ih => exact ih (h.push d)

theorem Fits.sort {b : Bag} (h : b.Fits) : b.sort.Fits := by
  intro hlimit
  rw [Bag.sort, List.length_mergeSort]
  exact h hlimit

theorem Fits.transform {b : Bag} (h : b.Fits) (f : Diagnostic → Diagnostic) :
    (b.transform f).Fits := by
  intro hlimit
  rw [Bag.transform, List.length_map]
  exact h hlimit

theorem Fits.filter {b : Bag} (h : b.Fits) (keep : Diagnostic → Bool) : (b.filter keep).Fits := by
  intro hlimit
  exact Int.le_trans (Int.ofNat_le.mpr (List.length_filter_le ..)) (h hlimit)

/-- The limit rises far enough for all diagnostics of both bags, whatever the other one holds. -/
theorem fits_merge (b other : Bag) : (b.merge other).Fits := by
  by_cases h : 0 < b.limit
  · have hlimit : (b.merge other).limit =
        max b.limit (b.items.length + other.items.length : Nat) := if_pos h
    intro _
    rw [hlimit, merge, List.length_append]
    exact Int.le_max_right ..
  · have hlimit : (b.merge other).limit = b.limit := if_neg h
    exact fun hpos => absurd (hlimit ▸ hpos) h

/-- As long as there is room, everything is added. -/
theorem foldl_push_eq {ds : List Diagnostic} {b : Bag}
    (h : 0 < b.limit → (b.items.length + ds.length : Int) ≤ b.limit) :
    ds.foldl push b = ⟨b.items ++ ds, b.limit⟩ := by
  induction ds generalizing b with
  | nil => rw [List.append_nil]; rfl
  | cons d ds ih =>
    have hpush : b.push d = ⟨b.items ++ [d], b.limit⟩ := by
      have hroom : b.isFull = false := by
        simp only [isFull, Bool.and_eq_false_imp, decide_eq_true_eq, decide_eq_false_iff_not,
          Int.not_le]
        intro hlimit
        have := h hlimit
        rw [List.length_cons] at this
        omega
      rw [push, add, hroom]
      rfl
    rw [List.foldl_cons, hpush, ih, List.append_assoc, List.singleton_append]
    intro hlimit
    have := h hlimit
    simp only [List.length_append, List.length_cons, List.length_nil] at this ⊢
    omega

/-- **Nothing is lost when a bag is filled again.** -/
theorem refill {b : Bag} (h : b.Fits) : b.items.foldl push (empty b.limit) = b := by
  have hroom : 0 < (empty b.limit).limit →
      ((empty b.limit).items.length + b.items.length : Int) ≤ (empty b.limit).limit := by
    intro hlimit
    have := h hlimit
    simp only [empty, List.length_nil]
    omega
  rw [foldl_push_eq hroom]
  rfl

/-! ### Changing what is in a bag -/

theorem transform_push (f : Diagnostic → Diagnostic) (b : Bag) (d : Diagnostic) :
    (b.push d).transform f = (b.transform f).push (f d) := by
  have hfull : (b.transform f).isFull = b.isFull := by
    rw [isFull, isFull, transform, List.length_map]
  rw [push, push, add, add, hfull]
  cases b.isFull with
  | true => rfl
  | false =>
    simp only [transform, Bool.false_eq_true, if_false, List.map_append, List.map_singleton]

theorem transform_foldl_push (f : Diagnostic → Diagnostic) (ds : List Diagnostic) (b : Bag) :
    (ds.foldl push b).transform f = (ds.map f).foldl push (b.transform f) := by
  induction ds generalizing b with
  | nil => rfl
  | cons d ds ih => rw [List.map_cons, List.foldl_cons, List.foldl_cons, ih, transform_push]

theorem transform_sort {f : Diagnostic → Diagnostic} {b : Bag}
    (h : ∀ d ∈ b.items, ∀ e ∈ b.items,
      keyLe (sortKey d) (sortKey e) = keyLe (sortKey (f d)) (sortKey (f e))) :
    b.sort.transform f = (b.transform f).sort := by
  have hmap : (b.sort.items).map f = (b.transform f).sort.items := List.map_mergeSort h
  exact congrArg (Bag.mk · b.limit) hmap

/-! ### What can be in a bag -/

theorem mem_push {b : Bag} {d e : Diagnostic} (h : e ∈ (b.push d).items) :
    e ∈ b.items ∨ e = d := by
  unfold push add at h
  split at h
  · exact .inl h
  · rcases List.mem_append.mp h with h | h
    · exact .inl h
    · exact .inr (List.mem_singleton.mp h)

theorem mem_foldl_push {ds : List Diagnostic} {b : Bag} {e : Diagnostic}
    (h : e ∈ (ds.foldl push b).items) : e ∈ b.items ∨ e ∈ ds := by
  induction ds generalizing b with
  | nil => exact .inl h
  | cons d ds ih =>
    rcases ih h with h | h
    · rcases mem_push h with h | rfl
      · exact .inl h
      · exact .inr List.mem_cons_self
    · exact .inr (List.mem_cons_of_mem d h)

theorem mem_sort {b : Bag} {d : Diagnostic} : d ∈ b.sort.items ↔ d ∈ b.items :=
  List.mem_mergeSort

end Bag

/-! ### Repetitions -/

/-- The diagnostics that are the first of their kind, `seen` being the keys of earlier ones. -/
def DedupKey.firsts (seen : List DedupKey) : List Diagnostic → List Diagnostic
  | [] => []
  | d :: rest =>
    if seen.contains (ofDiagnostic d) then firsts seen rest
    else d :: firsts (ofDiagnostic d :: seen) rest

namespace DedupKey

theorem mem_of_firsts {seen : List DedupKey} {ds : List Diagnostic} {d : Diagnostic}
    (h : d ∈ firsts seen ds) : d ∈ ds := by
  fun_induction firsts seen ds with
  | case1 => exact h
  | case2 seen e rest _ ih => exact List.mem_cons_of_mem e (ih h)
  | case3 seen e rest _ ih =>
    rcases List.mem_cons.mp h with rfl | h
    · exact List.mem_cons_self
    · exact List.mem_cons_of_mem e (ih h)

/-- A change that keeps different keys different and equal keys equal changes no choice. -/
theorem firsts_map {f : Diagnostic → Diagnostic} {before ds : List Diagnostic}
    (h : ∀ d ∈ before ++ ds, ∀ e ∈ before ++ ds,
      ofDiagnostic (f d) = ofDiagnostic (f e) ↔ ofDiagnostic d = ofDiagnostic e) :
    firsts (before.map fun d => ofDiagnostic (f d)) (ds.map f) =
      (firsts (before.map ofDiagnostic) ds).map f := by
  induction ds generalizing before with
  | nil => rfl
  | cons d ds ih =>
    have hcontains : (before.map fun e => ofDiagnostic (f e)).contains (ofDiagnostic (f d)) =
        (before.map ofDiagnostic).contains (ofDiagnostic d) := by
      rw [Bool.eq_iff_iff, List.contains_iff_mem, List.contains_iff_mem, List.mem_map, List.mem_map]
      constructor
      · rintro ⟨e, he, heq⟩
        exact ⟨e, he, (h e (List.mem_append_left _ he) d (by simp)).mp heq⟩
      · rintro ⟨e, he, heq⟩
        exact ⟨e, he, (h e (List.mem_append_left _ he) d (by simp)).mpr heq⟩
    rw [List.map_cons, firsts, firsts, hcontains]
    split
    · refine ih fun a ha b hb => h a ?_ b ?_
      · exact List.mem_append.mpr ((List.mem_append.mp ha).imp_right (List.mem_cons_of_mem d))
      · exact List.mem_append.mpr ((List.mem_append.mp hb).imp_right (List.mem_cons_of_mem d))
    · rw [List.map_cons]
      congr 1
      refine @ih (d :: before) fun a ha b hb => h a ?_ b ?_
      · simpa [or_left_comm] using ha
      · simpa [or_left_comm] using hb

end DedupKey

theorem Reporter.sinks_foldl_report (ds : List Diagnostic) (b : Bag) (seen : List DedupKey) :
    (ds.foldl report ⟨[.bag b], some seen⟩).sinks =
      [.bag ((DedupKey.firsts seen ds).foldl Bag.push b)] := by
  induction ds generalizing b seen with
  | nil => rfl
  | cons d ds ih =>
    rw [List.foldl_cons, DedupKey.firsts]
    by_cases h : seen.contains (DedupKey.ofDiagnostic d) = true
    · simp only [report, h, if_true]
      exact ih b seen
    · simp only [report, h]
      exact ih (b.push d) (DedupKey.ofDiagnostic d :: seen)

/-- What is reported is added unless it is a repetition. -/
theorem Outcome.report_eq (bag : Bag) (ds : List Diagnostic) :
    Outcome.report bag ds = (DedupKey.firsts [] ds).foldl Bag.push bag := by
  rw [Outcome.report, Reporter.dedup, Reporter.sinks_foldl_report]

end TensorLang
