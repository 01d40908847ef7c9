import Mathlib.Data.List.Induction
import Mathlib.Tactic.Common
import TensorLang.Syntax.Reader

/-!
# What a log of complaints comes to

`Complaint.furthest` and `Complaint.rejections` go through a log from the left. Both are described
by what one more complaint at the end changes (`furthest_concat`, `rejections_concat`), so that
statements about them are proved by induction from the right. The main one is
`isFurthest_furthest`: what is answered is the furthest place, with what was looked for there.
-/

namespace TensorLang.Complaint

/-- The furthest place after one more complaint. -/
def pushMiss (best : Option (Nat × List Label)) : Complaint → Option (Nat × List Label)
  | rejected _ _ => best
  | expected pos label =>
    match best with
    | none => some (pos, [label])
    | some (far, labels) =>
      if far < pos then some (pos, [label])
      else if pos = far && !labels.contains label then some (far, labels ++ [label])
      else best

/-- The rejected literals after one more complaint. -/
def pushRejection (errors : List SyntaxError) : Complaint → List SyntaxError
  | expected _ _ => errors
  | rejected span problem =>
    if errors.contains (.rejected span problem.message) then errors
    else errors ++ [.rejected span problem.message]

theorem furthest_concat (log : List Complaint) (k : Complaint) :
    furthest (log ++ [k]) = pushMiss (furthest log) k := by
  rw [furthest, List.foldl_append]
  cases k with
  | rejected span problem => rfl
  | expected pos label =>
    rw [← furthest]
    cases furthest log <;> rfl

theorem rejections_concat (log : List Complaint) (k : Complaint) :
    rejections (log ++ [k]) = pushRejection (rejections log) k := by
  rw [rejections, List.foldl_append]
  cases k <;> rfl

/-- The furthest place is a place of the log. -/
theorem mem_of_furthest {log : List Complaint} {pos : Nat} {labels : List Label}
    (h : furthest log = some (pos, labels)) : ∃ label, expected pos label ∈ log := by
  induction log using List.reverseRecOn generalizing pos labels with
  | nil => cases h
  | append_singleton log k ih =>
    rw [furthest_concat] at h
    have hold : furthest log = some (pos, labels) → ∃ label, expected pos label ∈ log ++ [k] := by
      intro hfar
      obtain ⟨label, hlabel⟩ := ih hfar
      exact ⟨label, List.mem_append_left _ hlabel⟩
    cases k with
    | rejected span problem => exact hold h
    | expected p label =>
      have hnew : p = pos → ∃ l, expected pos l ∈ log ++ [expected p label] := by
        rintro rfl
        exact ⟨label, List.mem_append_right _ List.mem_cons_self⟩
      cases hbest : furthest log with
      | none =>
        rw [hbest] at h
        simp only [pushMiss, Option.some.injEq, Prod.mk.injEq] at h
        exact hnew h.1
      | some best =>
        obtain ⟨far, seen⟩ := best
        rw [hbest] at h
        simp only [pushMiss] at h
        split_ifs at h with hlt hsame
        · simp only [Option.some.injEq, Prod.mk.injEq] at h
          exact hnew h.1
        · simp only [Option.some.injEq, Prod.mk.injEq] at h
          obtain ⟨hp, -⟩ : p = far ∧ _ := by simpa using hsame
          exact hnew (hp.trans h.1)
        · exact hold (hbest.trans h)

/-- What the furthest place has to be: nothing was looked for behind it, and what is listed there
was looked for. -/
def IsFurthest (log : List Complaint) : Option (Nat × List Label) → Prop
  | none => ∀ pos label, expected pos label ∉ log
  | some (far, labels) =>
    labels ≠ [] ∧ (∀ label ∈ labels, expected far label ∈ log) ∧
      ∀ pos label, expected pos label ∈ log → pos ≤ far

/-- One more complaint. -/
theorem IsFurthest.concat {log : List Complaint} {best : Option (Nat × List Label)}
    (h : IsFurthest log best) (k : Complaint) : IsFurthest (log ++ [k]) (pushMiss best k) := by
  cases k with
  | rejected span problem =>
    have hmem : ∀ pos label, expected pos label ∈ log ++ [rejected span problem] ↔
        expected pos label ∈ log := by simp
    cases best with
    | none => simpa only [pushMiss, IsFurthest, hmem] using h
    | some far => simpa only [pushMiss, IsFurthest, hmem] using h
  | expected p label =>
    have hmem : ∀ pos label', expected pos label' ∈ log ++ [expected p label] ↔
        expected pos label' ∈ log ∨ pos = p ∧ label' = label := by simp
    cases best with
    | none =>
      refine ⟨List.cons_ne_nil _ _, fun label' hlabel => ?_, fun pos label' hpos => ?_⟩
      · rw [List.mem_singleton.mp hlabel]
        exact (hmem _ _).mpr (.inr ⟨rfl, rfl⟩)
      · rcases (hmem _ _).mp hpos with hpos | ⟨rfl, -⟩
        · exact absurd hpos (h pos label')
        · exact Nat.le_refl _
    | some best =>
      obtain ⟨far, labels⟩ := best
      obtain ⟨hne, hlabels, hle⟩ := h
      simp only [pushMiss]
      split_ifs with hlt hsame
      · refine ⟨List.cons_ne_nil _ _, fun label' hlabel => ?_, fun pos label' hpos => ?_⟩
        · rw [List.mem_singleton.mp hlabel]
          exact (hmem _ _).mpr (.inr ⟨rfl, rfl⟩)
        · rcases (hmem _ _).mp hpos with hpos | ⟨rfl, -⟩
          · exact Nat.le_of_lt (Nat.lt_of_le_of_lt (hle pos label' hpos) hlt)
          · exact Nat.le_refl _
      · obtain ⟨rfl, -⟩ : p = far ∧ _ := by simpa using hsame
        refine ⟨by simp, fun label' hlabel => ?_, fun pos label' hpos => ?_⟩
        · rcases List.mem_append.mp hlabel with hlabel | hlabel
          · exact (hmem _ _).mpr (.inl (hlabels label' hlabel))
          · exact (hmem _ _).mpr (.inr ⟨rfl, List.mem_singleton.mp hlabel⟩)
        · rcases (hmem _ _).mp hpos with hpos | ⟨rfl, -⟩
          · exact hle pos label' hpos
          · exact Nat.le_refl _
      · refine ⟨hne, fun label' hlabel => (hmem _ _).mpr (.inl (hlabels label' hlabel)), ?_⟩
        intro pos label' hpos
        rcases (hmem _ _).mp hpos with hpos | ⟨rfl, -⟩
        · exact hle pos label' hpos
        · exact Nat.not_lt.mp hlt

theorem isFurthest_furthest (log : List Complaint) : IsFurthest log (furthest log) := by
  induction log using List.reverseRecOn with
  | nil => exact fun _ _ => List.not_mem_nil
  | append_singleton log k ih =>
    rw [furthest_concat]
    exact ih.concat k

/-- A reported literal was rejected. -/
theorem mem_of_rejections {log : List Complaint} {e : SyntaxError} (h : e ∈ rejections log) :
    ∃ span problem, rejected span problem ∈ log ∧ e = .rejected span problem.message := by
  induction log using List.reverseRecOn with
  | nil => cases h
  | append_singleton log k ih =>
    have hold : e ∈ rejections log →
        ∃ span problem, rejected span problem ∈ log ++ [k] ∧
          e = .rejected span problem.message := by
      intro he
      obtain ⟨span, problem, hmem, heq⟩ := ih he
      exact ⟨span, problem, List.mem_append_left _ hmem, heq⟩
    rw [rejections_concat] at h
    cases k with
    | expected pos label => exact hold h
    | rejected span problem =>
      rw [pushRejection] at h
      split at h
      · exact hold h
      · rcases List.mem_append.mp h with h | h
        · exact hold h
        · exact ⟨span, problem, List.mem_append_right _ List.mem_cons_self,
            List.mem_singleton.mp h⟩

/-- A rejected literal is reported. -/
theorem mem_rejections {log : List Complaint} {span : Span} {problem : LiteralProblem}
    (h : rejected span problem ∈ log) : .rejected span problem.message ∈ rejections log := by
  induction log using List.reverseRecOn with
  | nil => cases h
  | append_singleton log k ih =>
    rw [rejections_concat]
    rcases List.mem_append.mp h with hold | hnew
    · have hreported := ih hold
      cases k with
      | expected pos label => exact hreported
      | rejected span' problem' =>
        rw [pushRejection]
        split_ifs
        · exact hreported
        · exact List.mem_append_left _ hreported
    · obtain rfl := List.mem_singleton.mp hnew
      rw [pushRejection]
      split_ifs with hseen
      · simpa using hseen
      · exact List.mem_append_right _ List.mem_cons_self

theorem pushRejection_ne_nil (errors : List SyntaxError) (span : Span) (problem : LiteralProblem) :
    pushRejection errors (rejected span problem) ≠ [] := by
  rw [pushRejection]
  split_ifs with h
  · rintro rfl
    simp at h
  · simp

/-- Nothing is reported only if no literal was rejected. -/
theorem not_mem_of_rejections_eq_nil {log : List Complaint} (h : rejections log = [])
    (span : Span) (problem : LiteralProblem) : rejected span problem ∉ log := by
  induction log using List.reverseRecOn with
  | nil => exact List.not_mem_nil
  | append_singleton log k ih =>
    rw [rejections_concat] at h
    intro hmem
    cases k with
    | expected pos label =>
      rcases List.mem_append.mp hmem with hmem | hmem
      · exact ih h hmem
      · cases List.mem_singleton.mp hmem
    | rejected span' problem' => exact pushRejection_ne_nil _ span' problem' h

end TensorLang.Complaint
