/-!
# Binary search

`Search.first` finds the first element of a list that passes a test, if all elements behind it pass
the test, too: if the list consists of elements that fail and then of elements that pass, the search
ends between them (`Search.first_append`).
-/

namespace TensorLang.Search

variable {α : Type}

/-- Halves the range from `lo` to `hi` until nothing is left of it. Elements in front of the range
have failed the test, and elements behind it have passed. -/
def loop (p : α → Bool) (xs : List α) (lo hi : Nat) : Nat :=
  if lo < hi then
    let middle := (lo + hi) / 2
    if xs[middle]?.any p then loop p xs lo middle else loop p xs (middle + 1) hi
  else lo
termination_by hi - lo

/-- The index of the first element that passes the test, or the length of the list. -/
def first (p : α → Bool) (xs : List α) : Nat := loop p xs 0 xs.length

variable {p : α → Bool} {xs ys : List α}

/-- The cut stays in the range. -/
theorem loop_append (hxs : ∀ a ∈ xs, p a = false) (hys : ∀ a ∈ ys, p a = true) {lo hi : Nat}
    (hlo : lo ≤ xs.length) (hhi : xs.length ≤ hi) (hend : hi ≤ (xs ++ ys).length) :
    loop p (xs ++ ys) lo hi = xs.length := by
  fun_induction loop p (xs ++ ys) lo hi with
  | case1 lo hi hlt middle hpass ih =>
    -- what passes is behind the cut
    refine ih hlo (Nat.le_of_not_lt fun hbefore => ?_) (by omega)
    rw [List.getElem?_append_left (by omega), List.getElem?_eq_getElem (by omega),
      Option.any_some, hxs _ (List.getElem_mem _)] at hpass
    cases hpass
  | case2 lo hi hlt middle hfail ih =>
    refine ih (Nat.lt_of_not_le fun hbehind => ?_) hhi hend
    rw [List.length_append] at hend
    rw [List.getElem?_append_right (by omega), List.getElem?_eq_getElem (by omega),
      Option.any_some, hys _ (List.getElem_mem _)] at hfail
    exact hfail rfl
  | case3 lo hi hge => omega

theorem loop_le {lo hi : Nat} (h : lo ≤ hi) : loop p xs lo hi ≤ hi := by
  fun_induction loop p xs lo hi with
  | case1 lo hi hlt middle _ ih => exact Nat.le_trans (ih (by omega)) (by omega)
  | case2 lo hi hlt middle _ ih => exact ih (by omega)
  | case3 lo hi hge => exact h

theorem first_le_length (p : α → Bool) (xs : List α) : first p xs ≤ xs.length :=
  loop_le (Nat.zero_le _)

/-- **The search ends where the test begins to hold.** -/
theorem first_append (hxs : ∀ a ∈ xs, p a = false) (hys : ∀ a ∈ ys, p a = true) :
    first p (xs ++ ys) = xs.length :=
  loop_append hxs hys (Nat.zero_le _) (by simp) (Nat.le_refl _)

end TensorLang.Search
