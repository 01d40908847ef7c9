import Mathlib.Data.List.DropRight
import Mathlib.Data.List.Rotate
import TensorLang.Trace.Ring

/-!
# What a ring keeps

A ring writes round and round over its slots, and yet it shows the events in the order in which they
came: its snapshot is the end of the list of all events that passed its level, as long as there are
slots (`Ring.snapshot_eq_rtake`).

The slots of a full ring are the snapshot, rotated by the number of events so far. So a new event
stands in the place of the oldest one, and after one more turn it is the last (`rotate_set`). That
is the step (`Ring.snapshot_push`): the event comes behind the others, and what is more than the
slots can hold is forgotten at the front. Forgetting event by event forgets as much as forgetting
once at the end (`rtake_append_rtake`).
-/

namespace TensorLang.Trace

/-! ### Turning and cutting lists -/

section Lists

variable {α : Type}

/-- The element at which a turned list begins is replaced, and the list turned by one more. -/
theorem rotate_set {xs : List α} {n : Nat} (hn : n < xs.length) (x : α) :
    (xs.set n x).rotate (n + 1) = (xs.rotate n).tail ++ [x] := by
  obtain ⟨before, y, after, rfl, rfl⟩ : ∃ before y after,
      xs = before ++ y :: after ∧ before.length = n :=
    ⟨xs.take n, xs[n], xs.drop (n + 1), by simp, List.length_take_of_le hn.le⟩
  have hset : (before ++ y :: after).set before.length x = before ++ [x] ++ after := by simp
  have hlength : before.length + 1 = (before ++ [x]).length := by simp
  rw [hset, hlength, List.rotate_append_length_eq, List.rotate_append_length_eq]
  simp

theorem rtake_of_length_le {xs : List α} {n : Nat} (h : xs.length ≤ n) : xs.rtake n = xs := by
  rw [List.rtake, Nat.sub_eq_zero_of_le h, List.drop_zero]

theorem length_rtake (xs : List α) (n : Nat) : (xs.rtake n).length = min n xs.length := by
  rw [List.rtake, List.length_drop]
  omega

/-- Where there is room for all but one, the oldest one goes. -/
theorem rtake_concat_length {xs : List α} (hne : xs ≠ []) (x : α) :
    (xs ++ [x]).rtake xs.length = xs.tail ++ [x] := by
  obtain ⟨oldest, rest, rfl⟩ := List.exists_cons_of_ne_nil hne
  rw [List.length_cons, List.rtake_concat_succ, List.rtake, List.length_cons,
    Nat.add_sub_cancel_left, List.drop_one]

/-- What was forgotten before would be forgotten now. -/
theorem rtake_append_rtake (xs ys : List α) (n : Nat) :
    (xs.rtake n ++ ys).rtake n = (xs ++ ys).rtake n := by
  have hkept : xs.rtake n ++ ys = (xs ++ ys).drop (xs.length - n) :=
    (List.drop_append_of_le_length (Nat.sub_le _ _)).symm
  rw [hkept, List.rtake, List.rtake, List.drop_drop, List.length_drop, List.length_append]
  congr 1
  omega

end Lists

namespace Ring

/-- A ring that was filled event by event: as many slots are taken as there were events, until all
are. -/
structure IsSound (r : Ring) : Prop where
  size_pos : 0 < r.size
  length_slots : r.slots.length = min r.size r.total

variable {r : Ring}

theorem isSound_empty (size : Int) (level : Level) : (empty size level).IsSound where
  size_pos := by
    unfold empty standardSize
    split_ifs <;> simp only <;> omega
  length_slots := (Nat.min_zero _).symm

theorem IsSound.push (h : r.IsSound) (e : Event) : (r.push e).IsSound where
  size_pos := h.size_pos
  length_slots := by
    have hlength := h.length_slots
    simp only [Ring.push]
    split_ifs <;> simp only [List.length_append, List.length_set, List.length_singleton] <;> omega

theorem IsSound.emit (h : r.IsSound) (e : Event) : (r.emit e).IsSound := by
  unfold Ring.emit
  split_ifs
  · exact h.push e
  · exact h

/-- Once all slots are taken, the snapshot is the slots, turned by the number of events. -/
theorem snapshot_of_le (h : r.IsSound) (hfull : r.size ≤ r.total) :
    r.snapshot = r.slots.rotate r.total := by
  have hlength : r.slots.length = r.size := by rw [h.length_slots, min_eq_left hfull]
  unfold snapshot
  split_ifs with htotal
  · rw [Nat.le_antisymm htotal hfull, ← hlength, List.rotate_length]
  · have hslot : r.total % r.size ≤ r.slots.length := by
      rw [hlength]
      exact (Nat.mod_lt _ h.size_pos).le
    rw [← List.rotate_eq_drop_append_take hslot, ← hlength, List.rotate_mod]

theorem length_snapshot (h : r.IsSound) : r.snapshot.length = min r.size r.total := by
  rcases Nat.le_total r.size r.total with hfull | hroom
  · rw [snapshot_of_le h hfull, List.length_rotate, h.length_slots]
  · rw [snapshot, if_pos hroom, h.length_slots]

/-- **A new event comes behind the others**, and the oldest one goes if there is no slot left. -/
theorem snapshot_push (h : r.IsSound) (e : Event) :
    (r.push e).snapshot = (r.snapshot ++ [e]).rtake r.size := by
  by_cases hroom : r.total < r.size
  · have hkept : (r.snapshot ++ [e]).length ≤ r.size := by
      rw [List.length_append, length_snapshot h, List.length_singleton]
      omega
    have hpushed : (r.push e).slots = r.slots ++ [e] := if_pos hroom
    rw [rtake_of_length_le hkept, snapshot, snapshot, if_pos hroom.le, hpushed]
    exact if_pos hroom
  · have hfull : r.size ≤ r.total := Nat.not_lt.mp hroom
    have hlength : r.slots.length = r.size := by rw [h.length_slots, min_eq_left hfull]
    have hslot : r.total % r.size < r.slots.length := by
      rw [hlength]
      exact Nat.mod_lt _ h.size_pos
    have hpushed : (r.push e).slots = r.slots.set (r.total % r.size) e := if_neg hroom
    have hne : r.snapshot ≠ [] := by
      rw [← List.length_pos_iff, length_snapshot h, min_eq_left hfull]
      exact h.size_pos
    have hsize : r.size = r.snapshot.length := by rw [length_snapshot h, min_eq_left hfull]
    calc (r.push e).snapshot = (r.push e).slots.rotate (r.total + 1) :=
          snapshot_of_le (h.push e) (Nat.le_succ_of_le hfull)
      -- turning counts only up to whole rounds
      _ = (r.slots.set (r.total % r.size) e).rotate (r.total % r.size + 1) := by
          rw [hpushed, ← List.rotate_mod, ← List.rotate_mod _ (r.total % r.size + 1),
            List.length_set, hlength, Nat.mod_add_mod]
      _ = (r.slots.rotate (r.total % r.size)).tail ++ [e] := rotate_set hslot e
      _ = r.snapshot.tail ++ [e] := by
          rw [snapshot_of_le h hfull, ← hlength, List.rotate_mod]
      _ = (r.snapshot ++ [e]).rtake r.size := by rw [hsize, rtake_concat_length hne]

/-- The events that pass the level come behind the others, as far as there are slots. -/
theorem snapshot_foldl_emit (h : r.IsSound) (events : List Event) :
    (events.foldl emit r).snapshot =
      (r.snapshot ++ events.filter r.level.passes).rtake r.size := by
  induction events generalizing r with
  | nil =>
    have hkept : r.snapshot.length ≤ r.size := by
      rw [length_snapshot h]
      exact Nat.min_le_left ..
    rw [List.foldl_nil, List.filter_nil, List.append_nil, rtake_of_length_le hkept]
  | cons e rest ih =>
    rw [List.foldl_cons, ih (h.emit e)]
    by_cases hpass : r.level.passes e = true
    · have hemit : r.emit e = r.push e := if_pos hpass
      rw [hemit, snapshot_push h, List.filter_cons_of_pos hpass]
      change ((r.snapshot ++ [e]).rtake r.size ++ rest.filter r.level.passes).rtake r.size = _
      rw [rtake_append_rtake, List.append_assoc, List.singleton_append]
    · have hemit : r.emit e = r := if_neg hpass
      rw [hemit, List.filter_cons_of_neg hpass]

/-- **A ring shows the most recent events**, oldest first, whatever number of slots was asked for
and after any number of events: of those that pass its level the last ones, as many as there are
slots. Heartbeats pass every level. -/
theorem snapshot_eq_rtake (size : Int) (level : Level) (events : List Event) :
    let told := events.filter fun e => e.kind = .heartbeat ∨ level.emits e.scope = true
    let slots := if size ≤ 0 then 4096 else size.toNat
    (events.foldl emit (empty size level)).snapshot = told.rtake slots ∧
      (events.foldl emit (empty size level)).snapshot.length = min slots told.length := by
  intro told slots
  have hpasses : events.filter level.passes = told := by
    refine List.filter_congr fun e _ => Bool.eq_iff_iff.mpr ?_
    simp [Level.passes]
  have hsnapshot : (events.foldl emit (empty size level)).snapshot = told.rtake slots := by
    rw [snapshot_foldl_emit (isSound_empty size level)]
    change (([] : List Event) ++ events.filter level.passes).rtake slots = _
    rw [List.nil_append, hpasses]
  exact ⟨hsnapshot, by rw [hsnapshot, length_rtake]⟩

/-- The third event takes the slot of the first one. -/
example (a b c : Event) : ([a, b, c].foldl push (empty 2 .debug)).snapshot = [b, c] := by
  cbv

end Ring

end TensorLang.Trace
