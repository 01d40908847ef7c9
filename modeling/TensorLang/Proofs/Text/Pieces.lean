import Mathlib.Tactic.Common
import TensorLang.Text.Bytes

/-!
# Pieces of texts

What a text begins and ends with, and how texts are cut at a separator and put together again:
pieces without separators come back from the joined text (`Bytes.splitOn_joinWith`), and joining
what was cut gives the text (`Bytes.joinWith_splitOn`).
-/

namespace TensorLang.Bytes

/-! ### Beginnings and ends -/

theorem dropPrefix?_eq_some {start text rest : Bytes} :
    dropPrefix? start text = some rest ↔ text = start ++ rest := by
  fun_induction dropPrefix? start text with
  | case1 text => simp [eq_comm]
  | case2 => simp
  | case3 a as b bs hab ih =>
    rw [beq_iff_eq] at hab
    simp [ih, hab]
  | case4 a as b bs hab =>
    rw [beq_iff_eq] at hab
    simp [Ne.symm hab]

theorem startsWith_iff {text start : Bytes} :
    startsWith text start = true ↔ ∃ rest, text = start ++ rest := by
  simp only [startsWith, Option.isSome_iff_exists, dropPrefix?_eq_some]

theorem endsWith_iff {text tail : Bytes} :
    endsWith text tail = true ↔ ∃ before, text = before ++ tail := by
  rw [endsWith, startsWith_iff]
  constructor
  · rintro ⟨rest, h⟩
    exact ⟨rest.reverse, by rw [← List.reverse_inj, h, List.reverse_append, List.reverse_reverse]⟩
  · rintro ⟨before, rfl⟩
    exact ⟨before.reverse, List.reverse_append⟩

/-! ### Joining -/

/-- Joined texts, with the separators before all parts but the first. -/
theorem joinWith_cons (sep part : Bytes) (rest : List Bytes) :
    joinWith sep (part :: rest) = part ++ rest.flatMap (sep ++ ·) := by
  induction rest generalizing part with
  | nil => simp [joinWith]
  | cons next rest ih =>
    rw [joinWith.eq_3 sep part (next :: rest) (List.cons_ne_nil next rest), ih, List.flatMap_cons,
      List.append_assoc, List.append_assoc]

/-- Joined texts, with the separators behind all parts but the last. -/
theorem joinWith_concat (sep : Bytes) (init : List Bytes) (last : Bytes) :
    joinWith sep (init ++ [last]) = init.flatMap (· ++ sep) ++ last := by
  cases init with
  | nil => rfl
  | cons first init =>
    rw [List.cons_append, joinWith_cons, List.flatMap_append, List.flatMap_singleton,
      List.flatMap_cons]
    -- the separators move from the front of each part to the end of the part before
    induction init generalizing first with
    | nil => simp
    | cons next init ih =>
      have hrest := ih next
      simp only [List.flatMap_cons, List.append_assoc] at hrest ⊢
      rw [hrest]

theorem joinWith_append (sep : Bytes) {as bs : List Bytes} (has : as ≠ []) (hbs : bs ≠ []) :
    joinWith sep (as ++ bs) = joinWith sep as ++ (sep ++ joinWith sep bs) := by
  obtain ⟨a, as, rfl⟩ := List.exists_cons_of_ne_nil has
  obtain ⟨b, bs, rfl⟩ := List.exists_cons_of_ne_nil hbs
  rw [List.cons_append, joinWith_cons, joinWith_cons, joinWith_cons, List.flatMap_append,
    List.flatMap_cons, List.append_assoc, List.append_assoc]

theorem joinWith_ne_nil {sep part : Bytes} (hpart : part ≠ []) (rest : List Bytes) :
    joinWith sep (part :: rest) ≠ [] := by
  rw [joinWith_cons]
  exact List.append_ne_nil_of_left_ne_nil hpart _

theorem mem_joinWith {sep : Bytes} {parts : List Bytes} {b : UInt8} (h : b ∈ joinWith sep parts) :
    b ∈ sep ∨ ∃ part ∈ parts, b ∈ part := by
  fun_induction joinWith sep parts with
  | case1 => cases h
  | case2 part => exact .inr ⟨part, List.mem_singleton_self part, h⟩
  | case3 part rest _ ih =>
    rcases List.mem_append.mp h with h | h
    · rcases List.mem_append.mp h with h | h
      · exact .inr ⟨part, List.mem_cons_self, h⟩
      · exact .inl h
    · exact (ih h).imp_right fun ⟨p, hp, hb⟩ => ⟨p, List.mem_cons_of_mem part hp, hb⟩

/-! ### Cutting at a byte -/

theorem splitOn_cons (sep b : UInt8) (bs : Bytes) :
    splitOn sep (b :: bs) =
      if b == sep then [] :: splitOn sep bs else (splitOn sep bs).modifyHead (b :: ·) := by
  rw [splitOn]
  cases h : splitOn sep bs with
  | nil => exact absurd h (splitOn_ne_nil sep bs)
  | cons piece pieces => rfl

theorem splitOn_append_cons (sep : UInt8) (a b : Bytes) :
    splitOn sep (a ++ sep :: b) = splitOn sep a ++ splitOn sep b := by
  induction a with
  | nil => rw [List.nil_append, splitOn_cons, if_pos BEq.rfl]; rfl
  | cons c a ih =>
    rw [List.cons_append, splitOn_cons, splitOn_cons, ih]
    split
    · rfl
    · obtain ⟨first, rest, hsplit⟩ := List.exists_cons_of_ne_nil (splitOn_ne_nil sep a)
      rw [hsplit]
      rfl

theorem splitOn_of_not_mem {sep : UInt8} {a : Bytes} (h : sep ∉ a) : splitOn sep a = [a] := by
  induction a with
  | nil => rfl
  | cons b a ih =>
    have hb : (b == sep) = false := by
      rw [beq_eq_false_iff_ne]
      rintro rfl
      exact h List.mem_cons_self
    rw [splitOn_cons, hb, ih fun hmem => h (List.mem_cons_of_mem b hmem)]
    rfl

theorem not_mem_of_splitOn {sep : UInt8} {a piece : Bytes} (h : piece ∈ splitOn sep a) :
    sep ∉ piece := by
  induction a generalizing piece with
  | nil =>
    obtain rfl := List.mem_singleton.mp h
    exact List.not_mem_nil
  | cons b a ih =>
    rw [splitOn_cons] at h
    obtain ⟨first, rest, hsplit⟩ := List.exists_cons_of_ne_nil (splitOn_ne_nil sep a)
    rw [hsplit] at ih h
    split at h
    · rcases List.mem_cons.mp h with rfl | h
      · exact List.not_mem_nil
      · exact ih h
    · rename_i hb
      rcases List.mem_cons.mp h with rfl | h
      · intro hmem
        rcases List.mem_cons.mp hmem with rfl | hmem
        · exact hb BEq.rfl
        · exact ih List.mem_cons_self hmem
      · exact ih (List.mem_cons_of_mem first h)

/-- Pieces that were put together are cut apart again. -/
theorem splitOn_joinWith {sep : UInt8} {pieces : List Bytes} (hne : pieces ≠ [])
    (h : ∀ piece ∈ pieces, sep ∉ piece) : splitOn sep (joinWith [sep] pieces) = pieces := by
  induction pieces with
  | nil => exact absurd rfl hne
  | cons piece rest ih =>
    have hpiece : splitOn sep piece = [piece] := splitOn_of_not_mem (h piece List.mem_cons_self)
    cases rest with
    | nil => exact hpiece
    | cons next rest =>
      have hjoin : joinWith [sep] (piece :: next :: rest) =
          piece ++ sep :: joinWith [sep] (next :: rest) := by
        rw [joinWith, List.append_assoc, List.singleton_append]
        exact List.cons_ne_nil next rest
      have hrest := ih (List.cons_ne_nil next rest) fun p hp => h p (List.mem_cons_of_mem piece hp)
      rw [hjoin, splitOn_append_cons, hpiece, hrest, List.singleton_append]

/-- Pieces that were cut apart are put together again. -/
theorem joinWith_splitOn (sep : UInt8) (text : Bytes) :
    joinWith [sep] (splitOn sep text) = text := by
  induction text with
  | nil => rfl
  | cons b text ih =>
    obtain ⟨first, rest, hsplit⟩ := List.exists_cons_of_ne_nil (splitOn_ne_nil sep text)
    rw [splitOn_cons]
    rw [hsplit, joinWith_cons] at ih
    rw [hsplit]
    by_cases hb : b = sep
    · rw [if_pos (beq_iff_eq.mpr hb), joinWith_cons, List.flatMap_cons, List.nil_append,
        List.append_assoc, ih, hb]
      rfl
    · rw [if_neg (by simpa using hb), List.modifyHead_cons, joinWith_cons, List.cons_append, ih]

end TensorLang.Bytes
