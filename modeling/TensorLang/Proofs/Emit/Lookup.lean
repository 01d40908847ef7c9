import Mathlib.Algebra.Group.Nat.Defs
import Mathlib.Data.List.Basic
import Mathlib.Data.List.GetD
import TensorLang.Emit.Fragment

/-!
# Fragments and their offsets

The layout puts every fragment at an offset of its own, and the lookup goes back from any offset to
the fragment that stands there (`Fragment.layout_lookup`), except from the greatest 64-bit word,
behind which there is no offset (`Fragment.layout_lookup_limit`).

Behind each fragment but the last one there is something that separates it from the next one, a
blank or a new line (`Fragment.separator`). So even fragments without text begin at different
offsets, and the offsets are strictly increasing (`Fragment.pairwise_offsets`). Therefore an offset
is covered by one fragment at most (`Fragment.Covers.unique`). It is the last one that begins at the
offset or before (`Fragment.at?`), and the lookup finds it by going to the first fragment that
begins behind the offset and one step back (`Fragment.lookup_eq_spanAt`).
-/

namespace TensorLang

namespace Fragment

/-! ### Where fragments begin -/

/-- What stands between a fragment and the next one. -/
def separator (f : Fragment) (isLast : Bool) : Bytes :=
  if isLast then [] else if f.text == ";".utf8 then [10, 9] else [32]

theorem separated_eq (f : Fragment) (isLast : Bool) :
    separated f isLast = f.text ++ separator f isLast := by
  unfold separated separator
  cases isLast <;> split_ifs <;> simp

theorem isBlank_of_mem_separator {f : Fragment} {isLast : Bool} {b : UInt8}
    (h : b ∈ separator f isLast) : b = 32 ∨ b = 10 ∨ b = 9 := by
  unfold separator at h
  split_ifs at h
  · cases h
  · rcases List.mem_cons.mp h with rfl | h
    · exact .inr (.inl rfl)
    · exact .inr (.inr (List.mem_singleton.mp h))
  · exact .inl (List.mem_singleton.mp h)

theorem length_separator_pos (f : Fragment) : 0 < (separator f false).length := by
  unfold separator
  split_ifs <;> simp_all

/-- Where a fragment begins in the layout; behind the last one, where the layout ends. -/
def startOf (fs : List Fragment) (i : Nat) : Nat := (offsets 0 fs).getD i (layout fs).length

theorem offsets_eq_map (start : Nat) (fs : List Fragment) :
    offsets start fs = (offsets 0 fs).map (start + ·) := by
  induction fs generalizing start with
  | nil => rfl
  | cons f rest ih =>
    rw [offsets, offsets, ih (start + _), ih (0 + _), List.map_cons, List.map_map]
    simp [Function.comp_def, Nat.add_assoc]

@[simp]
theorem length_offsets (start : Nat) (fs : List Fragment) :
    (offsets start fs).length = fs.length := by
  induction fs generalizing start with
  | nil => rfl
  | cons f rest ih => rw [offsets, List.length_cons, ih, List.length_cons]

theorem startOf_eq {fs : List Fragment} {i start : Nat} (h : (offsets 0 fs)[i]? = some start) :
    startOf fs i = start := by
  rw [startOf, List.getD_eq_getElem?_getD, h, Option.getD_some]

@[simp]
theorem startOf_nil (i : Nat) : startOf [] i = 0 := rfl

@[simp]
theorem startOf_zero (fs : List Fragment) : startOf fs 0 = 0 := by
  cases fs <;> rfl

@[simp]
theorem startOf_succ (f : Fragment) (rest : List Fragment) (i : Nat) :
    startOf (f :: rest) (i + 1) = (separated f rest.isEmpty).length + startOf rest i := by
  rw [startOf, offsets, List.getD_cons_succ, offsets_eq_map, layout, List.length_append,
    Nat.zero_add]
  exact List.getD_map _ _ _

theorem startOf_mono (fs : List Fragment) {i j : Nat} (h : i ≤ j) :
    startOf fs i ≤ startOf fs j := by
  induction fs generalizing i j with
  | nil => simp
  | cons f rest ih =>
    cases i with
    | zero => simp
    | succ i =>
      obtain ⟨j, rfl⟩ := Nat.exists_eq_add_one_of_ne_zero (Nat.ne_zero_of_lt h)
      have hle := ih (Nat.le_of_succ_le_succ h)
      simp only [startOf_succ]
      omega

theorem startOf_le (fs : List Fragment) (i : Nat) : startOf fs i ≤ (layout fs).length := by
  induction fs generalizing i with
  | nil => simp
  | cons f rest ih =>
    cases i with
    | zero => simp
    | succ i =>
      rw [startOf_succ, layout, List.length_append]
      exact Nat.add_le_add_left (ih i) _

theorem startOf_of_length_le {fs : List Fragment} {i : Nat} (h : fs.length ≤ i) :
    startOf fs i = (layout fs).length :=
  List.getD_eq_default _ _ (by rwa [length_offsets])

theorem le_of_mem_offsets {start k : Nat} {fs : List Fragment} (h : k ∈ offsets start fs) :
    start ≤ k := by
  rw [offsets_eq_map, List.mem_map] at h
  obtain ⟨k, -, rfl⟩ := h
  exact Nat.le_add_right start k

/-- **Fragments begin one behind the other**, also those without text. -/
theorem pairwise_offsets (start : Nat) (fs : List Fragment) :
    (offsets start fs).Pairwise (· < ·) := by
  induction fs generalizing start with
  | nil => exact List.Pairwise.nil
  | cons f rest ih =>
    rw [offsets, List.pairwise_cons]
    refine ⟨fun k hk => ?_, ih _⟩
    have hrest : rest.isEmpty = false := by
      cases rest with
      | nil => cases hk
      | cons => rfl
    have hle := le_of_mem_offsets hk
    have hpos := length_separator_pos f
    rw [separated_eq, hrest, List.length_append] at hle
    omega

/-- From where a fragment begins, the layout is that of the fragments from this one on. -/
theorem drop_layout (fs : List Fragment) (i : Nat) :
    (layout fs).drop (startOf fs i) = layout (fs.drop i) := by
  induction fs generalizing i with
  | nil => simp [layout]
  | cons f rest ih =>
    cases i with
    | zero => simp
    | succ i => rw [layout, startOf_succ, List.drop_length_add_append, ih, List.drop_succ_cons]

/-- What the layout consists of from a fragment on: its text, what separates it from the next one,
and the layout of the others. -/
theorem drop_layout_eq {fs : List Fragment} {i : Nat} {f : Fragment} (h : fs[i]? = some f) :
    (layout fs).drop (startOf fs i) =
      f.text ++ separator f (fs.drop (i + 1)).isEmpty ++ layout (fs.drop (i + 1)) := by
  obtain ⟨hi, rfl⟩ := List.getElem?_eq_some_iff.mp h
  rw [drop_layout, List.drop_eq_getElem_cons hi, layout, separated_eq]

/-- A fragment ends where what separates it from the next one begins. -/
theorem startOf_add_one {fs : List Fragment} {i : Nat} {f : Fragment} (h : fs[i]? = some f) :
    startOf fs (i + 1) =
      startOf fs i + f.text.length + (separator f (fs.drop (i + 1)).isEmpty).length := by
  have hlength := congrArg List.length (drop_layout_eq h)
  rw [← drop_layout fs (i + 1)] at hlength
  simp only [List.length_drop, List.length_append] at hlength
  have hnext := startOf_le fs (i + 1)
  have hmono := startOf_mono fs (Nat.le_add_right i 1)
  omega

/-! ### Fragments at an offset -/

/-- The last fragment that begins at or before `offset`, an offset from the beginning of the layout;
an offset before the first fragment counts as inside it. -/
def at? (fs : List Fragment) (offset : Int) : Option Fragment :=
  let covering := (fs.zip (offsets 0 fs)).filter fun p => (p.2 : Int) ≤ offset
  match covering.getLast? with
  | some p => some p.1
  | none => fs.head?

/-- The span of the fragment at an offset. -/
def spanAt (fs : List Fragment) (offset : Int) : Span := ((at? fs offset).map span).getD Span.none

/-- A fragment covers an offset if it begins there or before, and the next one, if there is one,
begins behind. -/
def Covers (fs : List Fragment) (offset : Int) (i : Nat) : Prop :=
  (∃ start, (offsets 0 fs)[i]? = some start ∧ (start : Int) ≤ offset) ∧
    ∀ next, (offsets 0 fs)[i + 1]? = some next → offset < next

variable {fs : List Fragment} {offset : Int} {i j : Nat}

theorem lt_of_getElem?_offsets {k l : Nat} (hk : (offsets 0 fs)[i]? = some k)
    (hl : (offsets 0 fs)[j]? = some l) (hij : i < j) : k < l := by
  obtain ⟨hi, rfl⟩ := List.getElem?_eq_some_iff.mp hk
  obtain ⟨hj, rfl⟩ := List.getElem?_eq_some_iff.mp hl
  exact List.pairwise_iff_getElem.mp (pairwise_offsets 0 fs) i j hi hj hij

theorem Covers.lt_length (h : Covers fs offset i) : i < fs.length := by
  obtain ⟨⟨start, hstart, -⟩, -⟩ := h
  obtain ⟨hi, -⟩ := List.getElem?_eq_some_iff.mp hstart
  rwa [length_offsets] at hi

/-- All fragments behind one that covers an offset begin behind the offset. -/
theorem Covers.lt_of_lt (h : Covers fs offset i) {k : Nat} (hk : (offsets 0 fs)[j]? = some k)
    (hij : i < j) : offset < k := by
  obtain ⟨hj, -⟩ := List.getElem?_eq_some_iff.mp hk
  have hnext := List.getElem?_eq_getElem (Nat.lt_of_le_of_lt hij hj)
  have hlt := h.2 _ hnext
  rcases Nat.eq_or_lt_of_le hij with rfl | hij
  · obtain rfl := Option.some.inj (hnext.symm.trans hk)
    exact hlt
  · exact Int.lt_trans hlt (Int.ofNat_lt.mpr (lt_of_getElem?_offsets hnext hk hij))

/-- All fragments up to one that covers an offset begin there or before. -/
theorem Covers.le_of_le (h : Covers fs offset i) {k : Nat} (hk : (offsets 0 fs)[j]? = some k)
    (hji : j ≤ i) : (k : Int) ≤ offset := by
  obtain ⟨⟨start, hstart, hle⟩, -⟩ := h
  rcases Nat.eq_or_lt_of_le hji with rfl | hji
  · obtain rfl := Option.some.inj (hstart.symm.trans hk)
    exact hle
  · exact Int.le_trans (Int.ofNat_le.mpr (Nat.le_of_lt (lt_of_getElem?_offsets hk hstart hji))) hle

theorem Covers.le_of_mem_take (h : Covers fs offset i) {start : Nat}
    (hstart : start ∈ (offsets 0 fs).take (i + 1)) : (start : Int) ≤ offset := by
  obtain ⟨j, hj⟩ := List.mem_iff_getElem?.mp hstart
  rw [List.getElem?_take] at hj
  split_ifs at hj with hji
  exact h.le_of_le hj (Nat.le_of_lt_succ hji)

theorem Covers.lt_of_mem_drop (h : Covers fs offset i) {start : Nat}
    (hstart : start ∈ (offsets 0 fs).drop (i + 1)) : offset < start := by
  obtain ⟨j, hj⟩ := List.mem_iff_getElem?.mp hstart
  rw [List.getElem?_drop] at hj
  exact h.lt_of_lt hj (by omega)

/-- All fragments begin behind an offset if the first one does. -/
theorem lt_of_mem_offsets {first start : Nat} (hfirst : (offsets 0 fs)[0]? = some first)
    (hlt : offset < (first : Int)) (hstart : start ∈ offsets 0 fs) : offset < start := by
  obtain ⟨j, hj⟩ := List.mem_iff_getElem?.mp hstart
  rcases Nat.eq_zero_or_pos j with rfl | hpos
  · exact Option.some.inj (hfirst.symm.trans hj) ▸ hlt
  · exact Int.lt_trans hlt (Int.ofNat_lt.mpr (lt_of_getElem?_offsets hfirst hj hpos))

/-- **At most one fragment covers an offset.** -/
theorem Covers.unique (hi : Covers fs offset i) (hj : Covers fs offset j) : i = j := by
  have hle : ∀ {i j}, Covers fs offset i → Covers fs offset j → i ≤ j := by
    intro i j hi hj
    by_contra hlt
    obtain ⟨⟨start, hstart, hle⟩, -⟩ := hi
    exact Int.not_lt.mpr hle (hj.lt_of_lt hstart (Nat.not_le.mp hlt))
  exact Nat.le_antisymm (hle hi hj) (hle hj hi)

/-- **The first fragment that begins behind an offset, and one step back**: there is the fragment
that covers the offset. -/
theorem covers_search {first : Nat} (hfirst : (offsets 0 fs)[0]? = some first)
    (hle : (first : Int) ≤ offset) :
    Covers fs offset ((offsets 0 fs).findIdx (fun start : Nat => offset < start) - 1) := by
  obtain ⟨hlt, rfl⟩ := List.getElem?_eq_some_iff.mp hfirst
  have hpos : 0 < (offsets 0 fs).findIdx (fun start : Nat => offset < start) := by
    rw [List.lt_findIdx_iff]
    refine ⟨hlt, fun j hj => ?_⟩
    obtain rfl := Nat.le_zero.mp hj
    exact decide_eq_false (Int.not_lt.mpr hle)
  obtain ⟨i, hi⟩ := Nat.exists_eq_add_one_of_ne_zero (Nat.ne_of_gt hpos)
  have hbefore : i < (offsets 0 fs).findIdx (fun start : Nat => offset < start) := by omega
  rw [hi, Nat.add_sub_cancel]
  refine ⟨⟨_, List.getElem?_eq_getElem (Nat.lt_of_lt_of_le hbefore List.findIdx_le_length), ?_⟩,
    fun next hnext => ?_⟩
  · exact Int.not_lt.mp (of_decide_eq_false (List.not_of_lt_findIdx hbefore))
  · rw [← hi] at hnext
    obtain ⟨hfound, rfl⟩ := List.getElem?_eq_some_iff.mp hnext
    exact of_decide_eq_true (List.findIdx_getElem (w := hfound))

/-- The lookup finds the fragment that covers the offset. -/
theorem Covers.at?_eq (h : Covers fs offset i) : at? fs offset = fs[i]? := by
  have hbefore : ∀ p ∈ (fs.zip (offsets 0 fs)).take (i + 1), (p.2 : Int) ≤ offset := by
    intro p hp
    rw [List.zip, List.take_zipWith] at hp
    exact h.le_of_mem_take (List.of_mem_zip hp).2
  have hbehind : ∀ p ∈ (fs.zip (offsets 0 fs)).drop (i + 1), ¬ (p.2 : Int) ≤ offset := by
    intro p hp
    rw [List.zip, List.drop_zipWith] at hp
    exact Int.not_le.mpr (h.lt_of_mem_drop (List.of_mem_zip hp).2)
  have hcovering : (fs.zip (offsets 0 fs)).filter (fun p => (p.2 : Int) ≤ offset) =
      (fs.zip (offsets 0 fs)).take (i + 1) := by
    rw [← List.take_append_drop (i + 1) (fs.zip (offsets 0 fs)), List.filter_append,
      List.filter_eq_self.mpr fun p hp => decide_eq_true (hbefore p hp),
      List.filter_eq_nil_iff.mpr fun p hp hle => hbehind p hp (of_decide_eq_true hle),
      List.append_nil, List.take_append_drop]
  obtain ⟨⟨start, hstart, -⟩, -⟩ := id h
  obtain ⟨f, hf⟩ : ∃ f, fs[i]? = some f := ⟨_, List.getElem?_eq_getElem h.lt_length⟩
  have hlast : (fs.zip (offsets 0 fs))[i]? = some (f, start) :=
    List.getElem?_zip_eq_some.mpr ⟨hf, hstart⟩
  rw [at?, hcovering, List.getLast?_take, if_neg (Nat.succ_ne_zero i), Nat.add_sub_cancel, hlast,
    hf, Option.some_or]

/-- Before the first fragment, the lookup finds that one. -/
theorem at?_of_lt {first : Nat} (hfirst : (offsets 0 fs)[0]? = some first)
    (hlt : offset < (first : Int)) : at? fs offset = fs[0]? := by
  have hnone : (fs.zip (offsets 0 fs)).filter (fun p => (p.2 : Int) ≤ offset) = [] := by
    refine List.filter_eq_nil_iff.mpr fun p hp hle => ?_
    have hbehind := lt_of_mem_offsets hfirst hlt (List.of_mem_zip hp).2
    exact Int.not_le.mpr hbehind (of_decide_eq_true hle)
  rw [at?, hnone, List.getLast?_nil, List.head?_eq_getElem?]

/-- The next offset, unless there is none. -/
theorem toInt_add_one {offset : Int64} (h : offset ≠ Int64.maxValue) :
    (offset + 1).toInt = offset.toInt + 1 := by
  have hlow := offset.le_toInt
  have hhigh := offset.toInt_lt
  have hmax : offset.toInt ≠ 2 ^ 63 - 1 := fun heq => h (Int64.toInt_inj.mp heq)
  have hone : (1 : Int64).toInt = 1 := rfl
  rw [Int64.toInt_add, hone]
  exact Int.bmod_eq_of_le (by omega) (by omega)

/-- The lookup takes the first fragment behind the offset, and goes one step back. -/
theorem lookup_eq_of_append {offset : Int64} (h : offset ≠ Int64.maxValue) {xs ys : List Nat}
    (hsplit : offsets 0 fs = xs ++ ys) (hxs : ∀ start ∈ xs, (start : Int) ≤ offset.toInt)
    (hys : ∀ start ∈ ys, offset.toInt < (start : Int)) :
    lookup fs offset = (fs[xs.length - 1]?.map span).getD Span.none := by
  rw [lookup, hsplit, toInt_add_one h, Search.first_append (fun start hstart => ?_)
    fun start hstart => ?_]
  · exact decide_eq_false (Int.not_le.mpr (Int.lt_add_one_of_le (hxs start hstart)))
  · exact decide_eq_true (hys start hstart)

/-- **The lookup finds the fragment at the offset.** -/
theorem lookup_eq_spanAt (fs : List Fragment) {offset : Int64} (h : offset ≠ Int64.maxValue) :
    lookup fs offset = spanAt fs offset.toInt := by
  cases hfirst : (offsets 0 fs)[0]? with
  | none =>
    have hnil : fs = [] := by
      rwa [List.getElem?_eq_none_iff, length_offsets, Nat.le_zero,
        List.length_eq_zero_iff] at hfirst
    rw [hnil]
    rfl
  | some first =>
    by_cases hlt : offset.toInt < first
    · rw [spanAt, at?_of_lt hfirst hlt,
        lookup_eq_of_append h (List.nil_append _).symm (List.forall_mem_nil _) fun start =>
          lt_of_mem_offsets hfirst hlt]
      rfl
    · have hi := covers_search hfirst (Int.not_lt.mp hlt)
      generalize (offsets 0 fs).findIdx _ - 1 = i at hi
      -- the fragment at the offset is the last one of those that begin there or before
      have hlength : ((offsets 0 fs).take (i + 1)).length - 1 = i := by
        rw [List.length_take, length_offsets, Nat.min_eq_left hi.lt_length]
        rfl
      rw [spanAt, hi.at?_eq,
        lookup_eq_of_append h (List.take_append_drop (i + 1) (offsets 0 fs)).symm
          (fun start => hi.le_of_mem_take) fun start => hi.lt_of_mem_drop, hlength]

/-- The lookup at an offset in a layout that is not too long. -/
theorem lookup_ofNat (fs : List Fragment) {n : Nat} (h : n + 1 < 2 ^ 63) :
    lookup fs (.ofNat n) = spanAt fs n := by
  have hint : (Int64.ofNat n).toInt = n := Int64.toInt_ofNat_of_lt (by omega)
  have hmax : Int64.ofNat n ≠ Int64.maxValue := by
    intro heq
    have hlast : (n : Int) = 2 ^ 63 - 1 := hint.symm.trans (congrArg Int64.toInt heq)
    omega
  rw [lookup_eq_spanAt fs hmax, hint]

/-- **The fragment at an offset** of the layout begins there or before, and the next one begins
behind it. -/
theorem exists_at? {offset : Nat} (h : offset < (layout fs).length) :
    ∃ i f, fs[i]? = some f ∧ at? fs offset = some f ∧ startOf fs i ≤ offset ∧
      offset < startOf fs (i + 1) := by
  obtain ⟨first, rest, rfl⟩ : ∃ first rest, fs = first :: rest := by
    refine List.exists_cons_of_ne_nil ?_
    rintro rfl
    cases h
  obtain ⟨i, hi⟩ : ∃ i, Covers (first :: rest) offset i :=
    ⟨_, covers_search rfl (Int.natCast_nonneg offset)⟩
  obtain ⟨⟨start, hstart, hle⟩, hnext⟩ := id hi
  have hf := List.getElem?_eq_getElem hi.lt_length
  refine ⟨i, _, hf, hi.at?_eq.trans hf, ?_, ?_⟩
  · rw [startOf_eq hstart]
    exact Int.ofNat_le.mp hle
  · cases hmore : (offsets 0 (first :: rest))[i + 1]? with
    | some next =>
      rw [startOf_eq hmore]
      exact Int.ofNat_lt.mp (hnext next hmore)
    | none =>
      rw [List.getElem?_eq_none_iff, length_offsets] at hmore
      rwa [startOf_of_length_le hmore]

/-- An offset from the beginning of some fragments up to the end of them belongs to one of them. -/
theorem mem_of_at? {offset : Nat} (fs block more : List Fragment)
    (hstart : startOf (fs ++ block ++ more) fs.length ≤ offset)
    (hstop : offset < startOf (fs ++ block ++ more) (fs ++ block).length) :
    ∃ f ∈ block, at? (fs ++ block ++ more) offset = some f := by
  have hlt : offset < (layout (fs ++ block ++ more)).length :=
    Nat.lt_of_lt_of_le hstop (startOf_le _ _)
  obtain ⟨i, f, hf, hat, hle, hnext⟩ := exists_at? hlt
  refine ⟨f, ?_, hat⟩
  -- a fragment before the block ends too early, and one behind it begins too late
  have hlow : fs.length ≤ i := by
    by_contra hi
    have hle' : i + 1 ≤ fs.length := Nat.lt_of_not_le hi
    have := startOf_mono (fs ++ block ++ more) hle'
    omega
  have hhigh : i < (fs ++ block).length := by
    by_contra hi
    have := startOf_mono (fs ++ block ++ more) (Nat.not_lt.mp hi)
    omega
  rw [List.getElem?_append_left hhigh, List.getElem?_append_right hlow] at hf
  exact List.mem_of_getElem? hf

/-! ### Layout and lookup -/

/-- **Layout and lookup are inverse**, whatever the fragments, also if some have no text. Every
fragment has an offset; the offsets are strictly increasing; at its offset the layout has the text
of the fragment, and up to the next one only blanks, newlines and tabs. The lookup takes any offset
before the first fragment back to the span of that one. Every other offset is covered by exactly one
fragment, and is taken back to its span, unless it is the greatest 64-bit word. -/
theorem layout_lookup (fs : List Fragment) :
    (offsets 0 fs).length = fs.length ∧ (offsets 0 fs).Pairwise (· < ·) ∧
    (∀ (i : Nat) f start, fs[i]? = some f → (offsets 0 fs)[i]? = some start →
      (layout fs).extract start (start + f.text.length) = f.text ∧
      ∀ next : Nat, (offsets 0 fs)[i + 1]? = some next → start + f.text.length ≤ next ∧
        ∀ b ∈ (layout fs).extract (start + f.text.length) next, b = 32 ∨ b = 10 ∨ b = 9) ∧
    ∀ first : Nat, (offsets 0 fs)[0]? = some first →
      ∀ offset : Int64, offset ≠ Int64.maxValue →
        (offset.toInt < first → ∀ f, fs[0]? = some f → lookup fs offset = f.span) ∧
        (first ≤ offset.toInt → (∃! i, Covers fs offset.toInt i) ∧
          ∀ (i : Nat) f, Covers fs offset.toInt i → fs[i]? = some f →
            lookup fs offset = f.span) := by
  refine ⟨length_offsets 0 fs, pairwise_offsets 0 fs, fun i f start hf hstart => ?_,
    fun first hfirst offset hmax => ⟨fun hlt f hf => ?_, fun hle => ⟨?_, fun i f hi hf => ?_⟩⟩⟩
  · have hlayout := drop_layout_eq hf
    rw [startOf_eq hstart, List.append_assoc] at hlayout
    refine ⟨?_, fun next hnext => ?_⟩
    · rw [List.extract_eq_take_drop, hlayout, Nat.add_sub_cancel_left, List.take_left]
    · have hend := startOf_add_one hf
      rw [startOf_eq hnext, startOf_eq hstart] at hend
      refine ⟨hend ▸ Nat.le_add_right .., fun b hb => ?_⟩
      rw [List.extract_eq_take_drop, ← List.drop_drop, hlayout, List.drop_left, hend,
        Nat.add_sub_cancel_left, List.take_left] at hb
      exact isBlank_of_mem_separator hb
  · rw [lookup_eq_spanAt fs hmax, spanAt, at?_of_lt hfirst hlt, hf]
    rfl
  · exact ⟨_, covers_search hfirst hle, fun i hi => hi.unique (covers_search hfirst hle)⟩
  · rw [lookup_eq_spanAt fs hmax, spanAt, hi.at?_eq, hf]
    rfl

/-- A fragment without text stands between two blanks, and the lookup finds it there. What is behind
the last fragment belongs to that one, what is before the first one to the first. -/
theorem layout_lookup_empty :
    let fs : List Fragment := [⟨"a".utf8, ⟨0, 0, 1⟩⟩, ⟨[], ⟨0, 1, 1⟩⟩, ⟨";".utf8, ⟨0, 1, 2⟩⟩,
      ⟨"b".utf8, ⟨0, 3, 4⟩⟩]
    layout fs = "a  ;\n\tb".utf8 ∧ offsets 0 fs = [0, 2, 3, 6] ∧ Covers fs 2 1 ∧
      lookup fs 2 = ⟨0, 1, 1⟩ ∧ lookup fs (-1) = ⟨0, 0, 1⟩ ∧ lookup fs 100 = ⟨0, 3, 4⟩ := by
  intro fs
  obtain ⟨-, -, -, hlookup⟩ := layout_lookup fs
  have hsecond : Covers fs 2 1 := by
    refine ⟨⟨2, rfl, Int.le_refl 2⟩, fun next hnext => ?_⟩
    obtain rfl := Option.some.inj hnext
    decide
  have hlast : Covers fs 100 3 := ⟨⟨6, rfl, by decide⟩, nofun⟩
  exact ⟨by decide, by decide, hsecond,
    ((hlookup 0 rfl 2 (by decide)).2 (by decide)).2 1 _ hsecond rfl,
    (hlookup 0 rfl (-1) (by decide)).1 (by decide) _ rfl,
    ((hlookup 0 rfl 100 (by decide)).2 (by decide)).2 3 _ hlast rfl⟩

/-- From the greatest 64-bit word there is no next offset: the second of two fragments covers it,
but the lookup takes it back to the first one. -/
theorem layout_lookup_limit :
    let fs : List Fragment := [⟨"a".utf8, ⟨0, 0, 1⟩⟩, ⟨";".utf8, ⟨0, 1, 2⟩⟩]
    Covers fs Int64.maxValue.toInt 1 ∧ lookup fs Int64.maxValue = ⟨0, 0, 1⟩ := by
  intro fs
  exact ⟨⟨⟨2, rfl, by decide⟩, nofun⟩, by decide +kernel⟩

end Fragment

end TensorLang
