import TensorLang.Proofs.Text.Pieces
import TensorLang.Source.Path

/-!
# Elements of paths

The elements of a cleaned path are names behind as many `..` as it takes, and at the root there is
no `..` (`Path.isReduced_parts`). Written from such elements, a path has just these elements, so
cleaning twice is cleaning once (`Path.clean_clean`).

Paths that go down from where they start are written from names alone (`Path.isInner_iff`). Joined
to a path, they add their names behind its elements (`Path.join_ofParts`).
-/

namespace TensorLang.Path

/-! ### Elements -/

/-- A name that can stand between separators and means itself. -/
structure IsPlain (name : Bytes) : Prop where
  ne_nil : name ≠ []
  ne_dot : name ≠ ".".utf8
  ne_dots : name ≠ "..".utf8
  no_slash : slash ∉ name

/-- What can stand between separators of a cleaned path: a name or `..`. -/
structure IsElement (e : Bytes) : Prop where
  ne_nil : e ≠ []
  ne_dot : e ≠ ".".utf8
  no_slash : slash ∉ e

/-- Longer names have no meaning of their own. -/
theorem IsPlain.of_length {name : Bytes} (hlength : 3 ≤ name.length) (hslash : slash ∉ name) :
    IsPlain name := by
  refine ⟨?_, ?_, ?_, hslash⟩ <;> rintro rfl <;> exact absurd hlength (by decide)

theorem IsPlain.isElement {name : Bytes} (h : IsPlain name) : IsElement name :=
  ⟨h.ne_nil, h.ne_dot, h.no_slash⟩

theorem isElement_of_isPlain {names : List Bytes} (h : ∀ name ∈ names, IsPlain name) :
    ∀ e ∈ names, IsElement e := fun e he => (h e he).isElement

theorem isElement_dots : IsElement "..".utf8 := ⟨by decide, by decide, by decide⟩

theorem isElement_of_mem_elements {p e : Bytes} (h : e ∈ elements p) : IsElement e := by
  obtain ⟨hsplit, hkeep⟩ := List.mem_filter.mp h
  obtain ⟨hnil, hdot⟩ := of_decide_eq_true hkeep
  exact ⟨hnil, hdot, Bytes.not_mem_of_splitOn hsplit⟩

theorem elements_append (a b : Bytes) : elements (a ++ slash :: b) = elements a ++ elements b := by
  rw [elements, Bytes.splitOn_append_cons, List.filter_append]
  rfl

theorem ofParts_ne_nil (rooted : Bool) (es : List Bytes) : ofParts rooted es ≠ [] := by
  unfold ofParts
  cases rooted with
  | true => simp
  | false =>
    simp only [Bool.false_eq_true, if_false]
    split
    · decide
    · rename_i h
      simpa using h

section Written

variable {es : List Bytes} (h : ∀ e ∈ es, IsElement e)

include h

theorem ofParts_false (hne : es ≠ []) : ofParts false es = Bytes.joinWith [slash] es := by
  obtain ⟨e, rest, rfl⟩ := List.exists_cons_of_ne_nil hne
  have hbody : Bytes.joinWith [slash] (e :: rest) ≠ [] :=
    Bytes.joinWith_ne_nil (h e List.mem_cons_self).ne_nil rest
  rw [ofParts, if_neg Bool.false_ne_true, if_neg (by simpa using hbody)]

/-- The pieces of a relative path are the elements from which it is written. -/
theorem splitOn_ofParts (hne : es ≠ []) : Bytes.splitOn slash (ofParts false es) = es := by
  rw [ofParts_false h hne]
  exact Bytes.splitOn_joinWith hne fun e he => (h e he).no_slash

theorem isAbs_ofParts (rooted : Bool) : isAbs (ofParts rooted es) = rooted := by
  cases rooted with
  | true => rfl
  | false =>
    cases es with
    | nil => rfl
    | cons e rest =>
      -- the path begins as its first element does, and not with a separator
      obtain ⟨hnil, -, hslash⟩ := h e List.mem_cons_self
      obtain ⟨b, bs, rfl⟩ := List.exists_cons_of_ne_nil hnil
      have hb : b ≠ slash := fun hb => hslash (hb ▸ List.mem_cons_self)
      simp [ofParts, Bytes.joinWith_cons, isAbs, hb]

theorem elements_ofParts (rooted : Bool) : elements (ofParts rooted es) = es := by
  have hkeep : es.filter (fun e => e ≠ [] ∧ e ≠ ".".utf8) = es :=
    List.filter_eq_self.mpr fun e he => decide_eq_true ⟨(h e he).ne_nil, (h e he).ne_dot⟩
  rcases eq_or_ne es [] with rfl | hne
  · cases rooted <;> decide
  · cases rooted with
    | true =>
      rw [elements, ofParts, if_pos rfl, Bytes.splitOn_cons, if_pos BEq.rfl,
        Bytes.splitOn_joinWith hne fun e he => (h e he).no_slash,
        List.filter_cons_of_neg (by decide), hkeep]
    | false => rw [elements, splitOn_ofParts h hne, hkeep]

end Written

/-! ### Resolving -/

/-- Resolving goes on where it stands. -/
theorem resolve_append (rooted : Bool) (done es rest : List Bytes) :
    resolve rooted done (es ++ rest) = resolve rooted (resolve rooted done es).reverse rest := by
  induction es generalizing done with
  | nil => rw [List.nil_append, resolve, List.reverse_reverse]
  | cons e es ih =>
    cases done <;> simp only [List.cons_append, resolve, ih] <;> split_ifs <;> rfl

/-- Names are kept. -/
theorem resolve_names {names : List Bytes} (h : ∀ name ∈ names, IsPlain name) (rooted : Bool)
    (done : List Bytes) : resolve rooted done names = done.reverse ++ names := by
  induction names generalizing done with
  | nil => rw [resolve, List.append_nil]
  | cons name names ih =>
    obtain ⟨hname, hnames⟩ := List.forall_mem_cons.mp h
    cases done <;> simp [resolve, hname.ne_dots, ih hnames]

/-- What leads upwards is kept in a relative path. -/
theorem resolve_ups (n k : Nat) :
    resolve false (List.replicate k "..".utf8) (List.replicate n "..".utf8) =
      List.replicate (k + n) "..".utf8 := by
  induction n generalizing k with
  | zero => rw [List.replicate_zero, resolve, List.reverse_replicate, Nat.add_zero]
  | succ n ih =>
    have hstep : resolve false (List.replicate k "..".utf8)
        ("..".utf8 :: List.replicate n "..".utf8) =
        resolve false (List.replicate (k + 1) "..".utf8) (List.replicate n "..".utf8) := by
      cases k <;> simp [resolve, List.replicate_succ]
    rw [List.replicate_succ, hstep, ih, Nat.add_right_comm, Nat.add_assoc]

/-! ### Reduced elements -/

/-- Names behind as many `..` as it takes; behind the root it takes none. -/
def IsReduced (rooted : Bool) (es : List Bytes) : Prop :=
  ∃ (ups : Nat) (names : List Bytes), es = List.replicate ups "..".utf8 ++ names ∧
    (rooted = true → ups = 0) ∧ ∀ name ∈ names, IsPlain name

theorem isReduced_of_isPlain {names : List Bytes} (h : ∀ name ∈ names, IsPlain name)
    (rooted : Bool) : IsReduced rooted names :=
  ⟨0, names, rfl, fun _ => rfl, h⟩

section Reduced

variable {rooted : Bool} {es : List Bytes}

theorem IsReduced.isElement (h : IsReduced rooted es) {e : Bytes} (he : e ∈ es) : IsElement e := by
  obtain ⟨ups, names, rfl, -, hnames⟩ := h
  rcases List.mem_append.mp he with he | he
  · rw [List.eq_of_mem_replicate he]
    exact isElement_dots
  · exact (hnames e he).isElement

/-- At the root there are names only. -/
theorem IsReduced.isPlain (h : IsReduced true es) {e : Bytes} (he : e ∈ es) : IsPlain e := by
  obtain ⟨ups, names, rfl, hroot, hnames⟩ := h
  rw [hroot rfl] at he
  exact hnames e he

/-- Without `..` at their beginning there are names only. -/
theorem IsReduced.isPlain_of_head (h : IsReduced rooted es) (hhead : es.head? ≠ some "..".utf8)
    {e : Bytes} (he : e ∈ es) : IsPlain e := by
  obtain ⟨ups, names, rfl, -, hnames⟩ := h
  cases ups with
  | zero => exact hnames e he
  | succ ups => exact absurd rfl hhead

theorem IsReduced.resolve_eq (h : IsReduced rooted es) : resolve rooted [] es = es := by
  obtain ⟨ups, names, rfl, hroot, hnames⟩ := h
  have hups : resolve rooted [] (List.replicate ups "..".utf8) = List.replicate ups "..".utf8 := by
    cases rooted with
    | true =>
      rw [hroot rfl]
      rfl
    | false => rw [← List.replicate_zero, resolve_ups, Nat.zero_add]
  rw [resolve_append, hups, resolve_names hnames, List.reverse_reverse]

/-- Names may follow. -/
theorem IsReduced.append (h : IsReduced rooted es) {names : List Bytes}
    (hnames : ∀ name ∈ names, IsPlain name) : IsReduced rooted (es ++ names) := by
  obtain ⟨ups, before, rfl, hroot, hbefore⟩ := h
  exact ⟨ups, before ++ names, List.append_assoc .., hroot,
    List.forall_mem_append.mpr ⟨hbefore, hnames⟩⟩

/-- What stands last is reduced by itself, and so it is behind more `..`. -/
theorem IsReduced.of_append {before : List Bytes} (h : IsReduced rooted (before ++ es)) (n : Nat) :
    IsReduced false (List.replicate n "..".utf8 ++ es) := by
  obtain ⟨ups, names, heq, -, hnames⟩ := h
  have hes : es = List.replicate (ups - before.length) "..".utf8 ++
      names.drop (before.length - ups) := by
    have hdrop := congrArg (List.drop before.length) heq
    rwa [List.drop_left, List.drop_append, List.drop_replicate, List.length_replicate] at hdrop
  refine ⟨n + (ups - before.length), names.drop (before.length - ups), ?_, nofun,
    fun name hname => hnames name (List.mem_of_mem_drop hname)⟩
  rw [← List.replicate_append_replicate, List.append_assoc, ← hes]

/-- Behind a name, `..` takes it away. -/
theorem IsReduced.of_concat {last : Bytes} (h : IsReduced rooted (es ++ [last]))
    (hlast : last ≠ "..".utf8) : IsReduced rooted es := by
  obtain ⟨ups, names, heq, hroot, hnames⟩ := h
  rcases List.eq_nil_or_concat names with rfl | ⟨names, name, rfl⟩
  · -- there is no name, so the last element is `..`
    have hmem : last ∈ List.replicate ups "..".utf8 ++ [] := heq ▸ by simp
    rw [List.append_nil] at hmem
    exact absurd (List.eq_of_mem_replicate hmem) hlast
  · rw [List.concat_eq_append, ← List.append_assoc] at heq
    rw [List.concat_eq_append, List.forall_mem_append] at hnames
    exact ⟨ups, names, (List.append_inj' heq rfl).1, hroot, hnames.1⟩

/-- Behind `..` alone, `..` leads on upwards. -/
theorem IsReduced.up (h : IsReduced rooted (es ++ ["..".utf8])) :
    IsReduced rooted (es ++ ["..".utf8] ++ ["..".utf8]) := by
  obtain ⟨ups, names, heq, hroot, hnames⟩ := h
  rcases List.eq_nil_or_concat names with rfl | ⟨names, name, rfl⟩
  · refine ⟨ups + 1, [], ?_, fun hrooted => ?_, nofun⟩
    · rw [heq, List.append_nil, List.append_nil, List.replicate_succ']
    · -- at the root there is no `..` that could stand last
      rw [hroot hrooted] at heq
      exact absurd heq (List.append_ne_nil_of_right_ne_nil es (List.cons_ne_nil _ _))
  · -- the last element is no name
    rw [List.concat_eq_append, ← List.append_assoc] at heq
    have hname := hnames name (by simp)
    exact absurd (List.singleton_inj.mp (List.append_inj' heq rfl).2).symm hname.ne_dots

/-- **Resolving keeps elements reduced.** -/
theorem IsReduced.resolve {done : List Bytes} (h : IsReduced rooted done.reverse)
    (hes : ∀ e ∈ es, IsElement e) : IsReduced rooted (resolve rooted done es) := by
  fun_induction Path.resolve rooted done es with
  | case1 => exact h
  | case2 rest before ih =>
    -- upwards behind `..`
    refine ih ?_ (List.forall_mem_cons.mp hes).2
    rw [List.reverse_cons] at h
    rw [List.reverse_cons, List.reverse_cons]
    exact h.up
  | case3 rest last before hlast ih =>
    -- upwards behind a name
    rw [List.reverse_cons] at h
    exact ih (h.of_concat hlast) (List.forall_mem_cons.mp hes).2
  | case4 rest hrooted ih => exact ih h (List.forall_mem_cons.mp hes).2
  | case5 rest hrooted ih =>
    exact ih ⟨1, [], rfl, fun h => absurd h hrooted, nofun⟩ (List.forall_mem_cons.mp hes).2
  | case6 done e rest hdots ih =>
    obtain ⟨he, hrest⟩ := List.forall_mem_cons.mp hes
    refine ih ?_ hrest
    rw [List.reverse_cons]
    exact h.append (List.forall_mem_singleton.mpr ⟨he.ne_nil, he.ne_dot, hdots, he.no_slash⟩)

theorem IsReduced.parts_ofParts (h : IsReduced rooted es) : parts (ofParts rooted es) = es := by
  have hes : ∀ e ∈ es, IsElement e := fun _ => h.isElement
  rw [parts, isAbs_ofParts hes, elements_ofParts hes, h.resolve_eq]

theorem IsReduced.clean_ofParts (h : IsReduced rooted es) :
    clean (ofParts rooted es) = ofParts rooted es := by
  rw [clean, isAbs_ofParts fun _ => h.isElement, h.parts_ofParts]

end Reduced

/-! ### Cleaning -/

/-- **The elements of a path are reduced.** -/
theorem isReduced_parts (p : Bytes) : IsReduced (isAbs p) (parts p) :=
  IsReduced.resolve (isReduced_of_isPlain (List.forall_mem_nil _) _) fun _ =>
    isElement_of_mem_elements

theorem isAbs_clean (p : Bytes) : isAbs (clean p) = isAbs p :=
  isAbs_ofParts (fun _ => (isReduced_parts p).isElement) (isAbs p)

theorem parts_clean (p : Bytes) : parts (clean p) = parts p := (isReduced_parts p).parts_ofParts

/-- Cleaning twice is cleaning once. -/
theorem clean_clean (p : Bytes) : clean (clean p) = clean p := (isReduced_parts p).clean_ofParts

/-! ### Going down -/

/-- A clean path that goes down from where it starts: not from the root, and never upwards. -/
structure IsInner (q : Bytes) : Prop where
  clean_eq : clean q = q
  relative : isAbs q = false
  no_dots : "..".utf8 ∉ Bytes.splitOn slash q

/-- Such a path is written from names. -/
theorem isInner_iff {q : Bytes} :
    IsInner q ↔ ∃ names, (∀ name ∈ names, IsPlain name) ∧ q = ofParts false names := by
  constructor
  · rintro ⟨hclean, hrel, hdots⟩
    have hred := isReduced_parts q
    rw [clean, hrel] at hclean
    rw [hrel] at hred
    refine ⟨parts q, fun name => hred.isPlain_of_head ?_, hclean.symm⟩
    intro hhead
    -- an element `..` would be a piece of the path
    have hmem : "..".utf8 ∈ parts q := List.mem_of_head? hhead
    rw [← hclean, splitOn_ofParts (fun _ => hred.isElement) (List.ne_nil_of_mem hmem)] at hdots
    exact hdots hmem
  · rintro ⟨names, hnames, rfl⟩
    have hes := isElement_of_isPlain hnames
    refine ⟨(isReduced_of_isPlain hnames false).clean_ofParts, isAbs_ofParts hes false, ?_⟩
    rcases eq_or_ne names [] with rfl | hne
    · decide
    · rw [splitOn_ofParts hes hne]
      exact fun hmem => (hnames _ hmem).ne_dots rfl

/-- Two paths are joined by a separator. -/
theorem join_pair {p q : Bytes} (hp : p ≠ []) (hq : q ≠ []) :
    join [p, q] = clean (p ++ slash :: q) := by
  have hfilter : [p, q].filter (· ≠ []) = [p, q] := by
    rw [List.filter_eq_self]
    intro e he
    rcases List.mem_cons.mp he with rfl | he
    · exact decide_eq_true hp
    · rw [List.mem_singleton.mp he]
      exact decide_eq_true hq
  rw [join, hfilter]
  simp only [Bytes.joinWith_cons, List.flatMap_singleton, List.singleton_append]

/-- **Names that are joined to a path stand behind its elements.** -/
theorem join_ofParts (p : Bytes) {names : List Bytes} (h : ∀ name ∈ names, IsPlain name) :
    join [p, ofParts false names] = ofParts (isAbs p) (parts p ++ names) := by
  have hes := isElement_of_isPlain h
  cases p with
  | nil =>
    -- an empty path is left out
    have hjoin : join [[], ofParts false names] = clean (ofParts false names) := by
      simp [join, ofParts_ne_nil, Bytes.joinWith]
    rw [hjoin, (isReduced_of_isPlain h false).clean_ofParts]
    rfl
  | cons b p =>
    have habs : isAbs (b :: p ++ slash :: ofParts false names) = isAbs (b :: p) := rfl
    rw [join_pair (List.cons_ne_nil b p) (ofParts_ne_nil false names), clean, habs, parts, habs,
      elements_append, elements_ofParts hes, resolve_append, resolve_names h,
      List.reverse_reverse, parts]

/-- A name that is joined to a path becomes its last element. -/
theorem join_name (p : Bytes) {name : Bytes} (h : IsPlain name) :
    join [p, name] = ofParts (isAbs p) (parts p ++ [name]) := by
  have hname : ∀ e ∈ [name], IsPlain e := List.forall_mem_singleton.mpr h
  rw [← join_ofParts p hname, ofParts_false (isElement_of_isPlain hname) (by simp)]
  rfl

end TensorLang.Path
