import TensorLang.Proofs.Results
import TensorLang.Proofs.Source.Path
import TensorLang.Storage.Tree

/-!
# What operations do to a file tree

The place that a path leads to does not depend on what is in the tree (`Tree.walk`), so what the
operations do is said place by place: writing changes one place, and making or removing directories
brings no file into being.
-/

namespace TensorLang.Storage.Tree

/-! ### Nodes -/

/-- Entries are left out by their places. -/
private theorem lookup_filter (keep : Place → Bool) (entries : List (Place × Node)) (q : Place) :
    (entries.filter fun e => keep e.1).lookup q = if keep q then entries.lookup q else none := by
  induction entries with
  | nil => simp
  | cons e entries ih =>
    obtain ⟨p, n⟩ := e
    rw [List.filter_cons, List.lookup_cons]
    rcases eq_or_ne q p with rfl | hne
    · cases hkeep : keep q <;> simp [hkeep, ih]
    · have hne' : (q == p) = false := beq_eq_false_iff_ne.mpr hne
      cases keep p <;> simp [List.lookup_cons, hne', ih]

/-- A file is not at the root. -/
theorem ne_nil_of_file {t : Tree} {q : Place} {content : Bytes}
    (h : t.node? q = some (.file content)) : q ≠ [] := by
  rintro rfl
  cases h

theorem node?_put (t : Tree) (p : Place) (n : Node) {q : Place} (hq : q ≠ []) :
    (t.put p n).node? q = if q = p then some n else t.node? q := by
  have hempty : q.isEmpty = false := List.isEmpty_eq_false_iff.mpr hq
  rw [node?, node?, hempty, put]
  rcases eq_or_ne q p with rfl | hne
  · simp
  · have hother : (q == p) = false := beq_eq_false_iff_ne.mpr hne
    have hkeep : (q != p) = true := by rw [bne, hother]; rfl
    simp only [List.lookup_cons, hother, lookup_filter (· != p), hkeep, if_true, if_neg hne]

theorem node?_of_remove {t : Tree} {path : Bytes} {q : Place} {n : Node}
    (h : (t.remove path).node? q = some n) : t.node? q = some n := by
  unfold remove at h
  split at h
  · rename_i place _ _
    unfold node? at h ⊢
    simp only [lookup_filter fun e => !place.isPrefixOf e] at h
    split_ifs at h ⊢ <;> exact h
  · exact h

theorem cwd_remove (t : Tree) (path : Bytes) : (t.remove path).cwd = t.cwd := by
  unfold remove
  split <;> rfl

/-! ### Following a path -/

/-- The place to which the names of a path lead from the directory `here`. -/
def walk (here : Place) : List Bytes → Place
  | [] => here
  | name :: rest =>
    if name.isEmpty || name == ".".utf8 then walk here rest
    else if name == "..".utf8 then walk here.dropLast rest
    else walk (here ++ [name]) rest

/-- A name leads to what has that name. -/
theorem follow_name (t : Tree) {name : Bytes} (hname : Path.IsPlain name) (here : Place) :
    t.follow here [name] = .ok (here ++ [name], t.node? (here ++ [name])) := by
  have hskip : (name.isEmpty || name == ".".utf8) = false := by
    rw [Bool.or_eq_false_iff, List.isEmpty_eq_false_iff, beq_eq_false_iff_ne]
    exact ⟨hname.ne_nil, hname.ne_dot⟩
  have hup : (name == "..".utf8) = false := beq_eq_false_iff_ne.mpr hname.ne_dots
  simp only [follow, hskip, hup, Bool.false_eq_true, if_false]

/-- A path whose last element is a name leads to what has that name. -/
theorem follow_concat {t : Tree} {name : Bytes} (hname : Path.IsPlain name) {es : List Bytes}
    {here p : Place} {n : Option Node} (h : t.follow here (es ++ [name]) = .ok (p, n)) :
    p = walk here es ++ [name] ∧ n = t.node? p := by
  induction es generalizing here with
  | nil =>
    rw [List.nil_append, follow_name t hname] at h
    cases h
    exact ⟨rfl, rfl⟩
  | cons e es ih =>
    rw [walk]
    rw [List.cons_append, follow.eq_def] at h
    simp only at h
    split at h
    · rename_i hskip
      rw [if_pos hskip]
      exact ih h
    · rename_i hskip
      rw [if_neg hskip]
      split at h
      · rename_i hup
        rw [if_pos hup]
        exact ih h
      · rename_i hup
        rw [if_neg hup]
        split at h
        · rename_i hnil
          exact absurd hnil (by simp)
        · exact ih h
        · cases h
        · cases h

/-- A path that is written from its elements is followed along them. -/
theorem locate_ofParts (t : Tree) (rooted : Bool) {es : List Bytes} (hne : es ≠ [])
    (h : ∀ e ∈ es, Path.IsElement e) :
    t.locate (Path.ofParts rooted es) = t.follow (if rooted then [] else t.cwd) es := by
  have hempty : (Path.ofParts rooted es).isEmpty = false :=
    List.isEmpty_eq_false_iff.mpr (Path.ofParts_ne_nil rooted es)
  rw [locate, hempty, Path.isAbs_ofParts h]
  cases rooted with
  | true =>
    -- what is before the first separator is empty and leads nowhere
    have hcut : Bytes.splitOn Path.slash (Path.ofParts true es) = [] :: es := by
      rw [Path.ofParts, if_pos rfl, Bytes.splitOn_cons, if_pos BEq.rfl,
        Bytes.splitOn_joinWith hne fun e he => (h e he).no_slash]
    rw [hcut, if_neg (by decide), follow.eq_def]
    rfl
  | false =>
    rw [Path.splitOn_ofParts h hne]
    rfl

/-! ### Making directories -/

/-- One directory of `makeDir`. -/
private theorem step_makeDir {t t' : Tree} {path : Bytes}
    (h : (match t.locate path with
      | .ok (_, some .dir) => .ok t
      | .ok (_, some (.file _)) => .error ⟨"mkdir", path, .notADirectory⟩
      | .ok (place, none) => .ok (t.put place .dir)
      | .error fault => .error ⟨"mkdir", path, fault⟩ : Except Failure Tree) = .ok t') :
    t'.cwd = t.cwd ∧ ∀ q content, t'.node? q = some (.file content) →
      t.node? q = some (.file content) := by
  split at h
  · cases h
    exact ⟨rfl, fun _ _ hq => hq⟩
  · cases h
  · rename_i place _
    cases h
    refine ⟨rfl, fun q content hq => ?_⟩
    rw [node?_put t place .dir (ne_nil_of_file hq)] at hq
    split at hq
    · cases hq
    · exact hq
  · cases h

/-- Making directories makes no file and stays in the working directory. -/
theorem makeDir_spec {t t' : Tree} {path : Bytes} (h : t.makeDir path = .ok t') :
    t'.cwd = t.cwd ∧ ∀ q content, t'.node? q = some (.file content) →
      t.node? q = some (.file content) := by
  unfold makeDir at h
  generalize beginnings path = paths at h
  induction paths generalizing t with
  | nil =>
    cases h
    exact ⟨rfl, fun _ _ hq => hq⟩
  | cons p paths ih =>
    rw [List.foldlM_cons] at h
    obtain ⟨t₁, hfirst, hrest⟩ := Except.bind_eq_ok.mp h
    obtain ⟨hcwd, hfile⟩ := step_makeDir hfirst
    obtain ⟨hcwd', hfile'⟩ := ih hrest
    exact ⟨hcwd'.trans hcwd, fun q content hq => hfile q content (hfile' q content hq)⟩

end TensorLang.Storage.Tree
