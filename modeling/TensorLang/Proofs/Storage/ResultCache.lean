import TensorLang.Proofs.Storage.Tree
import TensorLang.Proofs.Text.Decimal
import TensorLang.Storage.ResultCache

/-!
# Entries of the cache

Each key has a place of its own in the tree (`ResultCache.place_injective`). What is read for a key
is the file at its place, storing changes that place alone, and clearing brings no file into being.
-/

namespace TensorLang

namespace Hex

/-! ### Hexadecimal digits -/

theorem slash_ne_digit {d : Nat} (h : d < 16) : Path.slash ≠ digit d := by
  revert d
  decide

theorem ofBytes_cons (b : UInt8) (bs : Bytes) :
    ofBytes (b :: bs) = digit (b.toNat / 16) :: digit (b.toNat % 16) :: ofBytes bs := by
  have hb : b.toNat / 16 % 16 = b.toNat / 16 := by
    have := b.toNat_lt
    omega
  simp [ofBytes, fixed, hb]

theorem toBytes?_ofBytes (bs : Bytes) : toBytes? (ofBytes bs) = some bs := by
  induction bs with
  | nil => rfl
  | cons b bs ih =>
    have hb := b.toNat_lt
    have hdigits : UInt8.ofNat (16 * (b.toNat / 16) + b.toNat % 16) = b := by
      rw [Nat.div_add_mod, UInt8.ofNat_toNat]
    rw [ofBytes_cons, toBytes?, digitValue?_digit (by omega), digitValue?_digit (by omega), ih]
    exact congrArg (fun digit => some (digit :: bs)) hdigits

theorem ofBytes_injective : Function.Injective ofBytes := by
  intro as bs h
  have hsome : some as = some bs := by rw [← toBytes?_ofBytes, h, toBytes?_ofBytes]
  exact Option.some.inj hsome

theorem slash_not_mem_ofBytes (bs : Bytes) : Path.slash ∉ ofBytes bs := by
  induction bs with
  | nil => exact List.not_mem_nil
  | cons b bs ih =>
    have hb := b.toNat_lt
    rw [ofBytes_cons, List.mem_cons, List.mem_cons]
    rintro (h | h | h)
    · exact slash_ne_digit (by omega) h
    · exact slash_ne_digit (by omega) h
    · exact ih h

end Hex

namespace Storage.ResultCache

/-! ### The place of a key -/

/-- The file name for a key. -/
def name (key : Bytes) : Bytes := Hex.ofBytes key ++ ending

theorem isPlain_name (key : Bytes) : Path.IsPlain (name key) := by
  refine Path.IsPlain.of_length ?_ ?_
  · rw [name, List.length_append]
    exact Nat.le_add_left _ _
  · rw [name, List.mem_append, not_or]
    exact ⟨Hex.slash_not_mem_ofBytes key, by decide⟩

/-- The place of the entry for a key, seen from the working directory `cwd`. -/
def place (c : ResultCache) (cwd : Place) (key : Bytes) : Place :=
  Tree.walk (if Path.isAbs c.runs then [] else cwd) (Path.parts c.runs) ++ [name key]

/-- Different keys have different places. -/
theorem place_injective (c : ResultCache) (cwd : Place) : Function.Injective (c.place cwd) := by
  intro key key' h
  have hname : name key = name key' := List.singleton_inj.mp (List.append_cancel_left h)
  exact Hex.ofBytes_injective (List.append_cancel_right hname)

theorem locate_entryPath_eq (c : ResultCache) (t : Tree) (key : Bytes) :
    t.locate (c.entryPath key) =
      t.follow (if Path.isAbs c.runs then [] else t.cwd) (Path.parts c.runs ++ [name key]) := by
  have hname : Path.IsPlain (name key) := isPlain_name key
  have hpath : c.entryPath key = Path.join [c.runs, name key] := rfl
  have hred := (Path.isReduced_parts c.runs).append (List.forall_mem_singleton.mpr hname)
  rw [hpath, Path.join_name c.runs hname]
  exact Tree.locate_ofParts t _ (by simp) fun _ => hred.isElement

/-- The path of an entry leads to its place, if it leads anywhere. -/
theorem locate_entryPath {c : ResultCache} {t : Tree} {key : Bytes} {p : Place} {n : Option Node}
    (h : t.locate (c.entryPath key) = .ok (p, n)) : p = c.place t.cwd key ∧ n = t.node? p := by
  rw [locate_entryPath_eq] at h
  exact Tree.follow_concat (isPlain_name key) h

/-! ### Operations -/

/-- What is read for a key is the file at its place. -/
theorem node?_of_get? {c : ResultCache} {t : Tree} {key content : Bytes}
    (h : c.get? t key = some content) : t.node? (c.place t.cwd key) = some (.file content) := by
  unfold get? Tree.read at h
  split at h
  · rename_i p content' hlocate
    obtain ⟨rfl, hnode⟩ := locate_entryPath hlocate
    cases h
    exact hnode.symm
  all_goals cases h

/-- Storing puts a file at the place of the key, or fails and changes nothing. -/
theorem put_cases (c : ResultCache) (t : Tree) (key content : Bytes) :
    c.put t key content = t ∨ c.put t key content = t.put (c.place t.cwd key) (.file content) := by
  unfold put Tree.write
  split
  · exact .inl rfl
  · rename_i p n _ hlocate
    obtain ⟨rfl, -⟩ := locate_entryPath hlocate
    exact .inr rfl
  · exact .inl rfl

/-- Clearing makes no file and stays in the working directory. -/
theorem clear_spec {c : ResultCache} {t t' : Tree} {count : Nat} (h : c.clear t = .ok (t', count)) :
    t'.cwd = t.cwd ∧ ∀ q content, t'.node? q = some (.file content) →
      t.node? q = some (.file content) := by
  unfold clear at h
  cases hmake : (t.remove c.runs).makeDir c.runs with
  | error f =>
    rw [hmake] at h
    cases h
  | ok made =>
    rw [hmake] at h
    cases h
    obtain ⟨hcwd, hfile⟩ := Tree.makeDir_spec hmake
    refine ⟨hcwd.trans (Tree.cwd_remove t c.runs), fun q content hq => ?_⟩
    exact Tree.node?_of_remove (hfile q content hq)

end Storage.ResultCache

end TensorLang
