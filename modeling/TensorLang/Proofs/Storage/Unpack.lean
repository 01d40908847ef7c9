import Mathlib.Tactic.Common
import TensorLang.Storage.Unpack

/-!
# Reading what was packed

`Unpack.Reads r bytes x` says that `r` takes exactly these bytes, whatever follows them, and answers
`x`. There is one lemma for each kind of value; records (`Reads.record`) and lists (`Reads.slots`)
are read if their parts are.
-/

namespace TensorLang.Storage

namespace Pack

/-! ### Numbers and lengths -/

theorem length_bigEndian (size n : Nat) : (bigEndian size n).length = size := by
  induction size generalizing n with
  | zero => rfl
  | succ size ih => rw [bigEndian, List.length_cons, ih]

/-- With `acc` read before, the digits of `n` are added below those of `acc`. -/
theorem foldl_bigEndian {size n : Nat} (h : n < Nat.pow 256 size) (acc : Nat) :
    (bigEndian size n).foldl (fun n b => n * 256 + b.toNat) acc = acc * Nat.pow 256 size + n := by
  induction size generalizing n acc with
  | zero =>
    obtain rfl : n = 0 := Nat.lt_one_iff.mp h
    simp [bigEndian]
  | succ size ih =>
    have hpos : 0 < Nat.pow 256 size := Nat.pow_pos (by decide)
    have hdigit : n / Nat.pow 256 size < 256 := by
      rw [Nat.div_lt_iff_lt_mul hpos, Nat.mul_comm]
      exact h
    have hbyte : (UInt8.ofNat (n / Nat.pow 256 size)).toNat = n / Nat.pow 256 size :=
      UInt8.toNat_ofNat_of_lt hdigit
    rw [bigEndian, List.foldl_cons, ih (Nat.mod_lt n hpos), hbyte]
    calc (acc * 256 + n / Nat.pow 256 size) * Nat.pow 256 size + n % Nat.pow 256 size
        = acc * (Nat.pow 256 size * 256) +
            (Nat.pow 256 size * (n / Nat.pow 256 size) + n % Nat.pow 256 size) := by
          rw [Nat.add_mul, Nat.add_assoc, Nat.mul_assoc, Nat.mul_comm 256, Nat.mul_comm (n / _)]
      _ = acc * Nat.pow 256 (size + 1) + n := by rw [Nat.div_add_mod]; rfl

theorem ofBigEndian_bigEndian {size n : Nat} (h : n < Nat.pow 256 size) :
    ofBigEndian (bigEndian size n) = n := by
  rw [ofBigEndian, foldl_bigEndian h, Nat.zero_mul, Nat.zero_add]

variable {n : Nat} {P : UInt8 → Bytes → Prop}

theorem headWide_cases {wide : List (Nat × Nat)}
    (hwide : ∀ m ∈ wide, n < Nat.pow 256 m.2 → P (UInt8.ofNat m.1) (bigEndian m.2 n))
    (hfits : ∃ m ∈ wide, n < Nat.pow 256 m.2) :
    ∃ b tail, head.headWide n wide = b :: tail ∧ P b tail := by
  induction wide with
  | nil =>
    obtain ⟨m, hm, -⟩ := hfits
    cases hm
  | cons m wide ih =>
    obtain ⟨mark, size⟩ := m
    rw [head.headWide]
    split_ifs with hn
    · exact ⟨_, _, rfl, hwide _ List.mem_cons_self hn⟩
    · refine ih (fun m hm => hwide m (List.mem_cons_of_mem _ hm)) ?_
      obtain ⟨m, hm, hlt⟩ := hfits
      rcases List.mem_cons.mp hm with rfl | hm
      · exact absurd hlt hn
      · exact ⟨m, hm, hlt⟩

/-- A head is one byte for the kind and then the length, in one of the ways it can be written. -/
theorem head_cases {short : Option (Nat × Nat)} {wide : List (Nat × Nat)}
    (hshort : ∀ base limit, short = some (base, limit) → n < limit → P (UInt8.ofNat (base + n)) [])
    (hwide : ∀ m ∈ wide, n < Nat.pow 256 m.2 → P (UInt8.ofNat m.1) (bigEndian m.2 n))
    (hfits : ∃ m ∈ wide, n < Nat.pow 256 m.2) :
    ∃ b tail, head short wide n = b :: tail ∧ P b tail := by
  unfold head
  split
  · split_ifs with hn
    · exact ⟨_, _, rfl, hshort _ _ rfl hn⟩
    · exact headWide_cases hwide hfits
  · exact headWide_cases hwide hfits

end Pack

namespace Unpack

/-! ### Readers -/

/-- The reader takes exactly these bytes and answers `x`. -/
def Reads {α : Type} (r : Unpack α) (bytes : Bytes) (x : α) : Prop :=
  ∀ rest, r.run (bytes ++ rest) = some (x, rest)

variable {α β : Type}

namespace Reads

theorem pure (x : α) : Reads (Pure.pure x) [] x := fun _ => rfl

theorem bind {r : Unpack α} {f : α → Unpack β} {bytes bytes' : Bytes} {x : α} {y : β}
    (hr : Reads r bytes x) (hf : Reads (f x) bytes' y) : Reads (r >>= f) (bytes ++ bytes') y := by
  intro rest
  rw [StateT.run_bind, List.append_assoc, hr]
  exact hf rest

theorem map {r : Unpack α} {bytes : Bytes} {x : α} (f : α → β) (hr : Reads r bytes x) :
    Reads (do return f (← r)) bytes (f x) := by
  have h : Reads (r >>= fun a => Pure.pure (f a)) (bytes ++ []) (f x) := hr.bind (Reads.pure (f x))
  rwa [List.append_nil] at h

/-- The first byte tells the kind, which decides how the others are read. -/
theorem kind_bind {f : Nat → Unpack β} {b : UInt8} {bytes : Bytes} {y : β}
    (hf : Reads (f b.toNat) bytes y) : Reads (kind >>= f) (b :: bytes) y := fun rest => hf rest

theorem bytes (s : Bytes) : Reads (bytes s.length) s s := by
  intro rest
  have hlength : ¬ (s ++ rest).length < s.length := by simp
  show (if (s ++ rest).length < s.length then none
    else some ((s ++ rest).take s.length, (s ++ rest).drop s.length)) = some (s, rest)
  rw [if_neg hlength, List.take_left, List.drop_left]

theorem number {size n : Nat} (h : n < Nat.pow 256 size) :
    Reads (number size) (Pack.bigEndian size n) n := by
  have hr := Reads.bytes (Pack.bigEndian size n)
  rw [Pack.length_bigEndian] at hr
  have hnumber := hr.map Pack.ofBigEndian
  rwa [Pack.ofBigEndian_bigEndian h] at hnumber

/-! ### Single values -/

theorem word {size n : Nat} (hsize : size = 1 ∨ size = 2 ∨ size = 4) (h : n < Nat.pow 256 size) :
    Reads (word size) (Pack.encode (.word size n)) n := by
  have hcut : n % Nat.pow 256 size = n := Nat.mod_eq_of_lt h
  have hread := (Reads.number h).map (· % Nat.pow 256 size)
  rw [hcut] at hread
  rw [Pack.encode]
  rcases hsize with rfl | rfl | rfl <;> exact kind_bind hread

end Reads

/-- The bytes are one for the kind, which is not nothing, and those of the length it announces. -/
def Announces (length : Nat → Unpack Nat) (bytes : Bytes) (n : Nat) : Prop :=
  ∃ b tail, bytes = b :: tail ∧ isNil b.toNat = false ∧ Reads (length b.toNat) tail n

namespace Announces

/-- Lengths are read as they are written if each kind that is written has its number of bytes. -/
theorem head {short : Option (Nat × Nat)} {base limit n : Nat} {wide written : List (Nat × Nat)}
    (hshort : short = none ∨ short = some (base, limit + 1)) (hbase : base + limit < 0xC0)
    (hwritten : ∀ m ∈ written, base + limit < m.1 ∧ m.1 < UInt8.size ∧ isNil m.1 = false ∧
      wide.lookup m.1 = some m.2)
    (hfits : ∃ m ∈ written, n < Nat.pow 256 m.2) :
    Announces (Unpack.length base limit wide) (Pack.head short written n) n := by
  refine Pack.head_cases ?_ ?_ hfits
  · intro base' limit' hsome hn
    rcases hshort with rfl | rfl <;> cases hsome
    have hbyte : base + n < UInt8.size := Nat.lt_trans (by omega) (by decide : 0xC0 < UInt8.size)
    have hb : (UInt8.ofNat (base + n)).toNat = base + n := UInt8.toNat_ofNat_of_lt hbyte
    have hlength : Unpack.length base limit wide (base + n) = pure n := by
      simp [Unpack.length, show n ≤ limit by omega]
    rw [hb, hlength]
    exact ⟨beq_eq_false_iff_ne.mpr (by omega), Reads.pure n⟩
  · rintro ⟨mark, size⟩ hm hn
    obtain ⟨hmark, hbyte, hnil, hlookup⟩ := hwritten _ hm
    have hb : (UInt8.ofNat mark).toNat = mark := UInt8.toNat_ofNat_of_lt hbyte
    have hlength : Unpack.length base limit wide mark = Unpack.number size := by
      simp [Unpack.length, hlookup, show ¬ mark ≤ base + limit by omega]
    rw [hb, hlength]
    exact ⟨hnil, Reads.number hn⟩

theorem text {n : Nat} (h : n < UInt32.size) :
    Announces textLength (Pack.head (some (0xA0, 32)) [(0xD9, 1), (0xDA, 2), (0xDB, 4)] n) n :=
  head (.inr rfl) (by decide) (by decide) ⟨(0xDB, 4), by decide, h⟩

theorem binary {n : Nat} (h : n < UInt32.size) :
    Announces textLength (Pack.head none [(0xC4, 1), (0xC5, 2), (0xC6, 4)] n) n :=
  head (.inl rfl) (by decide) (by decide) ⟨(0xC6, 4), by decide, h⟩

theorem array {n : Nat} (h : n < UInt32.size) :
    Announces arrayLength (Pack.head (some (0x90, 16)) [(0xDC, 2), (0xDD, 4)] n) n :=
  head (.inr rfl) (by decide) (by decide) ⟨(0xDD, 4), by decide, h⟩

end Announces

namespace Reads

/-- What has a length is read by its length, unless it is nothing. -/
theorem of_announces {length : Nat → Unpack Nat} {bytes bytes' : Bytes} {n : Nat} {y : α}
    {nothing : Unpack α} {f : Nat → Unpack α} (h : Announces length bytes n)
    (hf : Reads (f n) bytes' y) :
    Reads (do
      let k ← kind
      if isNil k then nothing else length k >>= f) (bytes ++ bytes') y := by
  obtain ⟨b, tail, rfl, hnil, hlength⟩ := h
  refine kind_bind ?_
  rw [hnil]
  exact hlength.bind hf

theorem text {s : Bytes} (h : s.length < UInt32.size) : Reads text (Pack.encode (.text s)) s := by
  rw [Pack.encode]
  have hbinary : Reads Unpack.binary _ (some s) :=
    of_announces (Announces.text h) ((Reads.bytes s).map some)
  exact hbinary.map (·.getD [])

theorem binary {s : Bytes} (h : s.length < UInt32.size) :
    Reads binary (Pack.encode (.binary s)) (some s) := by
  rw [Pack.encode]
  exact of_announces (Announces.binary h) ((Reads.bytes s).map some)

theorem binary_nil : Reads Unpack.binary (Pack.encode .nil) none := fun _ => rfl

/-- A byte string of the full length replaces the old one. -/
theorem overlay {old s : Bytes} (hlength : s.length = old.length) (h : s.length < UInt32.size) :
    Reads (overlay old) (Pack.encode (.binary s)) s := by
  rw [Pack.encode]
  refine of_announces (Announces.binary h) ?_
  have hover := (Reads.bytes s).map (· ++ old.drop s.length)
  rw [hlength, List.drop_length, List.append_nil] at hover
  simp only [hlength, Nat.lt_irrefl, if_false, List.drop_length]
  exact hover

end Reads

/-! ### Records and lists -/

/-- The values are those of the fields, in their order, and reading them leads from one record to
another. -/
inductive ReadsFields : Fields α → List (String × Pack) → α → α → Prop where
  | nil (x : α) : ReadsFields [] [] x x
  | cons {name : String} {step : α → Unpack α} {fields : Fields α} {value : Pack}
      {values : List (String × Pack)} {x y z : α} (head : Reads (step x) value.encode y)
      (tail : ReadsFields fields values y z) :
      ReadsFields ((name, step) :: fields) ((name, value) :: values) x z

theorem ReadsFields.length_eq {fields : Fields α} {values : List (String × Pack)} {x z : α}
    (h : ReadsFields fields values x z) : values.length = fields.length := by
  induction h with
  | nil => rfl
  | cons _ _ ih => rw [List.length_cons, List.length_cons, ih]

/-- The names of the fields. -/
def Fields.names (fields : Fields α) : List Bytes := fields.map fun field => field.1.utf8

theorem Fields.find?_name {fields : Fields α} (h : fields.names.Nodup)
    {field : String × (α → Unpack α)} (hmem : field ∈ fields) :
    fields.find? (fun other => other.1.utf8 == field.1.utf8) = some field := by
  induction fields with
  | nil => cases hmem
  | cons first fields ih =>
    obtain ⟨hfirst, hrest⟩ := List.nodup_cons.mp h
    rcases List.mem_cons.mp hmem with rfl | hmem
    · rw [List.find?_cons, beq_self_eq_true]
    · have hne : (first.1.utf8 == field.1.utf8) = false := by
        rw [beq_eq_false_iff_ne]
        intro heq
        exact hfirst (List.mem_map.mpr ⟨field, hmem, heq.symm⟩)
      rw [List.find?_cons, hne]
      exact ih hrest hmem

namespace Reads

theorem entries {all fields : Fields α} {values : List (String × Pack)} {x z : α}
    (hnodup : all.names.Nodup) (hnames : ∀ name ∈ all.names, name.length < UInt32.size)
    (hsub : fields ⊆ all) (h : ReadsFields fields values x z) :
    Reads (entries all values.length x)
      (Pack.encodeEntries (values.map fun (name, value) => (.text name.utf8, value))) z := by
  induction h with
  | nil x => exact Reads.pure x
  | @cons name step fields value values x y z head tail ih =>
    have hmem : (name, step) ∈ all := hsub List.mem_cons_self
    have hname : name.utf8.length < UInt32.size := hnames _ (List.mem_map_of_mem hmem)
    have hfind := Fields.find?_name hnodup hmem
    rw [List.map_cons, Pack.encodeEntries, List.append_assoc]
    refine (Reads.text hname).bind ?_
    simp only [hfind]
    exact head.bind (ih fun field hfield => hsub (List.mem_cons_of_mem _ hfield))

/-- A record is read if its fields are. -/
theorem record {fields : Fields α} {values : List (String × Pack)} {empty x z : α}
    (hnodup : fields.names.Nodup) (hnames : ∀ name ∈ fields.names, name.length < UInt32.size)
    (hfields : fields.length < 16) (h : ReadsFields fields values x z) :
    Reads (record fields empty x) (Pack.encode (.record values)) z := by
  have hcount : values.length < 16 := h.length_eq ▸ hfields
  -- records are short, so the length is part of the byte for the kind
  have hb : (UInt8.ofNat (0x80 + values.length)).toNat = 0x80 + values.length :=
    UInt8.toNat_ofNat_of_lt (Nat.lt_trans (by omega) (by decide : 0x90 < UInt8.size))
  have hnil : isNil (0x80 + values.length) = false := beq_eq_false_iff_ne.mpr (by omega)
  have hmap : isMap (0x80 + values.length) = true := by
    simp [isMap, show 0x80 + values.length < 0x90 by omega]
  have hlength : mapLength (0x80 + values.length) = Pure.pure values.length := by
    simp [mapLength, Unpack.length, show 0x80 + values.length ≤ 143 by omega]
  rw [Pack.record, Pack.encode, List.length_map, Pack.head]
  simp only [hcount, if_true, List.singleton_append]
  refine kind_bind ?_
  simp only [hb, hnil, hmap, hlength, Bool.false_eq_true, if_false, if_true]
  exact entries hnodup hnames (List.Subset.refl fields) h

theorem itemsOver {item : β → Unpack β} {empty : β} {pack : α → Pack} {draft : α → β} {xs : List α}
    (h : ∀ x ∈ xs, Reads (item empty) (pack x).encode (draft x)) :
    Reads (itemsOver item empty xs.length []) (Pack.encodeItems (xs.map pack)) (xs.map draft) := by
  induction xs with
  | nil => exact Reads.pure []
  | cons x xs ih =>
    obtain ⟨hx, hxs⟩ := List.forall_mem_cons.mp h
    rw [List.map_cons, Pack.encodeItems]
    exact hx.bind ((ih hxs).map (draft x :: ·))

/-- A list is read if its items are. -/
theorem slots {item : β → Unpack β} {empty : β} {pack : α → Pack} {draft : α → β} {xs : List α}
    (hcount : xs.length < UInt32.size)
    (h : ∀ x ∈ xs, Reads (item empty) (pack x).encode (draft x)) :
    Reads (slots item empty none) (Pack.encode (.array (xs.map pack)))
      (some ⟨xs.map draft, xs.length⟩) := by
  rw [Pack.encode, List.length_map]
  exact of_announces (Announces.array hcount)
    ((itemsOver h).map fun items => some (Slots.mk items xs.length))

theorem slots_nil {item : β → Unpack β} {empty : β} {old : Option (Slots β)} :
    Reads (Unpack.slots item empty old) (Pack.encode .nil) none := fun _ => rfl

theorem run?_eq {r : Unpack α} {bytes : Bytes} {x : α} (h : Reads r bytes x) :
    r.run? bytes = some x := by
  have hrun := h []
  rw [List.append_nil] at hrun
  rw [Unpack.run?, hrun]
  rfl

end Reads

end Unpack

end TensorLang.Storage
