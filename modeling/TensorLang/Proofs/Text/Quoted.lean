import TensorLang.Proofs.Text.Decimal
import TensorLang.Proofs.Text.Validity
import TensorLang.Text.Quoted

/-!
# Quoted text can be read back

What stands between the quotes is a sequence of escapes and plain code points, and the first of them
tells where it ends and which bytes it stands for (`Quoted.unescape_piece`). None of them begins
with a quote. So a quoted text shows where it ends, whatever follows it, and different texts are
quoted differently (`Quoted.string_append_inj`); this includes malformed bytes and texts with quotes
and escapes of their own.
-/

namespace TensorLang.Quoted

/-- How one piece of a text is written between double quotes. -/
def piece (p : Nat × Bytes) : Bytes :=
  if Utf8.isMalformed p then "\\x".utf8 ++ p.2.flatMap fun b => Hex.fixed 2 b.toNat
  else escape 34 p.1

theorem string_eq (text : Bytes) :
    string text = 34 :: ((Utf8.split text).flatMap piece ++ [34]) := rfl

/-! ### Reading the first escape -/

/-- The byte that a letter behind a backslash stands for; other signs stand for themselves. -/
def unescapeLetter : UInt8 → UInt8
  | 97 => 7
  | 98 => 8
  | 116 => 9
  | 110 => 10
  | 118 => 11
  | 102 => 12
  | 114 => 13
  | b => b

/-- Reads hexadecimal digits: their number, and what is behind them. -/
def readHex (places : Nat) (text : Bytes) : Nat × Bytes :=
  (CodeRanges.hexValue (text.take places), text.drop places)

/-- The bytes that the first escape or code point stands for, and what is behind it. -/
def unescape : Bytes → Bytes × Bytes
  | 92 :: 120 :: rest => (readHex 2 rest).map (fun n => [UInt8.ofNat n]) id
  | 92 :: 117 :: rest => (readHex 4 rest).map Utf8.encode id
  | 92 :: 85 :: rest => (readHex 8 rest).map Utf8.encode id
  | 92 :: letter :: rest => ([unescapeLetter letter], rest)
  | text => text.splitAt (Utf8.decode text).2

theorem readHex_fixed (places : Nat) {n : Nat} (h : n < 16 ^ places) (rest : Bytes) :
    readHex places (Hex.fixed places n ++ rest) = (n, rest) := by
  have hlength := Hex.length_fixed places n
  rw [readHex, List.take_left' hlength, List.drop_left' hlength, Hex.hexValue_fixed h]

theorem unescape_byte {n : Nat} (h : n < 0x100) (rest : Bytes) :
    unescape ("\\x".utf8 ++ Hex.fixed 2 n ++ rest) = ([UInt8.ofNat n], rest) := by
  have hmark : "\\x".utf8 = [92, 120] := by decide
  have hread := readHex_fixed 2 h rest
  rw [hmark, List.append_assoc, List.cons_append, List.cons_append, List.nil_append, unescape,
    hread]
  rfl

theorem unescape_shortEscape {n : Nat} {letter : UInt8} (h : shortEscape? n = some letter)
    (rest : Bytes) : unescape ([92, letter] ++ rest) = (Utf8.encode n, rest) := by
  unfold shortEscape? at h
  split at h
  case h_8 => cases h
  all_goals
    obtain rfl := Option.some.inj h
    rfl

theorem unescape_of_ne {text : Bytes} (h : text.head? ≠ some 92) :
    unescape text = text.splitAt (Utf8.decode text).2 := by
  unfold unescape
  split
  case h_5 => rfl
  all_goals exact absurd rfl h

/-- A byte of ASCII begins the encoding of its own code point alone. -/
theorem head?_encode_ne {code : Nat} {b : UInt8} (hb : b.toNat < 0x80) (h : code ≠ b.toNat)
    (rest : Bytes) : (Utf8.encode code ++ rest).head? ≠ some b := by
  intro hhead
  have hmem : b ∈ Utf8.encode code := by
    obtain ⟨a, as, hcons⟩ := List.exists_cons_of_ne_nil (Utf8.encode_ne_nil code)
    rw [hcons] at hhead ⊢
    exact List.mem_cons.mpr (.inl (Option.some.inj hhead).symm)
  have hsize : code < 0x80 := by
    by_contra hge
    have hle := Utf8.le_of_mem_encode (Nat.le_of_not_lt hge) hmem
    omega
  rw [Utf8.encode_ascii hsize, List.mem_singleton] at hmem
  rw [hmem, UInt8.toNat_ofNat'] at h
  omega

/-- What is written for a code point is read as its encoding, and does not begin with a quote. -/
theorem unescape_escape {code : Nat} (h : Utf8.IsScalar code) (rest : Bytes) :
    unescape (escape 34 code ++ rest) = (Utf8.encode code, rest) ∧
      (escape 34 code ++ rest).head? ≠ some 34 := by
  have hmarks : "\\x".utf8 = [92, 120] ∧ "\\u".utf8 = [92, 117] ∧ "\\U".utf8 = [92, 85] := by
    decide
  have hbackslash : ∀ more : Bytes, (92 :: more).head? ≠ some (34 : UInt8) :=
    fun more hhead => absurd (Option.some.inj hhead) (by decide)
  fun_cases escape 34 code with
  | case1 hsign =>
    rw [Bool.or_eq_true, beq_iff_eq, beq_iff_eq] at hsign
    rcases hsign with rfl | rfl <;> exact ⟨rfl, hbackslash _⟩
  | case2 hsign hprint =>
    -- a quote or a backslash would have been escaped, and no other code point begins like them
    rw [Bool.or_eq_true, beq_iff_eq, beq_iff_eq, not_or] at hsign
    have hplain := head?_encode_ne (b := 92) (by decide) hsign.2 rest
    refine ⟨?_, head?_encode_ne (by decide) hsign.1 rest⟩
    rw [unescape_of_ne hplain, Utf8.decode_encode_append h, List.splitAt_eq, List.take_left,
      List.drop_left]
  | case3 _ _ letter hletter => exact ⟨unescape_shortEscape hletter rest, hbackslash _⟩
  | case4 _ _ _ hcontrol =>
    rw [Bool.or_eq_true, decide_eq_true_eq, beq_iff_eq] at hcontrol
    rw [unescape_byte (by omega), Utf8.encode_ascii (by omega), hmarks.1]
    exact ⟨rfl, hbackslash _⟩
  | case5 _ _ _ _ hshort =>
    have hread := readHex_fixed 4 hshort rest
    rw [hmarks.2.1, List.append_assoc, List.cons_append, List.cons_append, List.nil_append,
      unescape, hread]
    exact ⟨rfl, hbackslash _⟩
  | case6 _ _ _ _ _ =>
    have hlong : code < 16 ^ 8 := by
      unfold Utf8.IsScalar at h
      omega
    have hread := readHex_fixed 8 hlong rest
    rw [hmarks.2.2, List.append_assoc, List.cons_append, List.cons_append, List.nil_append,
      unescape, hread]
    exact ⟨rfl, hbackslash _⟩

/-! ### Pieces and texts -/

/-- **A piece shows where it ends and what it stands for,** and it does not begin with a quote. -/
theorem unescape_piece {text : Bytes} {p : Nat × Bytes} (h : p ∈ Utf8.split text) (rest : Bytes) :
    unescape (piece p ++ rest) = (p.2, rest) ∧ (piece p ++ rest).head? ≠ some 34 := by
  unfold piece
  split
  · rename_i hmalformed
    obtain ⟨b, hb⟩ : ∃ b, p.2 = [b] := by
      rw [Utf8.isMalformed, Bool.and_eq_true, beq_iff_eq, beq_iff_eq] at hmalformed
      exact List.length_eq_one_iff.mp hmalformed.2
    have hmark : "\\x".utf8 = [92, 120] := by decide
    rw [hb, List.flatMap_singleton, unescape_byte b.toNat_lt, UInt8.ofNat_toNat, hmark]
    exact ⟨rfl, fun hhead => absurd (Option.some.inj hhead) (by decide)⟩
  · rename_i hwhole
    obtain ⟨hscalar, hencode⟩ := Utf8.eq_encode_of_mem_split h (Bool.eq_false_iff.mpr hwhole)
    rw [hencode]
    exact unescape_escape hscalar rest

/-- Pieces behind which a quote stands can be told apart. -/
theorem flatMap_piece_inj {s t r r' : Bytes} {ps qs : List (Nat × Bytes)}
    (hps : ∀ p ∈ ps, p ∈ Utf8.split s) (hqs : ∀ q ∈ qs, q ∈ Utf8.split t)
    (h : ps.flatMap piece ++ 34 :: r = qs.flatMap piece ++ 34 :: r') :
    ps.map Prod.snd = qs.map Prod.snd ∧ r = r' := by
  induction ps generalizing qs with
  | nil =>
    cases qs with
    | nil => exact ⟨rfl, (List.cons.inj h).2⟩
    | cons q qs =>
      rw [List.flatMap_cons, List.append_assoc] at h
      exact absurd (congrArg List.head? h).symm (unescape_piece (hqs q List.mem_cons_self) _).2
  | cons p ps ih =>
    cases qs with
    | nil =>
      rw [List.flatMap_cons, List.append_assoc] at h
      exact absurd (congrArg List.head? h) (unescape_piece (hps p List.mem_cons_self) _).2
    | cons q qs =>
      rw [List.forall_mem_cons] at hps hqs
      rw [List.flatMap_cons, List.append_assoc, List.flatMap_cons, List.append_assoc] at h
      have hread := congrArg unescape h
      rw [(unescape_piece hps.1 _).1, (unescape_piece hqs.1 _).1] at hread
      obtain ⟨hbytes, hrest⟩ := Prod.mk.inj hread
      obtain ⟨hmore, hr⟩ := ih hps.2 hqs.2 hrest
      exact ⟨by rw [List.map_cons, List.map_cons, hbytes, hmore], hr⟩

/-- **A quoted text shows where it ends and which text it is.** -/
theorem string_append_inj {s t r r' : Bytes} (h : string s ++ r = string t ++ r') :
    s = t ∧ r = r' := by
  have hpieces : (Utf8.split s).flatMap piece ++ 34 :: r =
      (Utf8.split t).flatMap piece ++ 34 :: r' := by
    simpa only [string_eq, List.cons_append, List.append_assoc, List.nil_append,
      List.cons.injEq, true_and] using h
  obtain ⟨hbytes, hr⟩ := flatMap_piece_inj (fun _ hp => hp) (fun _ hq => hq) hpieces
  refine ⟨?_, hr⟩
  rw [← Utf8.flatMap_split s, ← Utf8.flatMap_split t, List.flatMap_def, List.flatMap_def, hbytes]

end TensorLang.Quoted
