import TensorLang.Proofs.Text.Ascii
import TensorLang.Proofs.Text.Blanks

/-!
# Well-formed texts

A well-formed text that is not empty begins with a whole code point, so more text behind it does not
change how it begins (`Utf8.decode_append`). For the scanner of blanks this means that it stops at
the same place, as long as it does not reach the end (`Text.blankLength_append_of_isValid`).

A boundary of a text is an offset at which a code point begins, or the end (`Utf8.IsBoundary`). Who
moves over the bytes of a text knows the text ahead and not the pieces behind. That is enough:
wherever the rest of a well-formed text is well-formed, the text is cut between two of its pieces
(`Utf8.exists_split_drop`). And who moves over a byte and the continuation bytes behind it has moved
over the whole code point (`Utf8.takeWhile_isTail`).
-/

namespace TensorLang

namespace Utf8

theorem decode_size_pos (a : UInt8) (rest : Bytes) : 0 < (decode (a :: rest)).2 := by
  generalize htext : a :: rest = text
  fun_cases decode text with
  | case1 => cases htext
  | _ => exact Nat.succ_pos _

theorem decode_size_le (text : Bytes) : (decode text).2 ≤ text.length := by
  fun_cases decode text <;> simp

/-- A text is cut behind its first code point, and then the rest of it. -/
theorem split_cons (a : UInt8) (rest : Bytes) :
    split (a :: rest) = ((decode (a :: rest)).1, (a :: rest).take (decode (a :: rest)).2) ::
      split ((a :: rest).drop (decode (a :: rest)).2) := by
  obtain ⟨n, hn⟩ := Nat.exists_eq_succ_of_ne_zero (Nat.ne_of_gt (decode_size_pos a rest))
  rw [split]
  simp only [hn, Nat.succ_sub_one, List.drop_succ_cons]

/-- The pieces of a text, put together, are the text. -/
theorem flatMap_split (text : Bytes) : (split text).flatMap Prod.snd = text := by
  fun_induction split text with
  | case1 => rfl
  | case2 a rest code size hdecode ih =>
    have hsize : 0 < size := by
      have hpos := decode_size_pos a rest
      rwa [hdecode] at hpos
    obtain ⟨n, rfl⟩ := Nat.exists_eq_succ_of_ne_zero (Nat.ne_of_gt hsize)
    rw [List.flatMap_cons, ih]
    exact List.take_append_drop (n + 1) (a :: rest)

/-- A piece that is no malformed byte is the encoding of its code point. -/
theorem eq_encode_of_mem_split {text : Bytes} {piece : Nat × Bytes} (h : piece ∈ split text)
    (hwhole : isMalformed piece = false) : IsScalar piece.1 ∧ piece.2 = encode piece.1 := by
  fun_induction split text with
  | case1 => cases h
  | case2 a rest code size hdecode ih =>
    rcases List.mem_cons.mp h with rfl | h
    · have hscalar := isScalar_decode (a :: rest)
      have hencode := @encode_decode_of_ne (a :: rest) (List.cons_ne_nil a rest)
      rw [hdecode] at hscalar hencode
      refine ⟨hscalar, (hencode ?_).symm⟩
      intro heq
      obtain ⟨rfl, rfl⟩ := Prod.mk.inj heq
      exact absurd hwhole (by simp [isMalformed])
    · exact ih h

/-- A well-formed text begins with a whole code point, and what is behind it is well-formed. -/
theorem isValid_cons {a : UInt8} {rest : Bytes} (h : isValid (a :: rest) = true) :
    decode (a :: rest) ≠ (replacement, 1) ∧
      isValid ((a :: rest).drop (decode (a :: rest)).2) = true := by
  rw [isValid, split_cons, List.all_cons, Bool.and_eq_true] at h
  obtain ⟨hpiece, hrest⟩ := h
  refine ⟨fun heq => ?_, hrest⟩
  rw [heq] at hpiece
  exact absurd hpiece (by simp [isMalformed])

/-- A well-formed text does not begin with a continuation byte. -/
theorem isTail_eq_false {b : UInt8} {rest : Bytes} (h : isValid (b :: rest) = true) :
    isTail b = false :=
  Bool.eq_false_iff.mpr fun hb => (isValid_cons h).1 (decode_of_isTail hb rest)

/-- More text behind a whole code point does not change it. -/
theorem decode_append {text : Bytes} (hne : text ≠ []) (h : decode text ≠ (replacement, 1))
    (more : Bytes) : decode (text ++ more) = decode text := by
  revert hne h
  -- all cases but the well-formed sequences give the replacement character
  fun_cases decode text with
  | case1 => exact fun hne => absurd rfl hne
  | case2 a rest ha =>
    intro _ _
    rw [List.cons_append, decode_ascii ha]
  | case3 a h1 ha b rest hb =>
    intro _ _
    simp only [List.cons_append, decode, if_neg h1, if_pos ha, if_pos hb]
  | case6 a h1 h2 ha b c rest hbc =>
    intro _ _
    simp only [List.cons_append, decode, if_neg h1, if_neg h2, if_pos ha, if_pos hbc]
  | case9 a h1 h2 h3 ha b c d rest hbcd =>
    intro _ _
    simp only [List.cons_append, decode, if_neg h1, if_neg h2, if_neg h3, if_pos ha, if_pos hbcd]
  | _ => exact fun _ h => absurd rfl h

theorem isValid_of_isAscii_append {w rest : Bytes} (hw : w.IsAscii)
    (h : isValid (w ++ rest) = true) : isValid rest = true := by
  induction w with
  | nil => exact h
  | cons b w ih =>
    obtain ⟨hb, hw⟩ := List.forall_mem_cons.mp hw
    have hdrop := (isValid_cons h).2
    rw [decode_ascii hb] at hdrop
    exact ih hw hdrop

theorem isValid_of_encode_append {code : Nat} {rest : Bytes} (hcode : IsScalar code)
    (h : isValid (encode code ++ rest) = true) : isValid rest = true := by
  have hdecode := decode_encode_append hcode rest
  cases htext : encode code ++ rest with
  | nil => rwa [(List.append_eq_nil_iff.mp htext).2, ← htext]
  | cons a as =>
    rw [htext] at h
    have hdrop := (isValid_cons h).2
    rwa [← htext, hdecode, List.drop_left] at hdrop

end Utf8

namespace Text

/-- Trimming only removes. -/
theorem mem_of_trim {text : Bytes} {b : UInt8} (h : b ∈ trim text) : b ∈ text := by
  obtain ⟨piece, hpiece, hb⟩ := List.mem_flatMap.mp h
  have hsuffix : piece ∈ (Utf8.split text).dropWhile fun piece => isBlank piece.1 :=
    List.mem_reverse.mp ((List.dropWhile_sublist _).mem (List.mem_reverse.mp hpiece))
  have hsplit : piece ∈ Utf8.split text := (List.dropWhile_sublist _).mem hsuffix
  rw [← Utf8.flatMap_split text]
  exact List.mem_flatMap.mpr ⟨piece, hsplit, hb⟩

theorem Blanks.isValid_of_append {w rest : Bytes} (hw : Blanks w)
    (h : Utf8.isValid (w ++ rest) = true) : Utf8.isValid rest = true := by
  induction hw with
  | nil => exact h
  | cons hcode _ ih =>
    rw [List.append_assoc] at h
    exact ih (Utf8.isValid_of_encode_append (isScalar_of_isBlank hcode) h)

theorem isValid_drop_blankLength {text : Bytes} (h : Utf8.isValid text = true) :
    Utf8.isValid (text.drop (blankLength text)) = true := by
  have hblanks := blanks_take_blankLength text
  rw [← List.take_append_drop (blankLength text) text] at h
  exact hblanks.isValid_of_append h

/-- **The scanner stops at the same place** if there is more behind a well-formed text, unless it
reaches the end of it. -/
theorem blankLength_append_of_isValid {text : Bytes} (h : Utf8.isValid text = true)
    (hne : text.drop (blankLength text) ≠ []) (more : Bytes) :
    blankLength (text ++ more) = blankLength text := by
  have hvalid := isValid_drop_blankLength h
  have hstops := startsBlank_drop_blankLength text
  have hwhole : startsBlank (text.drop (blankLength text) ++ more) = false := by
    obtain ⟨a, rest, hrest⟩ := List.exists_cons_of_ne_nil hne
    rw [hrest] at hvalid hne hstops ⊢
    rw [startsBlank] at hstops ⊢
    rwa [Utf8.decode_append hne (Utf8.isValid_cons hvalid).1]
  have hlen := blankLength_append (blanks_take_blankLength text) hwhole
  rwa [← List.append_assoc, List.take_append_drop, List.length_take,
    Nat.min_eq_left (blankLength_le text)] at hlen

end Text

/-! ### Boundaries between code points -/

namespace Utf8

/-- The offset lies between two code points of the text, or at an end of the text. -/
def IsBoundary (text : Bytes) (n : Nat) : Prop :=
  ∃ front back, split text = front ++ back ∧ (front.flatMap Prod.snd).length = n

/-- A well-formed rest does not begin inside of the first code point. -/
theorem decode_size_le_of_isValid_drop {text : Bytes} {n : Nat} (hn : 0 < n)
    (hle : n ≤ text.length) (h : isValid (text.drop n) = true) : (decode text).2 ≤ n := by
  by_contra hlt
  have hsize := decode_size_le text
  cases text with
  | nil => exact hlt (Nat.zero_le n)
  | cons a rest =>
    obtain ⟨m, rfl⟩ := Nat.exists_eq_succ_of_ne_zero (Nat.ne_of_gt hn)
    have hm : m < rest.length := by
      rw [List.length_cons] at hsize
      omega
    have hmem : rest[m] ∈ rest.take ((decode (a :: rest)).2 - 1) :=
      List.mem_take_iff_getElem.mpr ⟨m, by omega, rfl⟩
    rw [List.drop_succ_cons, List.drop_eq_getElem_cons hm] at h
    exact Bool.false_ne_true ((isTail_eq_false h).symm.trans (isTail_of_mem_take a rest _ hmem))

/-- **Where the rest of a well-formed text is well-formed, it begins with a whole code point**: the
pieces of the text are those before the place and those of the rest. -/
theorem exists_split_drop {text : Bytes} {n : Nat} (hn : n ≤ text.length)
    (h : isValid text = true) (hdrop : isValid (text.drop n) = true) :
    ∃ front, split text = front ++ split (text.drop n) ∧
      (front.flatMap Prod.snd).length = n := by
  -- by induction on the text, which is cut behind its first code point
  induction hlen : text.length using Nat.strongRecOn generalizing text n with
  | ind len ih =>
    rcases Nat.eq_zero_or_pos n with rfl | hpos
    · exact ⟨[], by rw [List.drop_zero, List.nil_append], rfl⟩
    · have hsize := decode_size_le_of_isValid_drop hpos hn hdrop
      cases text with
      | nil => exact absurd hn (Nat.not_le.mpr hpos)
      | cons a rest =>
        have hsizepos := decode_size_pos a rest
        have hle := decode_size_le (a :: rest)
        have hsame : ((a :: rest).drop (decode (a :: rest)).2).drop (n - (decode (a :: rest)).2) =
            (a :: rest).drop n := by
          rw [List.drop_drop, Nat.add_sub_cancel' hsize]
        obtain ⟨front, hfront, hlength⟩ := ih _ (by rw [List.length_drop]; omega)
          (by rw [List.length_drop]; omega) (isValid_cons h).2 (hsame ▸ hdrop) rfl
        refine ⟨((decode (a :: rest)).1, (a :: rest).take (decode (a :: rest)).2) :: front, ?_, ?_⟩
        · rw [split_cons, hfront, hsame, List.cons_append]
        · rw [List.flatMap_cons, List.length_append, hlength, List.length_take,
            Nat.min_eq_left hle, Nat.add_sub_cancel' hsize]

/-- The continuation bytes behind the first byte of a well-formed text belong to its first code
point. -/
theorem takeWhile_isTail {a : UInt8} {rest : Bytes} (h : isValid (a :: rest) = true) :
    rest.takeWhile isTail = rest.take ((decode (a :: rest)).2 - 1) := by
  obtain ⟨n, hn⟩ := Nat.exists_eq_succ_of_ne_zero (Nat.ne_of_gt (decode_size_pos a rest))
  have hbehind := (isValid_cons h).2
  have htails := isTail_of_mem_take a rest
  rw [hn, List.drop_succ_cons] at hbehind
  rw [hn, Nat.succ_sub_one] at htails ⊢
  have hnil : (rest.drop n).takeWhile isTail = [] := by
    cases hdrop : rest.drop n with
    | nil => rfl
    | cons b bs =>
      rw [hdrop] at hbehind
      simp [isTail_eq_false hbehind]
  calc rest.takeWhile isTail
      = (rest.take n ++ rest.drop n).takeWhile isTail := by rw [List.take_append_drop]
    _ = rest.take n ++ (rest.drop n).takeWhile isTail := List.takeWhile_append_of_pos htails
    _ = rest.take n := by rw [hnil, List.append_nil]

end Utf8

end TensorLang
