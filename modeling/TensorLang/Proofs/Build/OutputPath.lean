import Mathlib.Data.List.TakeWhile
import TensorLang.Build.OutputPath
import TensorLang.Pipeline.Batch
import TensorLang.Proofs.Source.Relative

/-!
# Places of outputs

The place of a source is written from names and a last element, whatever the source and the base
directory are (`Build.exists_placeOf`). With the ending of emitted files the last element becomes a
name, so outputs stay in the output directory (`Build.outputPath_below`).

A source below the base directory keeps the names that lead to it from there
(`Build.placeOf_join`). Of these only the ending is lost, and sources all have the same one, so
sources of a directory have outputs of their own (`Build.outputPath_ne`).
-/

namespace TensorLang

namespace Path

/-! ### The ending of the last element -/

/-- The ending begins at the last point. -/
theorem ext_append {stem tail : Bytes} (h : slash ∉ stem ++ 46 :: tail) (htail : 46 ∉ tail) :
    ext (stem ++ 46 :: tail) = 46 :: tail := by
  have hwhile : (stem ++ 46 :: tail).reverse.takeWhile (· ≠ 46) = tail.reverse := by
    rw [List.reverse_append, List.reverse_cons, List.append_assoc,
      List.takeWhile_append_of_pos fun b hb => ?_]
    · simp
    · exact decide_eq_true fun hb' => htail (hb' ▸ List.mem_reverse.mp hb)
  rw [ext, Bytes.splitOn_of_not_mem h]
  simp only [List.getLast?_singleton, Option.getD_some, hwhile, List.length_reverse,
    List.length_append, List.length_cons]
  rw [if_neg (by omega), List.reverse_reverse]

theorem ext_of_not_mem {name : Bytes} (h : slash ∉ name) (hpoint : 46 ∉ name) : ext name = [] := by
  have hwhile : name.reverse.takeWhile (· ≠ 46) = name.reverse :=
    List.takeWhile_eq_self_iff.mpr fun b hb =>
      decide_eq_true fun hb' => hpoint (hb' ▸ List.mem_reverse.mp hb)
  rw [ext, Bytes.splitOn_of_not_mem h]
  simp only [List.getLast?_singleton, Option.getD_some, hwhile, List.length_reverse, if_true]

/-- An element without separators is what is before its ending, and the ending. -/
theorem exists_stem {name : Bytes} (h : slash ∉ name) : ∃ stem, name = stem ++ ext name := by
  by_cases hpoint : 46 ∈ name
  · -- the last point of the name is the first one from behind
    obtain ⟨tail, stem, hsplit, htail⟩ := List.eq_append_cons_of_mem (List.mem_reverse.mpr hpoint)
    have hname : name = stem.reverse ++ 46 :: tail.reverse := by
      rw [← List.reverse_inj, hsplit]
      simp
    rw [hname] at h ⊢
    rw [ext_append h fun hmem => htail (List.mem_reverse.mp hmem)]
    exact ⟨stem.reverse, rfl⟩
  · exact ⟨name, by rw [ext_of_not_mem h hpoint, List.append_nil]⟩

/-- The ending of a path is that of its last element. -/
theorem ext_joinWith {dirs : List Bytes} {name : Bytes} (hdirs : ∀ d ∈ dirs, slash ∉ d)
    (hname : slash ∉ name) : ext (Bytes.joinWith [slash] (dirs ++ [name])) = ext name := by
  have hpieces : ∀ e ∈ dirs ++ [name], slash ∉ e :=
    List.forall_mem_append.mpr ⟨hdirs, List.forall_mem_singleton.mpr hname⟩
  rw [ext, ext, Bytes.splitOn_joinWith (by simp) hpieces, Bytes.splitOn_of_not_mem hname,
    List.getLast?_concat, List.getLast?_singleton]

/-! ### Last elements -/

theorem slash_not_mem_base {p : Bytes} (h : base p ≠ [slash]) : slash ∉ base p := by
  unfold base at h ⊢
  split_ifs at h ⊢ with hempty
  · decide
  · simp only at h ⊢
    split_ifs at h ⊢ with htrimmed
    · exact absurd rfl h
    · cases hlast : (Bytes.splitOn slash (Bytes.trimRight (· == slash) p)).getLast? with
      | none => exact List.not_mem_nil
      | some last => exact Bytes.not_mem_of_splitOn (List.mem_of_getLast? hlast)

end Path

namespace Build

open TensorLang.Path

/-! ### Emitted names -/

/-- The name of an emitted file. -/
theorem isPlain_withOutputEnding {name : Bytes} (h : slash ∉ name) :
    IsPlain (withOutputEnding name) ∧ Bytes.endsWith (withOutputEnding name) ".go".utf8 = true := by
  refine ⟨IsPlain.of_length ?_ ?_, Bytes.endsWith_iff.mpr ⟨_, rfl⟩⟩
  · rw [withOutputEnding, List.length_append]
    exact Nat.le_add_left _ _
  · rw [withOutputEnding, List.mem_append, not_or]
    exact ⟨fun hmem => h (List.mem_of_mem_take hmem), by decide⟩

/-- Only the last element gets another ending. -/
theorem withOutputEnding_joinWith {dirs : List Bytes} {name : Bytes} (hdirs : ∀ d ∈ dirs, slash ∉ d)
    (hname : slash ∉ name) :
    withOutputEnding (Bytes.joinWith [slash] (dirs ++ [name])) =
      Bytes.joinWith [slash] (dirs ++ [withOutputEnding name]) := by
  obtain ⟨stem, hstem⟩ := exists_stem hname
  have hlength := congrArg List.length hstem
  rw [List.length_append] at hlength
  rw [withOutputEnding, withOutputEnding, ext_joinWith hdirs hname, Bytes.joinWith_concat,
    Bytes.joinWith_concat, ← List.append_assoc, List.length_append, Nat.add_sub_assoc (by omega),
    List.take_length_add_append]

/-! ### Places of sources -/

theorem staysBelow_ofParts_iff {es : List Bytes} (h : ∀ e ∈ es, IsElement e) :
    staysBelow (ofParts false es) = true ↔ es.head? ≠ some "..".utf8 := by
  rw [Ne, ← climbs_ofParts_iff h, staysBelow]
  simp [not_or]

/-- **The place of a source** is the root, or it is written from names and one more element without
separators. -/
theorem exists_placeOf (base src : Bytes) :
    placeOf base src = [slash] ∨ ∃ dirs name, (∀ d ∈ dirs, IsPlain d) ∧ slash ∉ name ∧
      placeOf base src = Bytes.joinWith [slash] (dirs ++ [name]) := by
  have hown : Path.base src = [slash] ∨ ∃ dirs name, (∀ d ∈ dirs, IsPlain d) ∧ slash ∉ name ∧
      Path.base src = Bytes.joinWith [slash] (dirs ++ [name]) :=
    or_iff_not_imp_left.mpr fun h => ⟨[], Path.base src, nofun, slash_not_mem_base h, rfl⟩
  unfold placeOf
  split_ifs with hempty
  · exact hown
  cases hrel : rel? base src with
  | none => exact hown
  | some r =>
    obtain ⟨es, hred, rfl⟩ := exists_of_rel? hrel
    simp only
    split_ifs with hbelow
    · rw [staysBelow_ofParts_iff fun _ => hred.isElement] at hbelow
      have hplain : ∀ e ∈ es, IsPlain e := fun _ => hred.isPlain_of_head hbelow
      right
      rcases List.eq_nil_or_concat es with rfl | ⟨dirs, name, rfl⟩
      · exact ⟨[], ".".utf8, nofun, by decide, rfl⟩
      · rw [List.concat_eq_append] at hplain ⊢
        obtain ⟨hdirs, hname⟩ := List.forall_mem_append.mp hplain
        exact ⟨dirs, name, hdirs, (List.forall_mem_singleton.mp hname).no_slash,
          ofParts_false (isElement_of_isPlain hplain) (by simp)⟩
    · exact hown

/-- Names below a base directory are kept. -/
theorem placeOf_join {base : Bytes} (hbase : base ≠ []) {names : List Bytes}
    (h : ∀ name ∈ names, IsPlain name) :
    placeOf base (join [base, ofParts false names]) = ofParts false names := by
  have hbelow : staysBelow (ofParts false names) = true :=
    (staysBelow_ofParts_iff (isElement_of_isPlain h)).mpr fun hhead =>
      (h _ (List.mem_of_head? hhead)).ne_dots rfl
  rw [placeOf, if_neg (by simpa using hbase), rel?_join base h]
  simp only [hbelow, if_true]

/-! ### Outputs stay in their directory -/

/-- Behind a separator, another one changes nothing. -/
theorem join_slash {out p : Bytes} (hout : out ≠ []) (hp : p ≠ []) :
    join [out, slash :: p] = join [out, p] := by
  obtain ⟨b, out, rfl⟩ := List.exists_cons_of_ne_nil hout
  have hskip : elements (slash :: p) = elements p := elements_append [] p
  have habs : ∀ rest, isAbs (b :: out ++ slash :: rest) = isAbs (b :: out) := fun _ => rfl
  rw [join_pair hout (List.cons_ne_nil slash p), join_pair hout hp, clean, clean, parts, parts,
    habs, habs, elements_append, elements_append, hskip]

/-- An output is named by names below the output directory, of which the last one has the ending of
emitted files. -/
theorem exists_outputPath {out : Bytes} (hout : out ≠ []) (base src : Bytes) :
    ∃ dirs name, (∀ e ∈ dirs ++ [name], IsPlain e) ∧ Bytes.endsWith name ".go".utf8 = true ∧
      outputPath out base src = join [out, ofParts false (dirs ++ [name])] := by
  rcases exists_placeOf base src with hroot | ⟨dirs, name, hdirs, hname, hplace⟩
  · refine ⟨[], ".go".utf8, List.forall_mem_singleton.mpr ?_, by decide, ?_⟩
    · exact ⟨by decide, by decide, by decide, by decide⟩
    · have hending : withOutputEnding [slash] = slash :: ".go".utf8 := by decide
      rw [outputPath, hroot, hending, join_slash hout (by decide)]
      rfl
  · obtain ⟨hplain, hending⟩ := isPlain_withOutputEnding hname
    have hnames : ∀ e ∈ dirs ++ [withOutputEnding name], IsPlain e :=
      List.forall_mem_append.mpr ⟨hdirs, List.forall_mem_singleton.mpr hplain⟩
    refine ⟨dirs, withOutputEnding name, hnames, hending, ?_⟩
    rw [outputPath, hplace, withOutputEnding_joinWith (fun d hd => (hdirs d hd).no_slash) hname,
      ofParts_false (isElement_of_isPlain hnames) (by simp)]

/-- **Outputs stay in the output directory.** Wherever a source and the base directory are, the
output is named by a clean path below the output directory, without `..`, whose last element has the
ending of emitted files. The elements of the output directory come first, and those of this path
behind them. -/
theorem outputPath_below {out : Bytes} (hout : out ≠ []) (base src : Bytes) :
    ∃ q, IsInner q ∧
      (∃ name, (Bytes.splitOn slash q).getLast? = some name ∧
        Bytes.endsWith name ".go".utf8 = true) ∧
      outputPath out base src = join [out, q] ∧
      isAbs (outputPath out base src) = isAbs out ∧
      parts (outputPath out base src) = parts out ++ Bytes.splitOn slash q := by
  obtain ⟨dirs, name, hnames, hending, hpath⟩ := exists_outputPath hout base src
  have hred := (isReduced_parts out).append hnames
  have hsplit := splitOn_ofParts (isElement_of_isPlain hnames) (by simp)
  refine ⟨ofParts false (dirs ++ [name]), isInner_iff.mpr ⟨_, hnames, rfl⟩,
    ⟨name, by rw [hsplit, List.getLast?_concat], hending⟩, hpath, ?_, ?_⟩
  · rw [hpath, join_ofParts out hnames, isAbs_ofParts fun _ => hred.isElement]
  · rw [hpath, join_ofParts out hnames, hred.parts_ofParts, hsplit]

/-- A name of dots below a base directory that leads upwards. -/
theorem outputPath_below_dots :
    outputPath "../out".utf8 "../a".utf8 "../a/b/../...".utf8 = "../out/...go".utf8 ∧
      ∃ q, IsInner q ∧
        outputPath "../out".utf8 "../a".utf8 "../a/b/../...".utf8 = join ["../out".utf8, q] ∧
        ["..".utf8, "out".utf8, "...go".utf8] = parts "../out".utf8 ++ Bytes.splitOn slash q := by
  have hpath : outputPath "../out".utf8 "../a".utf8 "../a/b/../...".utf8 = "../out/...go".utf8 := by
    decide
  have hparts : parts "../out/...go".utf8 = ["..".utf8, "out".utf8, "...go".utf8] := by decide
  obtain ⟨q, hinner, -, hjoin, -, hbelow⟩ := outputPath_below
    (show "../out".utf8 ≠ [] by decide) "../a".utf8 "../a/b/../...".utf8
  exact ⟨hpath, q, hinner, hjoin, by rw [← hparts, ← hpath, hbelow]⟩

/-! ### Outputs of different sources -/

/-- A path of names that ends as sources do ends in a name that does. -/
theorem exists_source {q : Bytes} (hq : IsInner q) (hend : Bytes.endsWith q sourceEnding = true) :
    ∃ dirs stem, (∀ e ∈ dirs ++ [stem ++ sourceEnding], IsPlain e) ∧
      q = ofParts false (dirs ++ [stem ++ sourceEnding]) := by
  obtain ⟨names, hnames, rfl⟩ := isInner_iff.mp hq
  rcases List.eq_nil_or_concat names with rfl | ⟨dirs, name, rfl⟩
  · exact absurd hend (by decide)
  rw [List.concat_eq_append] at hnames hend ⊢
  suffices ∃ stem, name = stem ++ sourceEnding by
    obtain ⟨stem, rfl⟩ := this
    exact ⟨dirs, stem, hnames, rfl⟩
  obtain ⟨before, hbefore⟩ := Bytes.endsWith_iff.mp hend
  rw [ofParts_false (isElement_of_isPlain hnames) (by simp), Bytes.joinWith_concat,
    List.append_eq_append_iff] at hbefore
  rcases hbefore with ⟨stem, -, hstem⟩ | ⟨more, hdirs, hmore⟩
  · exact ⟨stem, hstem⟩
  · -- a separator would end what is more than the name, and there is none in the ending
    rcases List.eq_nil_or_concat dirs with rfl | ⟨dirs, dir, rfl⟩
    · obtain ⟨-, rfl⟩ := List.append_eq_nil_iff.mp hdirs.symm
      exact ⟨[], hmore.symm⟩
    · rcases List.eq_nil_or_concat more with rfl | ⟨more, last, rfl⟩
      · exact ⟨[], hmore.symm⟩
      · have hlast : last = slash := by
          have h := congrArg List.getLast? hdirs
          simpa [List.concat_eq_append, ← List.append_assoc] using h.symm
        have hmem : slash ∈ sourceEnding := by
          rw [hmore, hlast]
          simp
        exact absurd hmem (by decide)

/-- The output of a source of a directory has the same names, but for the ending. -/
theorem outputPath_join {dir : Bytes} (hdir : dir ≠ []) {dirs : List Bytes} {stem : Bytes}
    (h : ∀ e ∈ dirs ++ [stem ++ sourceEnding], IsPlain e) (out : Bytes) :
    outputPath out dir (join [dir, ofParts false (dirs ++ [stem ++ sourceEnding])]) =
        ofParts (isAbs out) (parts out ++ (dirs ++ [stem ++ ".go".utf8])) ∧
      IsReduced (isAbs out) (parts out ++ (dirs ++ [stem ++ ".go".utf8])) := by
  obtain ⟨hdirs, hname⟩ := List.forall_mem_append.mp h
  have hslash : slash ∉ stem ++ sourceEnding := (List.forall_mem_singleton.mp hname).no_slash
  have hending : withOutputEnding (stem ++ sourceEnding) = stem ++ ".go".utf8 := by
    have hext : ext (stem ++ sourceEnding) = sourceEnding := ext_append hslash (by decide)
    rw [withOutputEnding, hext, List.length_append, Nat.add_sub_cancel, List.take_left]
  have hplain := (isPlain_withOutputEnding hslash).1
  rw [hending] at hplain
  have hnames : ∀ e ∈ dirs ++ [stem ++ ".go".utf8], IsPlain e :=
    List.forall_mem_append.mpr ⟨hdirs, List.forall_mem_singleton.mpr hplain⟩
  refine ⟨?_, (isReduced_parts out).append hnames⟩
  rw [outputPath, placeOf_join hdir h, ofParts_false (isElement_of_isPlain h) (by simp),
    withOutputEnding_joinWith (fun d hd => (hdirs d hd).no_slash) hslash, hending,
    ← ofParts_false (isElement_of_isPlain hnames) (by simp), join_ofParts out hnames]

/-- **Different sources of a directory have different outputs.** -/
theorem outputPath_ne {dir q₁ q₂ : Bytes} (hdir : dir ≠ []) (h₁ : IsInner q₁) (h₂ : IsInner q₂)
    (hend₁ : Bytes.endsWith q₁ sourceEnding = true) (hend₂ : Bytes.endsWith q₂ sourceEnding = true)
    (hne : q₁ ≠ q₂) (out : Bytes) :
    outputPath out dir (join [dir, q₁]) ≠ outputPath out dir (join [dir, q₂]) := by
  obtain ⟨dirs₁, stem₁, hplain₁, rfl⟩ := exists_source h₁ hend₁
  obtain ⟨dirs₂, stem₂, hplain₂, rfl⟩ := exists_source h₂ hend₂
  obtain ⟨hpath₁, hred₁⟩ := outputPath_join hdir hplain₁ out
  obtain ⟨hpath₂, hred₂⟩ := outputPath_join hdir hplain₂ out
  rw [hpath₁, hpath₂]
  intro heq
  have hparts := congrArg parts heq
  rw [hred₁.parts_ofParts, hred₂.parts_ofParts, List.append_cancel_left_eq] at hparts
  obtain ⟨rfl, hname⟩ := List.append_inj' hparts rfl
  obtain rfl : stem₁ = stem₂ := List.append_cancel_right (List.singleton_inj.mp hname)
  exact hne rfl

/-- Names of which one is the other with its own ending once more. -/
theorem outputPath_ne_endings :
    outputPath [] "..".utf8 "../a.b/.c.tsa".utf8 ≠
      outputPath [] "..".utf8 "../a.b/.c.tsa.tsa".utf8 := by
  have hjoin₁ : join ["..".utf8, "a.b/.c.tsa".utf8] = "../a.b/.c.tsa".utf8 := by decide
  have hjoin₂ : join ["..".utf8, "a.b/.c.tsa.tsa".utf8] = "../a.b/.c.tsa.tsa".utf8 := by decide
  rw [← hjoin₁, ← hjoin₂]
  have hinner₁ : IsInner "a.b/.c.tsa".utf8 := ⟨by decide, by decide, by decide⟩
  have hinner₂ : IsInner "a.b/.c.tsa.tsa".utf8 := ⟨by decide, by decide, by decide⟩
  exact outputPath_ne (by decide) hinner₁ hinner₂ (by decide) (by decide) (by decide) []

end Build

end TensorLang
