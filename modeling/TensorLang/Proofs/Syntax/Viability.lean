import TensorLang.Proofs.Syntax.Canonical
import TensorLang.Proofs.Syntax.Complaints
import TensorLang.Proofs.Syntax.Expectations
import TensorLang.Proofs.Syntax.Extension
import TensorLang.Proofs.Syntax.Places
import TensorLang.Proofs.Syntax.Triples

/-!
# Errors stand as far to the left as they can

A text that is no program, and in which no literal is wrong in itself, gets one error. It stands
where the text ceases to be the beginning of a program: up to there it can be completed, with
anything that the error calls expected, and from there on it cannot
(`Program.parse_error_viable`). Texts end at `2 ^ 32` bytes, though, and an error so close to the
limit that nothing more can be written behind it promises too much
(`Program.parse_error_viable_limit`).

The log of a failed reading is collected over all alternatives that were tried and given up. That
all expectations at the furthest place are honest is `Program.parse_of_expected`; that nothing
behind the furthest place was decisive is `Program.parse_append_of_settled`.
-/

namespace TensorLang

/-- Statements are read until there are no more, so a failed reading has looked for the end. -/
theorem Grammar.exists_expected_of_stmts {c : Cursor} (h : (stmts c).value = none) :
    ∃ pos label, .expected pos label ∈ (stmts c).log := by
  obtain h | ⟨list, c', hread, h⟩ := Reader.bind_eq_none.mp h
  · exact absurd h (Reader.many_ne_none stmt c)
  · obtain h | ⟨_, _, -, h⟩ := Reader.bind_eq_none.mp h
    · refine ⟨c'.pos, .endOfInput, Reader.mem_log_bind.mpr (.inr ⟨list, c', hread, ?_⟩)⟩
      exact Reader.mem_log_bind.mpr (.inl (Reader.mem_log_atEnd.mpr ⟨h, rfl⟩))
    · cases h

/-- What was looked for up to a place inside the text is settled there. -/
theorem Complaint.settled_of_le {text : Bytes} {pos far : Nat} {label : Label} (hle : pos ≤ far)
    (hlt : far < text.length) (hdot : text.drop far ≠ ".".utf8) :
    (expected pos label).Settled text := by
  have hlen : (text.drop pos).length = text.length - pos := List.length_drop
  refine ⟨?_, ?_⟩
  · rw [← List.length_pos_iff]
    omega
  · intro heq
    have hone : (".".utf8 : Bytes).length = 1 := by decide
    have hpos : pos = far := by
      rw [heq, hone] at hlen
      omega
    exact hdot (hpos ▸ heq)

/-- A rejected literal is always explained, so a mismatch blames none. -/
theorem LiteralProblem.message_ne_nil (problem : LiteralProblem) : problem.message ≠ [] := by
  cases problem with
  | int32 digits =>
    have hlead : "integer literal ".utf8 ++ digits ≠ [] :=
      List.append_ne_nil_of_left_ne_nil (by decide) _
    exact List.append_ne_nil_of_left_ne_nil hlead _
  | dimension digits =>
    have hlead : "dimension ".utf8 ++ digits ≠ [] :=
      List.append_ne_nil_of_left_ne_nil (by decide) _
    exact List.append_ne_nil_of_left_ne_nil hlead _
  | dtype word => exact List.append_ne_nil_of_left_ne_nil (by decide) _

namespace ParseError

variable {file : Nat} {text : Bytes} {log : List Complaint}

/-- If no error blames a literal, none was rejected. -/
theorem rejections_eq_nil
    (h : ∀ x ∈ (ofLog file text log).errors, ∀ problem : LiteralProblem,
      x.problem ≠ problem.message) : Complaint.rejections log = [] := by
  cases hrejections : Complaint.rejections log with
  | nil => rfl
  | cons first more =>
    have hfirst : first ∈ Complaint.rejections log := hrejections ▸ List.mem_cons_self
    obtain ⟨span, problem, -, rfl⟩ := Complaint.mem_of_rejections hfirst
    simp only [ofLog, hrejections] at h
    exact absurd rfl (h _ List.mem_cons_self problem)

/-- If no literal was rejected but something was looked for in vain, the error is a mismatch at the
furthest place. -/
theorem ofLog_eq_mismatch {pos : Nat} {label : Label} (hrejections : Complaint.rejections log = [])
    (hmem : .expected pos label ∈ log) :
    ∃ far labels, Complaint.IsFurthest log (some (far, labels)) ∧ ofLog file text log =
      ⟨.mismatch ⟨file, far, far + coveredBytes (text.drop far)⟩ (labels.map Label.text)
        (foundAt text far), []⟩ := by
  have hfurthest := Complaint.isFurthest_furthest log
  cases hfar : Complaint.furthest log with
  | none =>
    rw [hfar] at hfurthest
    exact absurd hmem (hfurthest pos label)
  | some best =>
    obtain ⟨far, labels⟩ := best
    rw [hfar] at hfurthest
    exact ⟨far, labels, hfurthest, by simp only [ofLog, hrejections, hfar]⟩

end ParseError

namespace Program

variable {file : Nat} {text : Bytes} {e : ParseError}

/-- A text that is refused without a rejected literal: the error is a mismatch, up to whose place
the text can be completed, and which is there for good unless it is at the end. -/
theorem exists_mismatch (hvalid : Utf8.isValid text = true) (herror : parse file text = .error e)
    (hrejections :
      Complaint.rejections (Grammar.stmts (Cursor.start file text).skipBlanks).log = []) :
    ∃ start stop labels found,
      e = ⟨.mismatch ⟨file, start, stop⟩ (labels.map Label.text) found, []⟩ ∧ labels ≠ [] ∧
      (∀ label ∈ labels, ∃ w, label.Opens w ∧ w.length ≤ 7 ∧
        ∃ p, parse file (text.take start ++ w) = .ok p) ∧
      (start < text.length → text.drop start ≠ ".".utf8 →
        ∀ more p, parse file (text ++ more) ≠ .ok p) := by
  obtain ⟨hnone, rfl⟩ := of_parse_eq_error herror
  obtain ⟨pos, label, hmem⟩ := Grammar.exists_expected_of_stmts hnone
  obtain ⟨far, labels, ⟨hne, hlabels, hfar⟩, he⟩ := ParseError.ofLog_eq_mismatch hrejections hmem
  refine ⟨far, _, labels, _, he, hne, fun label hlabel => ?_, fun hlt hdot => ?_⟩
  · exact parse_of_expected (hlabels label hlabel)
  · refine parse_append_of_settled hvalid herror fun k hk => ?_
    cases k with
    | expected pos label => exact Complaint.settled_of_le (hfar pos label hk) hlt hdot
    | rejected span problem =>
      exact absurd hk (Complaint.not_mem_of_rejections_eq_nil hrejections span problem)

/-- **Errors stand as far to the left as they can.** If a well-formed text is refused and no literal
is to blame, there is a single error, a mismatch. For each of the things that are called expected
there are seven bytes at most that begin with it, and with them behind its place the text is read as
a program, unless it comes to `2 ^ 32` bytes. If the place lies inside the text, and no single dot
is left that could become a pair, then no text that begins with the whole text is a program. -/
theorem parse_error_viable (hvalid : Utf8.isValid text = true)
    (herror : parse? file text = some (.error e))
    (hliteral : ∀ x ∈ e.errors, ∀ problem : LiteralProblem, x.problem ≠ problem.message) :
    ∃ start stop labels found,
      e = ⟨.mismatch ⟨file, start, stop⟩ (labels.map Label.text) found, []⟩ ∧ labels ≠ [] ∧
      (∀ label ∈ labels, ∃ w, label.Opens w ∧ w.length ≤ 7 ∧
        ((text.take start ++ w).length < 2 ^ 32 →
          ∃ p, parse? file (text.take start ++ w) = some (.ok p))) ∧
      (start < text.length → text.drop start ≠ ".".utf8 →
        ∀ more p, parse? file (text ++ more) ≠ some (.ok p)) := by
  have hparse := (of_parse?_eq_some herror).1
  have hrejections :
      Complaint.rejections (Grammar.stmts (Cursor.start file text).skipBlanks).log = [] := by
    obtain ⟨-, rfl⟩ := of_parse_eq_error hparse
    exact ParseError.rejections_eq_nil hliteral
  obtain ⟨start, stop, labels, found, he, hne, hgoes, hends⟩ :=
    exists_mismatch hvalid hparse hrejections
  refine ⟨start, stop, labels, found, he, hne, fun label hlabel => ?_, fun hlt hdot more p hp => ?_⟩
  · obtain ⟨w, hopens, hlength, p, hp⟩ := hgoes label hlabel
    exact ⟨w, hopens, hlength, fun hlt => ⟨p, parse?_eq_ok_iff.mpr ⟨hp, hlt⟩⟩⟩
  · exact hends hlt hdot more p (parse?_eq_ok_iff.mp hp).1

/-- After the first dimension there may be another one, or the value, or the end of a range; a
second number fits none of these. -/
theorem parse_error_viable_pair :
    Utf8.isValid "[1 2];".utf8 = true ∧
    ∃ labels : List Label, parse? 0 "[1 2];".utf8 =
      some (.error ⟨.mismatch ⟨0, 3, 4⟩ (labels.map Label.text) "'2'".utf8, []⟩) ∧
      labels.map Label.text = ["'x'".utf8, "';'".utf8, "'..'".utf8] ∧
      (∀ label ∈ labels, ∃ w, label.Opens w ∧ ∃ p, parse? 0 ("[1 ".utf8 ++ w) = some (.ok p)) ∧
      ∀ more p, parse? 0 ("[1 2];".utf8 ++ more) ≠ some (.ok p) := by
  have hvalid : Utf8.isValid "[1 2];".utf8 = true := by decide +kernel
  have herror : parse? 0 "[1 2];".utf8 =
      some (.error ⟨.mismatch ⟨0, 3, 4⟩ ["'x'".utf8, "';'".utf8, "'..'".utf8] "'2'".utf8, []⟩) := by
    decide +kernel
  obtain ⟨start, stop, labels, found, he, -, hgoes, hends⟩ :=
    parse_error_viable hvalid herror fun x hx problem => by
      obtain rfl := List.mem_singleton.mp hx
      exact problem.message_ne_nil.symm
  simp only [ParseError.mk.injEq, SyntaxError.mismatch.injEq, Span.mk.injEq, and_true] at he
  obtain ⟨⟨-, rfl, rfl⟩, hlabels, rfl⟩ := he
  refine ⟨hvalid, labels, hlabels ▸ herror, hlabels.symm, fun label hlabel => ?_,
    hends (by decide) (by decide)⟩
  obtain ⟨w, hopens, hlength, hread⟩ := hgoes label hlabel
  have hshort : ("[1 2];".utf8.take 3 ++ w).length < 2 ^ 32 := by
    have hthree : ("[1 2];".utf8.take 3).length = 3 := by decide
    rw [List.length_append, hthree]
    omega
  exact ⟨w, hopens, hread hshort⟩

/-- A dot at the end is refused like any other sign, but it can become a pair. -/
example : (parse 0 "[1.".utf8).isOk = false ∧ (parse 0 "[1..2];".utf8).isOk = true := by
  decide +kernel

end Program

/-! ### Texts without semicolons or brackets -/

namespace Grammar

open Reader

variable {file : Nat} {text : Bytes}

/-- A program ends in a semicolon, up to blanks. -/
theorem Sentence.semicolon_mem {stmts : List Stmt} (h : Sentence file text stmts)
    (hblanks : ¬ Text.Blanks text) : 59 ∈ text := by
  obtain ⟨ls, hlaid, hls⟩ := h
  have hsemi : ∃ semi, ⟨.semicolon, semi⟩ ∈ ls := by
    cases hls with
    | nil =>
      cases hlaid with
      | nil hw => exact absurd hw hblanks
    | cons hstmt _ => cases hstmt with
      | @eval _ _ semi => exact ⟨semi, by simp⟩
      | @assign _ _ _ _ semi => exact ⟨semi, by simp⟩
  obtain ⟨semi, hmem⟩ := hsemi
  obtain ⟨before, after, rfl, -⟩ := hlaid.eq_append_of_mem hmem
  have hsign : (59 : UInt8) ∈ Terminal.semicolon.text := by decide
  simp [hsign]

/-- Nothing but an expectation. -/
private def Mild (k : Complaint) : Prop := ∃ pos label, k = .expected pos label

/-- No bracket is opened ahead. -/
private def Bare (c : Cursor) : Prop := 91 ∉ c.rest

private theorem Bare.advance {c : Cursor} (h : Bare c) (n : Nat) : Bare (c.advance n) :=
  fun hmem => h (List.mem_of_mem_drop hmem)

private theorem triple_sign (sign : String) : Triple Mild Bare (token sign) Bare := by
  refine Triple.padded ?_ (fun _ h => h.advance _) fun _ h => h.advance _
  refine ⟨fun c _ k hk => ⟨_, _, (mem_log_exactly.mp hk).2⟩, fun c c' s hc h => ?_⟩
  obtain ⟨-, -, rfl⟩ := exactly_eq_some.mp h
  exact hc.advance _

/-- What begins with a bracket ends there. -/
private theorem triple_bracket {α : Type} {f : Span → Reader α} :
    Triple Mild Bare (token "[" >>= f) Bare := by
  have hopen : Triple Mild Bare (token "[") fun _ => False := by
    refine ⟨(triple_sign "[").log, fun c c' s hc h => ?_⟩
    rw [token, value_padded] at h
    obtain ⟨⟨s, c₁⟩, hread, -⟩ := Option.map_eq_some_iff.mp h
    obtain ⟨⟨rest, hrest⟩, -⟩ := exactly_eq_some.mp hread
    have hbare : Bare c.skipBlanks := hc.advance _
    exact hbare (hrest ▸ List.mem_append_left rest (by decide))
  exact hopen.bind fun _ => ⟨fun _ h => h.elim, fun _ _ _ h => h.elim⟩

private theorem triple_letters : Triple Mild Bare word Bare := by
  refine ⟨fun c _ k hk => ⟨_, _, (mem_log_run.mp hk).2⟩, fun c c' w hc h => ?_⟩
  obtain ⟨b, bs, tail, -, -, -, -, rfl⟩ := run_eq_some h
  exact hc.advance _

private theorem triple_product : Triple Mild Bare expr Bare := by
  have hatom : Triple Mild Bare atom Bare := by
    have hname : Triple Mild Bare nameRef Bare := triple_letters.bind fun _ => triple_pure _
    exact ((triple_bracket.orElse (triple_bracket.orElse hname)).located id).padded
      (fun _ h => h.advance _) fun _ h => h.advance _
  refine hatom.bind fun first => (Triple.many ?_).bind fun factors => triple_pure _
  exact (triple_sign "*").bind fun op => hatom.bind fun rhs => triple_pure _

/-- Literals stand in brackets only, so without a bracket none is rejected. -/
theorem rejections_eq_nil_of_not_mem (h : 91 ∉ text) (file : Nat) :
    Complaint.rejections (stmts (Cursor.start file text).skipBlanks).log = [] := by
  have heval : Triple Mild Bare evalStmt Bare :=
    triple_product.bind fun value => (triple_sign ";").bind fun semi => triple_pure _
  have hassign : Triple Mild Bare assignStmt Bare := by
    refine ((triple_letters.located Spanned.mk).padded (fun _ h => h.advance _)
      fun _ h => h.advance _).bind fun n => (triple_sign "=").bind fun _ => ?_
    exact triple_product.bind fun value => (triple_sign ";").bind fun semi => triple_pure _
  have hstmt : Triple Mild Bare stmt Bare :=
    ((heval.orElse hassign).located id).padded (fun _ h => h.advance _) fun _ h => h.advance _
  have hend : Triple Mild Bare atEnd Bare := by
    refine ⟨fun c _ k hk => ⟨_, _, (mem_log_atEnd.mp hk).2⟩, fun c c' u hc h => ?_⟩
    obtain ⟨-, rfl⟩ := atEnd_eq_some.mp h
    exact hc
  have hstmts : Triple Mild Bare stmts Bare :=
    hstmt.many.bind fun _ => hend.bind fun _ => triple_pure _
  have hstart : Bare (Cursor.start file text) := h
  refine List.eq_nil_iff_forall_not_mem.mpr fun x hx => ?_
  obtain ⟨span, problem, hlog, -⟩ := Complaint.mem_of_rejections hx
  obtain ⟨pos, label, heq⟩ := hstmts.log (hstart.advance _) _ hlog
  cases heq

end Grammar

/-! ### The longest texts -/

namespace Program

/-- A name is no program: it lacks a semicolon. -/
theorem parse_letters_ne_ok (file n : Nat) (p : Program) :
    parse file (List.replicate (n + 1) 97) ≠ .ok p := by
  intro hp
  have hblanks : ¬ Text.Blanks (List.replicate (n + 1) 97) := by
    rw [List.replicate_succ]
    exact fun h => absurd h.head_bound (by decide)
  have hmem := (parse_eq_ok_iff.mp hp).2.semicolon_mem hblanks
  exact absurd (List.eq_of_mem_replicate hmem) (by decide)

/-- The semicolon is missed behind the name. -/
theorem exists_mismatch_of_letters (file n : Nat) :
    ∃ start stop labels found,
      parse file (List.replicate (n + 1) 97) =
        .error ⟨.mismatch ⟨file, start, stop⟩ (labels.map Label.text) found, []⟩ ∧
      labels ≠ [] ∧ n + 1 ≤ start := by
  have hletter : ∀ b ∈ List.replicate (n + 1) (97 : UInt8), b = 97 := fun b hb =>
    List.eq_of_mem_replicate hb
  cases hparse : parse file (List.replicate (n + 1) 97) with
  | ok p => exact absurd hparse (parse_letters_ne_ok file n p)
  | error e =>
    have hvalid : Utf8.isValid (List.replicate (n + 1) 97) = true :=
      Utf8.isValid_of_isAscii fun b hb => hletter b hb ▸ by decide
    have hbracket : 91 ∉ List.replicate (n + 1) (97 : UInt8) := fun hmem =>
      absurd (hletter 91 hmem) (by decide)
    obtain ⟨start, stop, labels, found, rfl, hne, -, hends⟩ :=
      exists_mismatch hvalid hparse (Grammar.rejections_eq_nil_of_not_mem hbracket file)
    refine ⟨start, stop, labels, found, rfl, hne, Nat.le_of_not_lt fun hlt => ?_⟩
    -- with a semicolon the text is a program
    obtain ⟨p, hp, -⟩ := (longUse n).parse_format (writable_longUse n) file
    refine hends (by rwa [List.length_replicate]) (fun hdot => ?_) ";".utf8 p hp
    have hmem : (46 : UInt8) ∈ (List.replicate (n + 1) 97).drop start := by
      rw [hdot]
      decide
    exact absurd (hletter 46 (List.mem_of_mem_drop hmem)) (by decide)

/-- A name of `2 ^ 32 - 1` letters could go on with the things that are called expected, but no text
is read that goes on with anything. -/
theorem parse_error_viable_limit :
    Utf8.isValid (List.replicate (2 ^ 32 - 1) 97) = true ∧
    ∃ start stop labels found,
      parse? 0 (List.replicate (2 ^ 32 - 1) 97) =
        some (.error ⟨.mismatch ⟨0, start, stop⟩ (labels.map Label.text) found, []⟩) ∧
      labels ≠ [] ∧
      ∀ w p, parse? 0 ((List.replicate (2 ^ 32 - 1) 97).take start ++ w) ≠ some (.ok p) := by
  have hsize : 2 ^ 32 - 1 = (2 ^ 32 - 2) + 1 := rfl
  rw [hsize]
  generalize hn : 2 ^ 32 - 2 = n
  have hlength : (List.replicate (n + 1) (97 : UInt8)).length = n + 1 := List.length_replicate
  obtain ⟨start, stop, labels, found, hparse, hne, hstart⟩ := exists_mismatch_of_letters 0 n
  refine ⟨Utf8.isValid_of_isAscii fun b hb => List.eq_of_mem_replicate hb ▸ by decide, start, stop,
    labels, found, ?_, hne, fun w p hp => ?_⟩
  · rw [← hparse]
    exact parse?_of_lt (by omega)
  · rw [List.take_of_length_le (by omega)] at hp
    obtain ⟨hp, hshort⟩ := parse?_eq_ok_iff.mp hp
    rw [List.length_append, hlength] at hshort
    have hw : w = [] := List.length_eq_zero_iff.mp (by omega)
    rw [hw, List.append_nil] at hp
    exact parse_letters_ne_ok 0 n p hp

end Program

end TensorLang
