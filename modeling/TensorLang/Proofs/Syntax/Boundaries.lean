import TensorLang.Proofs.Syntax.Judgements
import TensorLang.Proofs.Syntax.Places
import TensorLang.Proofs.Syntax.Rejections
import TensorLang.Proofs.Syntax.Triples
import TensorLang.Proofs.Syntax.Viability
import TensorLang.Proofs.Text.Validity

/-!
# Errors stand between code points

Tokens are read byte by byte and blanks code point by code point, and a reading that was given up
leaves its complaints behind. All the same an error of a well-formed text begins and ends between
two code points, and it shows what stands there: a mismatch the code point ahead or the end of the
text, a rejected literal all digits or all letters of it (`Program.parse_error_boundaries`).

Readers are followed with a condition on the place before them and one on the place behind
(`Reader.Triple`). There are two conditions: the place lies between two code points
(`Cursor.Between`), and the byte before it is no part of a token that begins there
(`Cursor.Before`). The second one holds behind signs, which is where literals are looked for; it is
what makes a rejected literal a whole token.
-/

namespace TensorLang

/-! ### Errors and the text -/

/-- The bytes that a token of the kind goes on with. Signs are complete, and so is the end of the
text. -/
def Label.continues : Label → UInt8 → Bool
  | digit => Decimal.isDigit
  | identifier => Grammar.isNamePart
  | token _ | endOfInput => fun _ => false

theorem Label.visible_of_continues {label : Label} {b : UInt8} (h : label.continues b = true) :
    0x20 < b.toNat ∧ b.toNat < 0x80 := by
  cases label with
  | digit =>
    have := Grammar.isDigit_iff.mp h
    omega
  | identifier =>
    have := Grammar.isNamePart_iff.mp h
    omega
  | token | endOfInput => cases h

/-- What was looked for where the literal was found. -/
def LiteralProblem.label : LiteralProblem → Label
  | int32 _ | dimension _ => .digit
  | dtype _ => .identifier

namespace Span

/-- The span covers a code point of the text and nothing else. -/
def IsCode (text : Bytes) (s : Span) (code : Nat) : Prop :=
  ∃ front bytes back, Utf8.split text = front ++ (code, bytes) :: back ∧
    s.start = (front.flatMap Prod.snd).length ∧ s.stop = s.start + bytes.length

/-- The span covers a run of bytes of the class that is as long as it can be. -/
structure IsRun (text : Bytes) (cls : UInt8 → Bool) (s : Span) : Prop where
  start_lt_stop : s.start < s.stop
  stop_le : s.stop ≤ text.length
  all : ∀ b ∈ s.slice text, cls b = true
  before : ∀ b, (text.take s.start).getLast? = some b → cls b = false
  behind : ∀ b, (text.drop s.stop).head? = some b → cls b = false

end Span

/-- What an error shows is what stands under its span: of a mismatch the code point that was found,
or that the text ends; of a rejected literal the whole run of digits, or of letters, digits and
underscores. -/
def SyntaxError.Pinpoints (text : Bytes) : SyntaxError → Prop
  | mismatch span _ found =>
    span.start = text.length ∧ span.stop = text.length ∧ found = "end of input".utf8 ∨
      ∃ code, span.IsCode text code ∧ found = Quoted.code code
  | rejected span message =>
    ∃ problem : LiteralProblem, message = problem.message ∧ span.slice text = problem.text ∧
      span.IsRun text problem.label.continues

/-! ### Places between code points -/

namespace Cursor

variable {text : Bytes} {c : Cursor} {label : Label} {n : Nat}

/-- A place of a well-formed text, between two code points. -/
structure Between (text : Bytes) (c : Cursor) : Prop extends c.On text where
  text_valid : Utf8.isValid text = true
  pos_le : c.pos ≤ text.length

/-- Such a place where a token of the kind can begin, since the byte before it is none that the
token goes on with. -/
structure Before (text : Bytes) (label : Label) (c : Cursor) : Prop extends c.Between text where
  parted : ∀ b, (text.take c.pos).getLast? = some b → label.continues b = false

theorem Between.exists_split (h : c.Between text) :
    ∃ front, Utf8.split text = front ++ Utf8.split c.rest ∧
      (front.flatMap Prod.snd).length = c.pos := by
  rw [h.rest_eq]
  exact Utf8.exists_split_drop h.pos_le h.text_valid (h.rest_eq ▸ h.valid)

theorem Between.isBoundary (h : c.Between text) : Utf8.IsBoundary text c.pos := by
  obtain ⟨front, hsplit, hlength⟩ := h.exists_split
  exact ⟨front, _, hsplit, hlength⟩

theorem Between.advance (h : c.Between text) (hn : n ≤ c.rest.length)
    (hvalid : Utf8.isValid (c.rest.drop n) = true) : (c.advance n).Between text where
  toOn := h.toOn.advance hvalid
  text_valid := h.text_valid
  pos_le := by
    have hpos := h.pos_le
    rw [h.rest_eq, List.length_drop] at hn
    simp only [Cursor.advance]
    omega

/-- The byte before a place that was reached from another one. -/
theorem Between.getLast?_take_advance (h : c.Between text) (n : Nat) :
    (text.take (c.advance n).pos).getLast? =
      (c.rest.take n).getLast?.or (text.take c.pos).getLast? := by
  rw [h.rest_eq, ← List.getLast?_append, ← List.take_add]
  rfl

theorem Between.skipBlanks (h : c.Between text) : c.skipBlanks.Between text :=
  h.advance (Text.blankLength_le c.rest) (Text.isValid_drop_blankLength h.valid)

/-- The last byte of a run of blanks belongs to no token. -/
theorem Before.skipBlanks (h : c.Before text label) : c.skipBlanks.Before text label where
  toBetween := h.toBetween.skipBlanks
  parted b hb := by
    rw [Cursor.skipBlanks, h.getLast?_take_advance] at hb
    obtain hlast | ⟨-, hlast⟩ := Option.or_eq_some_iff.mp hb
    · refine Bool.eq_false_iff.mpr fun hcontinues => ?_
      have hvisible := Label.visible_of_continues hcontinues
      have hinvisible :=
        (Text.blanks_take_blankLength c.rest).invisible (List.mem_of_getLast? hlast)
      omega
    · exact h.parted b hlast

/-- Moving over ASCII text. -/
theorem Between.advance_of_isAscii {w tail : Bytes} (h : c.Between text)
    (hrest : c.rest = w ++ tail) (hw : w.IsAscii) : (c.advance w.length).Between text := by
  have hvalid := h.valid
  rw [hrest] at hvalid
  refine h.advance (by simp [hrest]) ?_
  rw [hrest, List.drop_left]
  exact Utf8.isValid_of_isAscii_append hw hvalid

end Cursor

/-- The complaint was made between two code points, and a literal that was rejected is a whole
token. -/
def Complaint.Placed (text : Bytes) : Complaint → Prop
  | expected pos _ => ∃ c : Cursor, c.Between text ∧ c.pos = pos
  | rejected span problem =>
    Utf8.IsBoundary text span.start ∧ Utf8.IsBoundary text span.stop ∧
      span.slice text = problem.text ∧ span.IsRun text problem.label.continues

/-! ### Tokens -/

namespace Reader

open Cursor (Between Before)

section

variable {text sign : Bytes} {label : Label} {first rest : UInt8 → Bool}

theorem triple_exactly (hsign : sign.IsAscii) :
    Triple (Complaint.Placed text) (Between text) (exactly sign) (Between text) where
  log c hc k hk := by
    obtain ⟨-, rfl⟩ := mem_log_exactly.mp hk
    exact ⟨c, hc, rfl⟩
  value c c' s hc h := by
    obtain ⟨⟨tail, hrest⟩, -, rfl⟩ := exactly_eq_some.mp h
    exact hc.advance_of_isAscii hrest hsign

/-- Behind a sign a token can begin, unless it goes on with bytes like the last one of the sign. -/
theorem triple_exactly_before (hsign : sign.IsAscii)
    (hparts : sign.getLast?.any (fun b => !label.continues b) = true) :
    Triple (Complaint.Placed text) (Between text) (exactly sign) (Before text label) where
  log := (triple_exactly hsign).log
  value c c' s hc h := by
    refine ⟨(triple_exactly hsign).value hc h, fun b hb => ?_⟩
    obtain ⟨⟨tail, hrest⟩, -, rfl⟩ := exactly_eq_some.mp h
    rw [hc.getLast?_take_advance, hrest, List.take_left] at hb
    obtain hlast | ⟨hlast, -⟩ := Option.or_eq_some_iff.mp hb
    · rw [hlast] at hparts
      simpa using hparts
    · rw [hlast] at hparts
      cases hparts

theorem between_of_run {c c' : Cursor} {w : Bytes} (hc : c.Between text)
    (hfirst : ∀ b, first b = true → b < 0x80) (hrest : ∀ b, rest b = true → b < 0x80)
    (h : (run label first rest c).value = some (w, c')) : c'.Between text := by
  obtain ⟨b, bs, tail, hw, hb, hbs, hsplit, rfl⟩ := run_eq_some h
  refine hc.advance_of_isAscii hsplit ?_
  rw [hw]
  exact List.forall_mem_cons.mpr ⟨hfirst b hb, fun x hx => hrest x (hbs x hx)⟩

theorem triple_run (hfirst : ∀ b, first b = true → b < 0x80)
    (hrest : ∀ b, rest b = true → b < 0x80) :
    Triple (Complaint.Placed text) (Between text) (run label first rest) (Between text) where
  log c hc k hk := by
    obtain ⟨-, rfl⟩ := mem_log_run.mp hk
    exact ⟨c, hc, rfl⟩
  value c c' w hc h := between_of_run hc hfirst hrest h

theorem triple_atEnd : Triple (Complaint.Placed text) (Between text) atEnd (Between text) where
  log c hc k hk := by
    obtain ⟨-, rfl⟩ := mem_log_atEnd.mp hk
    exact ⟨c, hc, rfl⟩
  value c c' u hc h := by
    obtain ⟨-, rfl⟩ := atEnd_eq_some.mp h
    exact hc

/-- Where a token can begin, a run is the whole token. -/
theorem isRun_of_run {c c' : Cursor} {w : Bytes} (hc : c.Before text label)
    (hc' : c'.Between text) (hfirst : ∀ b, first b = true → label.continues b = true)
    (h : (run label first label.continues c).value = some (w, c')) :
    (c.spanTo c').slice text = w ∧ (c.spanTo c').IsRun text label.continues := by
  obtain ⟨b, bs, tail, rfl, hb, hbs, hsplit, rfl⟩ := run_eq_some h
  have hslice : (c.spanTo (c.advance (b :: bs).length)).slice text = b :: bs := by
    rw [Cursor.spanTo, Cursor.advance, Span.slice, Nat.add_sub_cancel_left, ← hc.rest_eq, hsplit,
      List.take_left]
  refine ⟨hslice, Nat.lt_add_of_pos_right (Nat.succ_pos _), hc'.pos_le, ?_, hc.parted, ?_⟩
  · rw [hslice]
    exact List.forall_mem_cons.mpr ⟨hfirst b hb, hbs⟩
  · intro x hx
    refine stops_of_run h x ?_
    rwa [hc'.rest_eq]

theorem triple_literal {β : Type} {g : Bytes → Except LiteralProblem β}
    (hfirst : ∀ b, first b = true → label.continues b = true)
    (hg : ∀ w problem, g w = .error problem → problem.text = w ∧ problem.label = label) :
    Triple (Complaint.Placed text) (Before text label)
      (padded (located (convert (run label first label.continues) g) Spanned.mk))
      (Between text) := by
  have hrest : ∀ b, label.continues b = true → b < 0x80 := fun b hb => by
    simpa only [UInt8.lt_iff_toNat_lt, UInt8.reduceToNat] using (Label.visible_of_continues hb).2
  have hbetween {c c' : Cursor} {w : Bytes} (hc : c.Before text label)
      (h : (run label first label.continues c).value = some (w, c')) : c'.Between text :=
    between_of_run hc.toBetween (fun b hb => hrest b (hfirst b hb)) hrest h
  refine (Triple.located ⟨fun c hc k hk => ?_, fun c c' v hc h => ?_⟩ _).padded
    (fun _ => Before.skipBlanks) fun _ => Between.skipBlanks
  · obtain hk | ⟨w, c', problem, hread, hproblem, rfl⟩ := mem_log_convert.mp hk
    · obtain ⟨-, rfl⟩ := mem_log_run.mp hk
      exact ⟨c, hc.toBetween, rfl⟩
    · obtain ⟨htext, hlabel⟩ := hg _ _ hproblem
      obtain ⟨hslice, hrun⟩ := isRun_of_run hc (hbetween hc hread) hfirst hread
      refine ⟨hc.isBoundary, (hbetween hc hread).isBoundary, ?_, ?_⟩
      · rw [hslice, htext]
      · rwa [hlabel]
  · obtain ⟨w, hread, -⟩ := convert_eq_some h
    exact hbetween hc hread

end

end Reader

/-! ### The grammar -/

namespace Grammar

open Reader
open Cursor (Between Before)

variable {text : Bytes}

theorem triple_token {sign : String} (hsign : IsSign sign.utf8) :
    Triple (Complaint.Placed text) (Between text) (token sign) (Between text) :=
  (triple_exactly hsign.1).padded (fun _ => Between.skipBlanks) fun _ => Between.skipBlanks

theorem triple_token_before (label : Label) {sign : String} (hsign : IsSign sign.utf8)
    (hparts : sign.utf8.getLast?.any (fun b => !label.continues b) = true) :
    Triple (Complaint.Placed text) (Between text) (token sign) (Before text label) :=
  (triple_exactly_before hsign.1 hparts).padded (fun _ => Between.skipBlanks)
    fun _ => Before.skipBlanks

theorem triple_int32 :
    Triple (Complaint.Placed text) (Before text .digit) int32 (Between text) := by
  refine triple_literal (fun _ hb => hb) fun w problem hw => ?_
  rw [toInt32] at hw
  split_ifs at hw
  cases hw
  exact ⟨rfl, rfl⟩

theorem triple_dimension :
    Triple (Complaint.Placed text) (Before text .digit) dimension (Between text) := by
  refine triple_literal (fun _ hb => hb) fun w problem hw => ?_
  rw [toDimension] at hw
  split_ifs at hw
  cases hw
  exact ⟨rfl, rfl⟩

theorem triple_dtype :
    Triple (Complaint.Placed text) (Before text .identifier) dtype (Between text) := by
  refine triple_literal isNamePart_of_isNameStart fun w problem hw => ?_
  rw [toDType] at hw
  split at hw
  · cases hw
  · cases hw
    exact ⟨rfl, rfl⟩

theorem triple_word :
    Triple (Complaint.Placed text) (Between text) word (Between text) :=
  triple_run (fun b h => lt_of_isNamePart b (isNamePart_of_isNameStart b h)) lt_of_isNamePart

theorem triple_fill : Triple (Complaint.Placed text) (Between text) fill (Between text) := by
  refine (triple_token_before .digit (by decide) (by decide)).bind fun first => ?_
  refine (triple_dimension.separated (triple_token_before .digit (by decide) (by decide))
    fun _ h => h.toBetween).bind fun shape => ?_
  refine (triple_token_before .digit (by decide) (by decide)).bind fun _ => ?_
  refine triple_int32.bind fun value => ?_
  refine (((triple_token_before .identifier (by decide) (by decide)).bind fun _ =>
    triple_dtype).optional fun _ h => h).bind fun dt => ?_
  exact (triple_token (by decide)).bind fun last => triple_pure _

theorem triple_range : Triple (Complaint.Placed text) (Between text) range (Between text) := by
  refine (triple_token_before .digit (by decide) (by decide)).bind fun first => ?_
  refine triple_int32.bind fun lo => ?_
  refine (triple_token_before .digit (by decide) (by decide)).bind fun _ => ?_
  refine triple_int32.bind fun hi => ?_
  refine (((triple_token_before .digit (by decide) (by decide)).bind fun _ =>
    triple_int32).optional fun _ h => h).bind fun step => ?_
  exact (triple_token (by decide)).bind fun last => triple_pure _

theorem triple_atom : Triple (Complaint.Placed text) (Between text) atom (Between text) :=
  ((triple_fill.orElse (triple_range.orElse (triple_word.bind fun _ => triple_pure _))).located
    id).padded (fun _ => Between.skipBlanks) fun _ => Between.skipBlanks

theorem triple_expr : Triple (Complaint.Placed text) (Between text) expr (Between text) := by
  refine triple_atom.bind fun first => (Triple.many ?_).bind fun factors => triple_pure _
  exact (triple_token (by decide)).bind fun op => triple_atom.bind fun rhs => triple_pure _

theorem triple_stmt : Triple (Complaint.Placed text) (Between text) stmt (Between text) := by
  have hname : Triple (Complaint.Placed text) (Between text) name (Between text) :=
    (triple_word.located Spanned.mk).padded (fun _ => Between.skipBlanks)
      fun _ => Between.skipBlanks
  have heval : Triple (Complaint.Placed text) (Between text) evalStmt (Between text) :=
    triple_expr.bind fun value => (triple_token (by decide)).bind fun semi => triple_pure _
  have hassign : Triple (Complaint.Placed text) (Between text) assignStmt (Between text) := by
    refine hname.bind fun n => (triple_token (by decide)).bind fun _ => ?_
    exact triple_expr.bind fun value => (triple_token (by decide)).bind fun semi => triple_pure _
  exact ((heval.orElse hassign).located id).padded (fun _ => Between.skipBlanks)
    fun _ => Between.skipBlanks

theorem triple_stmts : Triple (Complaint.Placed text) (Between text) stmts (Between text) :=
  triple_stmt.many.bind fun _ => triple_atEnd.bind fun _ => triple_pure _

end Grammar

/-! ### Errors -/

namespace ParseError

/-- At a place between two code points an error covers the next one, or nothing at the end. -/
theorem coveredBytes_eq {rest : Bytes} (h : Utf8.isValid rest = true) :
    coveredBytes rest = (Utf8.decode rest).2 := by
  cases rest with
  | nil => rfl
  | cons a rest =>
    have hpos := Utf8.decode_size_pos a rest
    have hle := Utf8.decode_size_le (a :: rest)
    rw [List.length_cons] at hle
    rw [coveredBytes, Utf8.takeWhile_isTail h, List.length_take]
    omega

end ParseError

namespace Cursor

variable {text : Bytes} {c : Cursor}

/-- An error that stands between two code points ends between two code points. -/
theorem Between.advance_coveredBytes (h : c.Between text) :
    (c.advance (ParseError.coveredBytes c.rest)).Between text := by
  rw [ParseError.coveredBytes_eq h.valid]
  refine h.advance (Utf8.decode_size_le c.rest) ?_
  have hvalid := h.valid
  cases hrest : c.rest with
  | nil =>
    rw [hrest] at hvalid
    exact hvalid
  | cons a rest =>
    rw [hrest] at hvalid
    exact (Utf8.isValid_cons hvalid).2

/-- What was found between two code points is the code point ahead or the end of the text. -/
theorem Between.pinpoints (h : c.Between text) (expected : List Bytes) :
    (SyntaxError.mismatch (c.spanOf (ParseError.coveredBytes c.rest)) expected
      (ParseError.foundAt text c.pos)).Pinpoints text := by
  rw [ParseError.coveredBytes_eq h.valid, ParseError.foundAt, ← h.rest_eq]
  cases hrest : c.rest with
  | nil =>
    have hend : text.length ≤ c.pos := List.drop_eq_nil_iff.mp (h.rest_eq.symm.trans hrest)
    have hpos : c.pos = text.length := Nat.le_antisymm h.pos_le hend
    exact .inl ⟨hpos, hpos, rfl⟩
  | cons a rest =>
    obtain ⟨front, hsplit, hlength⟩ := h.exists_split
    rw [hrest, Utf8.split_cons] at hsplit
    refine .inr ⟨_, ⟨front, _, _, hsplit, hlength.symm, ?_⟩, rfl⟩
    rw [List.length_take, Nat.min_eq_left (Utf8.decode_size_le (a :: rest))]
    rfl

end Cursor

namespace Program

variable {file : Nat} {text : Bytes} {e : ParseError} {x : SyntaxError}

/-- **Errors stand between code points.** If a well-formed text is refused, then every error covers
a part of the text that begins and ends at a boundary between two code points. A mismatch covers
nothing at the end of the text and says that it is the end, or it covers one code point and quotes
it. A rejected literal covers a run of digits, or of letters, digits and underscores, that no such
byte stands next to. -/
theorem parse_error_boundaries (hvalid : Utf8.isValid text = true)
    (herror : parse file text = .error e) (hx : x ∈ e.errors) :
    x.span.start ≤ x.span.stop ∧ x.span.stop ≤ text.length ∧
      Utf8.IsBoundary text x.span.start ∧ Utf8.IsBoundary text x.span.stop ∧
      x.Pinpoints text := by
  obtain ⟨hnone, rfl⟩ := of_parse_eq_error herror
  have hstart : (Cursor.start file text).Between text := ⟨⟨rfl, hvalid⟩, hvalid, Nat.zero_le _⟩
  have hplaced := Grammar.triple_stmts.log hstart.skipBlanks
  by_cases hnil : Complaint.rejections (Grammar.stmts (Cursor.start file text).skipBlanks).log = []
  · obtain ⟨pos, label, hexpected⟩ := Grammar.exists_expected_of_stmts hnone
    obtain ⟨far, labels, ⟨hne, hlabels, -⟩, he⟩ := ParseError.ofLog_eq_mismatch hnil hexpected
    obtain ⟨label, hlabel⟩ := List.exists_mem_of_ne_nil labels hne
    obtain ⟨c, hc, rfl⟩ := hplaced _ (hlabels label hlabel)
    have hstop := hc.advance_coveredBytes
    have hpinpoints := hc.pinpoints (labels.map Label.text)
    rw [hc.rest_eq] at hstop hpinpoints
    rw [he] at hx
    obtain rfl := List.mem_singleton.mp hx
    exact ⟨Nat.le_add_right _ _, hstop.pos_le, hc.isBoundary, hstop.isBoundary, hpinpoints⟩
  · rw [ParseError.errors_ofLog hnil] at hx
    obtain ⟨span, problem, hlog, rfl⟩ := Complaint.mem_of_rejections hx
    obtain ⟨hfirst, hlast, hslice, hrun⟩ := hplaced _ hlog
    exact ⟨Nat.le_of_lt hrun.start_lt_stop, hrun.stop_le, hfirst, hlast, problem, rfl, hslice, hrun⟩

/-- The blank takes three bytes and the letter behind it two. -/
theorem parse_error_boundaries_accent :
    Utf8.isValid "a*\u2003\u00e9;".utf8 = true ∧
    parse 0 "a*\u2003\u00e9;".utf8 =
      .error ⟨.mismatch ⟨0, 5, 7⟩ ["'['".utf8, "identifier".utf8] (Quoted.code 0xE9), []⟩ ∧
    5 ≤ 7 ∧ 7 ≤ "a*\u2003\u00e9;".utf8.length ∧
    Utf8.IsBoundary "a*\u2003\u00e9;".utf8 5 ∧ Utf8.IsBoundary "a*\u2003\u00e9;".utf8 7 ∧
    (SyntaxError.mismatch ⟨0, 5, 7⟩ ["'['".utf8, "identifier".utf8] (Quoted.code 0xE9)).Pinpoints
      "a*\u2003\u00e9;".utf8 := by
  have hvalid : Utf8.isValid "a*\u2003\u00e9;".utf8 = true := by decide +kernel
  have herror : parse 0 "a*\u2003\u00e9;".utf8 =
      .error ⟨.mismatch ⟨0, 5, 7⟩ ["'['".utf8, "identifier".utf8] (Quoted.code 0xE9), []⟩ := by
    -- in steps, so that nothing looks the letter up among the printable code points
    have hnone :
        (Grammar.stmts (Cursor.start 0 "a*\u2003\u00e9;".utf8).skipBlanks).value.isNone := by
      decide +kernel
    have hrejections : Complaint.rejections
        (Grammar.stmts (Cursor.start 0 "a*\u2003\u00e9;".utf8).skipBlanks).log = [] := by
      decide +kernel
    have hfurthest : Complaint.furthest
        (Grammar.stmts (Cursor.start 0 "a*\u2003\u00e9;".utf8).skipBlanks).log =
        some (5, [.token "[".utf8, .identifier]) := by
      decide +kernel
    simp only [parse, Option.isNone_iff_eq_none.mp hnone, ParseError.ofLog, hrejections, hfurthest]
    rfl
  exact ⟨hvalid, herror, parse_error_boundaries hvalid herror List.mem_cons_self⟩

/-- The word that names no type begins behind a blank of two bytes. -/
example : parse 0 "[1;0;\u00a0f33];".utf8 =
    .error ⟨.rejected ⟨0, 7, 10⟩ (LiteralProblem.dtype "f33".utf8).message, []⟩ := by
  decide +kernel

end Program

end TensorLang
