import Mathlib.Tactic.Common
import TensorLang.Proofs.Syntax.Respan
import TensorLang.Proofs.Syntax.Tokens

/-!
# Reading a text as another file

The number of a file is copied into spans and is not looked at otherwise, so a text that is read as
another file gives the same tree or the same errors, with the spans moved over (`Relocation`). The
readings of both texts are followed side by side: `Relocation.Related` says that two readers answer
alike from the same place of both files, and is a congruence for all combinators.

Since a text can also be moved to where it is already, the same statement shows that **no span
reaches beyond the text** that it belongs to (`Relocation.clamp`).
-/

namespace TensorLang

/-- A way to move spans from one file to another. It is fixed only for spans of the first `size`
bytes of the file `source`. -/
structure Relocation where
  source : Nat
  target : Nat
  size : Nat
  map : Span → Span
  map_mk : ∀ a b, a ≤ size → b ≤ size → map ⟨source, a, b⟩ = ⟨target, a, b⟩

namespace Relocation

/-- Cuts spans off at the end of a file and moves them nowhere. -/
def clamp (file size : Nat) : Relocation where
  source := file
  target := file
  size := size
  map s := ⟨file, min s.start size, min s.stop size⟩
  map_mk a b ha hb := by rw [Nat.min_eq_left ha, Nat.min_eq_left hb]

variable (m : Relocation)

/-- The spans that are moved as they should be. -/
structure Covers (s : Span) : Prop where
  file : s.file = m.source
  start : s.start ≤ m.size
  stop : s.stop ≤ m.size

variable {m}

theorem Covers.map_eq {s : Span} (h : m.Covers s) : m.map s = ⟨m.target, s.start, s.stop⟩ := by
  obtain ⟨file, start, stop⟩ := s
  obtain rfl : file = m.source := h.file
  exact m.map_mk start stop h.start h.stop

theorem Covers.map_inj {s t : Span} (hs : m.Covers s) (ht : m.Covers t) :
    m.map s = m.map t ↔ s = t := by
  refine ⟨fun h => ?_, fun h => h ▸ rfl⟩
  rw [hs.map_eq, ht.map_eq] at h
  obtain ⟨sfile, sstart, sstop⟩ := s
  obtain ⟨tfile, tstart, tstop⟩ := t
  obtain rfl : sfile = m.source := hs.file
  obtain rfl : tfile = m.source := ht.file
  simpa using h

theorem Covers.cover {s t : Span} (hs : m.Covers s) (ht : m.Covers t) :
    m.Covers (s.cover t) ∧ (m.map s).cover (m.map t) = m.map (s.cover t) := by
  have hsame : s.file = t.file := hs.file.trans ht.file.symm
  have hcover : s.cover t = ⟨m.source, min t.start s.start, max t.stop s.stop⟩ := by
    rw [Span.cover, if_pos hsame, hs.file]
  have hcovers : m.Covers (s.cover t) := by
    rw [hcover]
    exact ⟨rfl, Nat.le_trans (Nat.min_le_right ..) hs.start, Nat.max_le.mpr ⟨ht.stop, hs.stop⟩⟩
  refine ⟨hcovers, ?_⟩
  rw [hcovers.map_eq, hs.map_eq, ht.map_eq, hcover, Span.cover, if_pos rfl]

/-- In a file that is only cut off, the spans that stay the same lie inside. -/
theorem covers_of_clamp {file size : Nat} {s : Span} (h : (clamp file size).map s = s) :
    m.source = file → m.size = size → m.Covers s := by
  rintro rfl rfl
  rw [← h]
  exact ⟨rfl, Nat.min_le_right .., Nat.min_le_right ..⟩

/-! ### Cursors and complaints -/

variable (m)

/-- Places of the file that is read. -/
structure At (c : Cursor) : Prop where
  file : c.file = m.source
  bound : c.pos + c.rest.length ≤ m.size

/-- The same place of the other file. -/
def move (c : Cursor) : Cursor := ⟨m.target, c.pos, c.rest⟩

/-- The same complaint about the other file. -/
def moveComplaint : Complaint → Complaint
  | .expected pos label => .expected pos label
  | .rejected span problem => .rejected (m.map span) problem

/-- Complaints about the file that is read. -/
def CoversComplaint : Complaint → Prop
  | .expected pos _ => pos ≤ m.size
  | .rejected span _ => m.Covers span

variable {m}

theorem At.advance {c : Cursor} (h : m.At c) {n : Nat} (hn : n ≤ c.rest.length) :
    m.At (c.advance n) := by
  refine ⟨h.file, ?_⟩
  have := h.bound
  simp only [Cursor.advance, List.length_drop]
  omega

theorem At.skipBlanks {c : Cursor} (h : m.At c) : m.At c.skipBlanks :=
  h.advance (Text.blankLength_le c.rest)

theorem At.spanOf {c : Cursor} (h : m.At c) {n : Nat} (hn : n ≤ c.rest.length) :
    m.Covers (c.spanOf n) ∧ (m.move c).spanOf n = m.map (c.spanOf n) := by
  have hbound := h.bound
  have hcovers : m.Covers (c.spanOf n) :=
    ⟨h.file, by simp only [Cursor.spanOf]; omega, by simp only [Cursor.spanOf]; omega⟩
  refine ⟨hcovers, ?_⟩
  rw [hcovers.map_eq]
  rfl

/-- A trimmed span is no longer than what was read. -/
theorem At.trimmedTo {c : Cursor} (h : m.At c) (c' : Cursor) :
    m.Covers (c.trimmedTo c') ∧ (m.move c).spanOf
      (Text.trimRight (c.rest.take (c'.pos - c.pos))).length = m.map (c.trimmedTo c') := by
  refine h.spanOf ?_
  have hle := (Text.trimRight_prefix (c.rest.take (c'.pos - c.pos))).length_le
  rw [List.length_take] at hle
  omega

/-! ### Related readers -/

variable (m) in
/-- Answers that differ by the number of the file only. -/
structure RelatedReply {α : Type} (R : α → α → Prop) (r r' : Reply α) : Prop where
  log : r'.log = r.log.map m.moveComplaint
  covers : ∀ k ∈ r.log, m.CoversComplaint k
  value : Option.Rel (fun v v' => R v.1 v'.1 ∧ m.At v.2 ∧ v'.2 = m.move v.2) r.value r'.value

variable (m) in
/-- Readers that answer alike from the same place of both files. -/
def Related {α : Type} (R : α → α → Prop) (p q : Reader α) : Prop :=
  ∀ c, m.At c → m.RelatedReply R (p c) (q (m.move c))

variable {α β : Type} {R : α → α → Prop} {S : β → β → Prop}

/-- An answer with one more beginning of the log. -/
private theorem RelatedReply.prepend {r r' : Reply α} (h : m.RelatedReply R r r')
    {log : List Complaint} (hlog : ∀ k ∈ log, m.CoversComplaint k) {fits fits' : Bool} :
    m.RelatedReply R ⟨r.value, log ++ r.log, fits⟩
      ⟨r'.value, log.map m.moveComplaint ++ r'.log, fits'⟩ where
  log := by rw [List.map_append, h.log]
  covers := by
    intro k hk
    rcases List.mem_append.mp hk with hk | hk
    · exact hlog k hk
    · exact h.covers k hk
  value := h.value

/-- Both answers hold nothing, or both hold values that belong together. -/
theorem RelatedReply.cases {r r' : Reply α} (h : m.RelatedReply R r r') :
    (∃ log fits fits', r = ⟨none, log, fits⟩ ∧ r' = ⟨none, log.map m.moveComplaint, fits'⟩ ∧
      ∀ k ∈ log, m.CoversComplaint k) ∨
    ∃ log fits fits' a a' c, r = ⟨some (a, c), log, fits⟩ ∧
      r' = ⟨some (a', m.move c), log.map m.moveComplaint, fits'⟩ ∧
      (∀ k ∈ log, m.CoversComplaint k) ∧ R a a' ∧ m.At c := by
  obtain ⟨value, log, fits⟩ := r
  obtain ⟨value', log', fits'⟩ := r'
  obtain ⟨hlog, hcovers, hvalue⟩ := h
  obtain rfl : log' = log.map m.moveComplaint := hlog
  cases hvalue with
  | none => exact .inl ⟨log, fits, fits', rfl, rfl, hcovers⟩
  | @some v v' hv =>
    obtain ⟨a, c⟩ := v
    obtain ⟨a', c'⟩ := v'
    obtain ⟨hR, hat, rfl⟩ := hv
    exact .inr ⟨log, fits, fits', a, a', c, rfl, rfl, hcovers, hR, hat⟩

theorem related_pure {a a' : α} (h : R a a') : m.Related R (pure a) (pure a') :=
  fun c hc => ⟨rfl, by simp [pure, Reader.pure], .some ⟨h, hc, rfl⟩⟩

theorem Related.bind {p q : Reader α} {k l : α → Reader β} (hp : m.Related R p q)
    (hk : ∀ a a', R a a' → m.Related S (k a) (l a')) : m.Related S (p >>= k) (q >>= l) := by
  intro c hc
  change m.RelatedReply S (Reader.bind p k c) (Reader.bind q l (m.move c))
  unfold Reader.bind
  obtain ⟨log, s, s', hpc, hqc, hlog⟩ | ⟨log, s, s', a, a', c', hpc, hqc, hlog, hR, hat⟩ :=
    (hp c hc).cases
  · rw [hpc, hqc]
    exact ⟨rfl, hlog, .none⟩
  · rw [hpc, hqc]
    exact (hk a a' hR c' hat).prepend hlog

theorem Related.orElse {p q p' q' : Reader α} (hp : m.Related R p p') (hq : m.Related R q q') :
    m.Related R (Reader.orElse p q) (Reader.orElse p' q') := by
  intro c hc
  unfold Reader.orElse
  obtain ⟨log, s, s', hpc, hqc, hlog⟩ | ⟨log, s, s', a, a', c', hpc, hqc, hlog, hR, hat⟩ :=
    (hp c hc).cases
  · rw [hpc, hqc]
    exact (hq c hc).prepend hlog
  · rw [hpc, hqc]
    exact ⟨rfl, hlog, .some ⟨hR, hat, rfl⟩⟩

theorem Related.optional {p q : Reader α} (hp : m.Related R p q) :
    m.Related (Option.Rel R) (Reader.optional p) (Reader.optional q) := by
  intro c hc
  unfold Reader.optional
  obtain ⟨log, s, s', hpc, hqc, hlog⟩ | ⟨log, s, s', a, a', c', hpc, hqc, hlog, hR, hat⟩ :=
    (hp c hc).cases
  · rw [hpc, hqc]
    exact ⟨rfl, hlog, .some ⟨.none, hc, rfl⟩⟩
  · rw [hpc, hqc]
    exact ⟨rfl, hlog, .some ⟨.some hR, hat, rfl⟩⟩

theorem Related.many {p q : Reader α} (hp : m.Related R p q) :
    m.Related (List.Forall₂ R) (Reader.many p) (Reader.many q) := by
  intro c hc
  -- by induction on the text ahead, which is the same in both files
  induction hn : c.rest.length using Nat.strongRecOn generalizing c with
  | ind n ih =>
    rw [Reader.many, Reader.many]
    obtain ⟨log, s, s', hpc, hqc, hlog⟩ | ⟨log, s, s', a, a', c', hpc, hqc, hlog, hR, hat⟩ :=
      (hp c hc).cases
    · rw [hpc, hqc]
      exact ⟨rfl, hlog, .some ⟨.nil, hc, rfl⟩⟩
    · rw [hpc, hqc]
      by_cases hlt : c'.rest.length < c.rest.length
      · have hmore := ih c'.rest.length (hn ▸ hlt) c' hat rfl
        have hcons : m.RelatedReply (List.Forall₂ R)
            ⟨(Reader.many p c').value.map fun v => (a :: v.1, v.2), (Reader.many p c').log, true⟩
            ⟨(Reader.many q (m.move c')).value.map fun v => (a' :: v.1, v.2),
              (Reader.many q (m.move c')).log, true⟩ := by
          refine ⟨hmore.log, hmore.covers, ?_⟩
          obtain ⟨log', t, t', hpc', hqc', -⟩ |
            ⟨log', t, t', as, as', c'', hpc', hqc', -, hRs, hat'⟩ := hmore.cases
          · rw [hpc', hqc']
            exact .none
          · rw [hpc', hqc']
            exact .some ⟨.cons hR hRs, hat', rfl⟩
        simp only [move, hlt, if_true]
        exact hcons.prepend hlog
      · simp only [move, hlt, if_false]
        exact ⟨rfl, hlog, .some ⟨.nil, hc, rfl⟩⟩

theorem Related.separated {γ : Type} {T : γ → γ → Prop} {p q : Reader α} {sep sep' : Reader γ}
    (hp : m.Related R p q) (hsep : m.Related T sep sep') :
    m.Related (List.Forall₂ R) (Reader.separated p sep) (Reader.separated q sep') := by
  refine hp.optional.bind fun o o' ho => ?_
  cases ho with
  | none => exact related_pure .nil
  | some hR =>
    refine (Related.many (hsep.bind fun _ _ _ => hp)).bind fun as as' has => ?_
    exact related_pure (.cons hR has)

theorem Related.padded {p q : Reader α} (hp : m.Related R p q) :
    m.Related R (Reader.padded p) (Reader.padded q) := by
  intro c hc
  unfold Reader.padded
  have hskip : (m.move c).skipBlanks = m.move c.skipBlanks := rfl
  rw [hskip]
  obtain ⟨log, s, s', hpc, hqc, hlog⟩ | ⟨log, s, s', a, a', c', hpc, hqc, hlog, hR, hat⟩ :=
    (hp c.skipBlanks hc.skipBlanks).cases
  · rw [hpc, hqc]
    exact ⟨rfl, hlog, .none⟩
  · rw [hpc, hqc]
    exact ⟨rfl, hlog, .some ⟨hR, hat.skipBlanks, rfl⟩⟩

/-! ### Tokens -/

variable (m) in
/-- A span and where it is moved. -/
def MovedSpan (s s' : Span) : Prop := m.Covers s ∧ s' = m.map s

variable (m) in
/-- A value at a place and at the place where that is moved. -/
def Moved (x x' : Spanned α) : Prop := m.Covers x.span ∧ x' = x.respan m.map

/-- One complaint at the place of the cursor. -/
private theorem relatedReply_miss {c : Cursor} (hc : m.At c) (label : Label) :
    m.RelatedReply R ⟨none, [.expected c.pos label], true⟩
      ⟨none, [.expected (m.move c).pos label], true⟩ := by
  refine ⟨rfl, fun k hk => ?_, .none⟩
  obtain rfl := List.mem_singleton.mp hk
  have := hc.bound
  simp only [CoversComplaint]
  omega

theorem related_exactly (text : Bytes) :
    m.Related m.MovedSpan (Reader.exactly text) (Reader.exactly text) := by
  intro c hc
  unfold Reader.exactly
  by_cases h : Bytes.startsWith c.rest text = true
  · have hlen : text.length ≤ c.rest.length := by
      obtain ⟨rest, hrest⟩ := Bytes.startsWith_iff.mp h
      rw [hrest, List.length_append]
      exact Nat.le_add_right ..
    simp only [move, h, if_true]
    exact ⟨rfl, by simp, .some ⟨hc.spanOf hlen, hc.advance hlen, rfl⟩⟩
  · simp only [move, h]
    exact relatedReply_miss hc _

theorem related_run (label : Label) (first rest : UInt8 → Bool) :
    m.Related Eq (Reader.run label first rest) (Reader.run label first rest) := by
  intro c hc
  unfold Reader.run
  have hmove : (m.move c).rest = c.rest := rfl
  rw [hmove]
  cases hrest : c.rest with
  | nil => exact relatedReply_miss hc label
  | cons b bs =>
    by_cases h : first b = true
    · have hlen : (b :: bs.takeWhile rest).length ≤ c.rest.length := by
        rw [hrest, List.length_cons, List.length_cons]
        exact Nat.succ_le_succ (List.takeWhile_prefix rest).length_le
      simp only [h, if_true]
      exact ⟨rfl, by simp, .some ⟨rfl, hc.advance hlen, rfl⟩⟩
    · simp only [h]
      exact relatedReply_miss hc label

theorem Related.convert {p q : Reader α} (hp : m.Related Eq p q)
    (f : α → Except LiteralProblem β) :
    m.Related Eq (Reader.convert p f) (Reader.convert q f) := by
  intro c hc
  unfold Reader.convert
  obtain ⟨log, s, s', hpc, hqc, hlog⟩ | ⟨log, s, s', a, _, c', hpc, hqc, hlog, rfl, hat⟩ :=
    (hp c hc).cases
  · rw [hpc, hqc]
    exact ⟨rfl, hlog, .none⟩
  · rw [hpc, hqc]
    dsimp only
    cases f a with
    | ok b => exact ⟨rfl, hlog, .some ⟨rfl, hat, rfl⟩⟩
    | error problem =>
      have hcovers : m.Covers (c.spanTo c') := by
        have := hc.bound
        have := hat.bound
        exact ⟨hc.file, by simp only [Cursor.spanTo]; omega, by simp only [Cursor.spanTo]; omega⟩
      refine ⟨?_, fun k hk => ?_, .none⟩
      · simp only [List.map_append, List.map_cons, List.map_nil, moveComplaint, hcovers.map_eq]
        rfl
      · rcases List.mem_append.mp hk with hk | hk
        · exact hlog k hk
        · obtain rfl := List.mem_singleton.mp hk
          exact hcovers

theorem Related.located {p q : Reader α} {f g : α → Span → β} (hp : m.Related R p q)
    (hf : ∀ a a' s, R a a' → m.Covers s → S (f a s) (g a' (m.map s))) :
    m.Related S (Reader.located p f) (Reader.located q g) := by
  intro c hc
  unfold Reader.located
  obtain ⟨log, s, s', hpc, hqc, hlog⟩ | ⟨log, s, s', a, a', c', hpc, hqc, hlog, hR, hat⟩ :=
    (hp c hc).cases
  · rw [hpc, hqc]
    exact ⟨rfl, hlog, .none⟩
  · rw [hpc, hqc]
    obtain ⟨hcovers, hmap⟩ := hc.trimmedTo c'
    have hspan : (m.move c).trimmedTo (m.move c') = m.map (c.trimmedTo c') := hmap
    exact ⟨rfl, hlog, .some ⟨hspan ▸ hf a a' _ hR hcovers, hat, rfl⟩⟩

theorem related_atEnd : m.Related (fun _ _ => True) Reader.atEnd Reader.atEnd := by
  intro c hc
  unfold Reader.atEnd
  have hmove : (m.move c).rest = c.rest := rfl
  rw [hmove]
  cases c.rest with
  | nil => exact ⟨rfl, by simp, .some ⟨trivial, hc, rfl⟩⟩
  | cons b bs => exact relatedReply_miss hc .endOfInput

end Relocation

end TensorLang
