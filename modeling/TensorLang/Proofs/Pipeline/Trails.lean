import Mathlib.Data.List.Infix
import TensorLang.Proofs.Pipeline.Workers
import TensorLang.Proofs.Trace.Nesting

/-!
# What a worker leaves behind

Whoever acts in between, a worker draws numbers of spans, tells events and shows passes to the
observer, and all of this can be read off its own changes (`Trail`). `Worker.ends_runFile` says what
it is for a file: the passes are those of the result, and the events hang on the span of the file,
or on the span around it if the level of the tracer leaves out files.

The numbers that a worker draws depend on the others. Its spans are nested if these numbers differ,
and `Crew.Leads.trail` shows that all numbers do which are drawn in a batch.
-/

namespace TensorLang

open Trace (Nesting OpenSpan Scope Session Tracer)

/-! ### Trails -/

namespace Workshop

/-- The events that are told in a change. -/
def told (c : Workshop × Workshop) : List Trace.Event :=
  c.2.session.told.drop c.1.session.told.length

/-- The numbers of spans that are drawn in a change. -/
def drawn (c : Workshop × Workshop) : List Nat :=
  List.range' (c.1.session.lastSpan + 1) (c.2.session.lastSpan - c.1.session.lastSpan)

/-- What the observer sees in a change. -/
def observed (c : Workshop × Workshop) : List (Bytes × Pass × Bool) :=
  c.2.seen.drop c.1.seen.length

theorem told_cancel (s : Workshop) : told (s, s.cancel) = [] := List.drop_length

theorem drawn_cancel (s : Workshop) : drawn (s, s.cancel) = [] := by
  simp [drawn, session, cancel]

theorem observed_cancel (s : Workshop) : observed (s, s.cancel) = [] := List.drop_length

/-- Nothing is taken back in the change. -/
structure Grows (c : Workshop × Workshop) : Prop where
  told : c.1.session.told <+: c.2.session.told
  seen : c.1.seen <+: c.2.seen
  spans : c.1.session.lastSpan ≤ c.2.session.lastSpan

/-- What comes out of changes: numbers of spans, events and what the observer sees. -/
structure Trail (own : List (Workshop × Workshop)) (numbers : List Nat)
    (events : List Trace.Event) (phases : List (Bytes × Pass × Bool)) : Prop where
  grows : ∀ c ∈ own, Grows c
  drawn : own.flatMap drawn = numbers
  told : own.flatMap told = events
  observed : own.flatMap observed = phases

namespace Trail

theorem nil : Trail [] [] [] [] := ⟨fun _ hc => (List.not_mem_nil hc).elim, rfl, rfl, rfl⟩

theorem append {own own' : List (Workshop × Workshop)} {numbers numbers' : List Nat}
    {events events' : List Trace.Event} {phases phases' : List (Bytes × Pass × Bool)}
    (h : Trail own numbers events phases) (h' : Trail own' numbers' events' phases') :
    Trail (own ++ own') (numbers ++ numbers') (events ++ events') (phases ++ phases') where
  grows c hc := (List.mem_append.mp hc).elim (h.grows c) (h'.grows c)
  drawn := by rw [List.flatMap_append, h.drawn, h'.drawn]
  told := by rw [List.flatMap_append, h.told, h'.told]
  observed := by rw [List.flatMap_append, h.observed, h'.observed]

/-- One change. -/
theorem single {s s' : Workshop} (n : Nat) {events : List Trace.Event}
    {phases : List (Bytes × Pass × Bool)} (htold : s'.session.told = s.session.told ++ events)
    (hseen : s'.seen = s.seen ++ phases)
    (hspans : s'.session.lastSpan = s.session.lastSpan + n) :
    Trail [(s, s')] (List.range' (s.session.lastSpan + 1) n) events phases := by
  refine ⟨fun c hc => ?_, ?_, ?_, ?_⟩
  · rw [List.mem_singleton.mp hc]
    exact ⟨htold ▸ List.prefix_append _ _, hseen ▸ List.prefix_append _ _, by simp [hspans]⟩
  · simp [Workshop.drawn, hspans]
  · simp [Workshop.told, htold]
  · simp [Workshop.observed, hseen]

/-- A change that concerns neither the trace nor the observer. -/
theorem quiet {s s' : Workshop} (hsession : s'.session = s.session) (hseen : s'.seen = s.seen) :
    Trail [(s, s')] [] [] [] :=
  single 0 (by simp [hsession]) (by simp [hseen]) (by simp [hsession])

end Trail

end Workshop

open Workshop (Trail)

namespace Worker

variable {t : Tracer} {own : List (Workshop × Workshop)}

theorem ends_drawSpan {id : Nat} (h : drawSpan.Ends own id) : id ≠ 0 ∧ Trail own [id] [] [] := by
  obtain ⟨s, rest, rfl, hrest⟩ := h.act
  obtain ⟨rfl, rfl⟩ := hrest.done
  refine ⟨Nat.succ_ne_zero _, .single 1 ?_ ?_ rfl⟩
  · exact (List.append_nil _).symm
  · exact (List.append_nil _).symm

theorem ends_drawSeq {seq : Nat} (h : drawSeq.Ends own seq) : Trail own [] [] [] := by
  obtain ⟨s, rest, rfl, hrest⟩ := h.act
  obtain ⟨rfl, -⟩ := hrest.done
  exact .single 0 (List.append_nil _).symm (List.append_nil _).symm rfl

theorem ends_hand {e : Trace.Event} {u : Unit} (h : (hand e).Ends own u) :
    Trail own [] [e] [] := by
  obtain ⟨s, rest, rfl, hrest⟩ := h.act
  obtain ⟨rfl, -⟩ := hrest.done
  exact .single 0 rfl (List.append_nil _).symm rfl

theorem ends_observe {path : Bytes} {pass : Pass} {isEnd : Bool} {u : Unit}
    (h : (observe path pass isEnd).Ends own u) : Trail own [] [] [(path, pass, isEnd)] := by
  obtain ⟨s, rest, rfl, hrest⟩ := h.act
  obtain ⟨rfl, -⟩ := hrest.done
  exact .single 0 (List.append_nil _).symm rfl rfl

theorem ends_tell {e : Trace.Event} {u : Unit} (h : (tell e).Ends own u) :
    ∃ seq, Trail own [] [{ e with seq }] [] := by
  obtain ⟨first, second, seq, rfl, hfirst, hsecond⟩ := h.bind
  exact ⟨seq, (ends_drawSeq hfirst).append (ends_hand hsecond)⟩

/-! ### Spans and points -/

theorem ends_begin {scope : Scope} {name : Bytes} {parent : Nat} {span : OpenSpan}
    (h : (begin t scope name parent).Ends own span) :
    if t.isActive scope then
      ∃ id seq, id ≠ 0 ∧ span = { id, parent, scope, name } ∧
        Trail own [id] [{ kind := .spanBegin, scope, id, parent, name, seq }] []
    else span = {} ∧ Trail own [] [] [] := by
  unfold begin at h
  split_ifs at h ⊢ with hactive
  · obtain ⟨first, rest, id, rfl, hdraw, hrest⟩ := h.bind
    obtain ⟨second, last, u, rfl, htell, hlast⟩ := hrest.bind
    obtain ⟨rfl, rfl⟩ := hlast.done
    obtain ⟨hid, hdrawn⟩ := ends_drawSpan hdraw
    obtain ⟨seq, htold⟩ := ends_tell htell
    rw [List.append_nil]
    exact ⟨id, seq, hid, rfl, hdrawn.append htold⟩
  · obtain ⟨rfl, rfl⟩ := h.done
    exact ⟨rfl, .nil⟩

theorem ends_finish {span : OpenSpan} {detail : Bytes} {u : Unit}
    (h : (finish span detail).Ends own u) :
    if span.isInert then Trail own [] [] []
    else ∃ seq, Trail own [] [{
      kind := .spanEnd, scope := span.scope, id := span.id, parent := span.parent
      name := span.name, detail, fields := span.fields, seq }] [] := by
  unfold finish at h
  split_ifs at h ⊢ with hinert
  · obtain ⟨rfl, -⟩ := h.done
    exact .nil
  · exact ends_tell h

/-- A span that is begun and ended, perhaps with more fields, is told twice or not at all. -/
theorem ends_span {own' : List (Workshop × Workshop)} {scope : Scope} {name detail : Bytes}
    {parent : Nat} {span : OpenSpan} {fields : Option (List (Bytes × Bytes))} {u : Unit}
    (hbegin : (begin t scope name parent).Ends own span)
    (hfinish : (finish { span with fields } detail).Ends own' u) :
    if t.isActive scope then
      ∃ b f : Trace.Event, b.Closes f ∧ span.id ≠ 0 ∧ b.id = span.id ∧ f.id = span.id ∧
        b.scope = scope ∧ b.name = name ∧ b.parent = parent ∧
        Trail own [span.id] [b] [] ∧ Trail own' [] [f] []
    else span.id = 0 ∧ Trail own [] [] [] ∧ Trail own' [] [] [] := by
  have hbegun := ends_begin hbegin
  have hended := ends_finish hfinish
  split_ifs at hbegun ⊢ with hactive
  · obtain ⟨id, seq, hid, rfl, htold⟩ := hbegun
    rw [if_neg (by simpa [OpenSpan.isInert] using hid)] at hended
    obtain ⟨seq', htold'⟩ := hended
    refine ⟨_, _, ?_, hid, ?_, ?_, ?_, ?_, ?_, htold, htold'⟩
    · exact ⟨rfl, rfl, rfl, rfl, rfl⟩
    all_goals rfl
  · obtain ⟨rfl, htold⟩ := hbegun
    exact ⟨rfl, htold, hended⟩

/-- Events that hang on one span, with the numbers of those among them that are spans. -/
structure Hangs (parent : Nat) (numbers : List Nat) (events : List Trace.Event) : Prop where
  on : ∀ e ∈ events, e.parent = parent
  nested : numbers.Nodup → Nesting [parent] numbers events

namespace Hangs

variable {parent : Nat}

theorem nil : Hangs parent [] [] := ⟨nofun, fun _ => .of_points nofun⟩

theorem append {numbers numbers' : List Nat} {events events' : List Trace.Event}
    (h : Hangs parent numbers events) (h' : Hangs parent numbers' events') :
    Hangs parent (numbers ++ numbers') (events ++ events') where
  on e he := (List.mem_append.mp he).elim (h.on e) (h'.on e)
  nested hnodup := by
    obtain ⟨hfirst, hsecond, hapart⟩ := List.nodup_append'.mp hnodup
    exact (h.nested hfirst).append (h'.nested hsecond) hapart

theorem of_points {events : List Trace.Event}
    (h : ∀ e ∈ events, e.kind = .point ∧ e.id = 0 ∧ e.parent = parent) :
    Hangs parent [] events where
  on e he := (h e he).2.2
  nested _ := .of_points fun e he =>
    ⟨(h e he).1, (h e he).2.1, List.mem_singleton.mpr (h e he).2.2⟩

end Hangs

theorem ends_point {scope : Scope} {name detail : Bytes} {parent : Nat} {u : Unit}
    (h : (point t scope name detail parent).Ends own u) :
    ∃ events, Trail own [] events [] ∧
      ∀ e ∈ events, e.kind = .point ∧ e.id = 0 ∧ e.parent = parent := by
  unfold point at h
  split_ifs at h
  · obtain ⟨seq, htold⟩ := ends_tell h
    refine ⟨_, htold, fun e he => ?_⟩
    rw [List.mem_singleton.mp he]
    exact ⟨rfl, rfl, rfl⟩
  · obtain ⟨rfl, -⟩ := h.done
    exact ⟨[], .nil, nofun⟩

theorem ends_points {parent : Nat} {ps : List (Bytes × Bytes)} {u : Unit}
    (h : (points t parent ps).Ends own u) :
    ∃ events, Trail own [] events [] ∧
      ∀ e ∈ events, e.kind = .point ∧ e.id = 0 ∧ e.parent = parent := by
  induction ps generalizing own with
  | nil =>
    obtain ⟨rfl, -⟩ := Thread.Ends.done h
    exact ⟨[], .nil, nofun⟩
  | cons p rest ih =>
    obtain ⟨first, second, v, rfl, hfirst, hsecond⟩ := Thread.Ends.bind h
    obtain ⟨events, htold, hpoints⟩ := ends_point hfirst
    obtain ⟨more, hmore, hpoints'⟩ := ih hsecond
    refine ⟨events ++ more, htold.append hmore, fun e he => ?_⟩
    exact (List.mem_append.mp he).elim (hpoints e) (hpoints' e)

/-! ### Passes -/

/-- Everything that is told in a pass hangs on the same span as the pass. -/
theorem ends_pass {path : Bytes} {parent : Nat} {step : Step} {u : Unit}
    (h : (pass t path parent step).Ends own u) :
    ∃ numbers events, Trail own numbers events (phasesOf path [step]) ∧
      Hangs parent numbers events := by
  obtain ⟨own₁, rest, span, rfl, hbegin, hrest⟩ := Thread.Ends.bind h
  obtain ⟨own₂, rest, u₂, rfl, hstart, hrest⟩ := hrest.bind
  obtain ⟨own₃, rest, u₃, rfl, hpoints, hrest⟩ := hrest.bind
  obtain ⟨own₄, own₅, u₄, rfl, hfinish, hend⟩ := hrest.bind
  obtain ⟨events, htold, hevents⟩ := ends_points hpoints
  have hspan := ends_span hbegin hfinish
  split_ifs at hspan
  · obtain ⟨b, f, hcloses, hid, hb, hf, -, -, hparent, hbegun, hended⟩ := hspan
    refine ⟨_, _, hbegun.append <| (ends_observe hstart).append <| htold.append <|
      hended.append (ends_observe hend), fun e he => ?_, fun _ => ?_⟩
    · simp only [List.cons_append, List.nil_append, List.append_nil, List.mem_cons,
        List.mem_append, List.not_mem_nil, or_false] at he
      rcases he with rfl | he | rfl
      · exact hparent
      · exact (hevents e he).2.2
      · exact hcloses.parent.trans hparent
    · have hinner : Nesting (span.id :: [parent]) [] events := .of_points fun e he =>
        ⟨(hevents e he).1, (hevents e he).2.1, by simp [(hevents e he).2.2]⟩
      have houter := hinner.span hid List.not_mem_nil hb hf hcloses (by simp [hparent])
      simpa using houter
  · obtain ⟨-, hbegun, hended⟩ := hspan
    refine ⟨_, _, hbegun.append <| (ends_observe hstart).append <| htold.append <|
      hended.append (ends_observe hend), ?_⟩
    simpa using Hangs.of_points hevents

theorem ends_passes {path : Bytes} {parent : Nat} {steps : List Step} {u : Unit}
    (h : (passes t path parent steps).Ends own u) :
    ∃ numbers events, Trail own numbers events (phasesOf path steps) ∧
      Hangs parent numbers events := by
  induction steps generalizing own with
  | nil =>
    obtain ⟨rfl, -⟩ := Thread.Ends.done h
    exact ⟨[], [], .nil, .nil⟩
  | cons step rest ih =>
    obtain ⟨first, second, v, rfl, hfirst, hsecond⟩ := Thread.Ends.bind h
    obtain ⟨numbers, events, htrail, hangs⟩ := ends_pass hfirst
    obtain ⟨numbers', events', htrail', hangs'⟩ := ih hsecond
    exact ⟨_, _, htrail.append htrail', hangs.append hangs'⟩

/-! ### Files -/

theorem ends_save {parent : Nat} {file : File} {o : RunOptions} {u : Unit}
    (h : (save t parent file o).Ends own u) :
    ∃ events, Trail own [] events [] ∧ Hangs parent [] events := by
  obtain ⟨s, rest, rfl, hrest⟩ := Thread.Ends.act h
  have hquiet : Trail [(s, { s with workspace := (s.workspace.save file o).1 })] [] [] [] :=
    .quiet (s.workspace.session_save file o) rfl
  cases hsaved : (s.workspace.save file o).2 with
  | none =>
    rw [hsaved] at hrest
    obtain ⟨rfl, -⟩ := hrest.done
    exact ⟨[], hquiet, .nil⟩
  | some failure =>
    rw [hsaved] at hrest
    obtain ⟨events, htold, hpoints⟩ := ends_point hrest
    exact ⟨events, hquiet.append htold, .of_points hpoints⟩

/-- The result of a file is stored, or it is what the passes make. -/
def IsResult (file : File) (o : RunOptions) (r : RunResult) : Prop :=
  (∃ p, r = .ofPayload file o p) ∨ r = .ofOutcome file o (compileFile file o)

theorem ends_body {path : Bytes} {parent : Nat} {file : File} {o : RunOptions} {r : RunResult}
    (h : (body t path parent file o).Ends own r) :
    IsResult file o r ∧ ∃ numbers events, Trail own numbers events (phasesOf path r.steps) ∧
      Hangs parent numbers events := by
  obtain ⟨first, rest, stored, rfl, hlook, hrest⟩ := Thread.Ends.bind h
  obtain ⟨s, rfl, hstored⟩ := hlook.look
  have hquiet : Trail [(s, s)] [] [] [] := .quiet rfl rfl
  cases stored with
  | some p =>
    obtain ⟨second, last, u, rfl, hpoint, hlast⟩ := hrest.bind
    obtain ⟨rfl, rfl⟩ := hlast.done
    obtain ⟨events, htold, hpoints⟩ := ends_point hpoint
    rw [List.append_nil]
    exact ⟨.inl ⟨p, rfl⟩, [], events, hquiet.append htold, .of_points hpoints⟩
  | none =>
    obtain ⟨second, last, u, rfl, hpasses, hrest⟩ := hrest.bind
    obtain ⟨third, last, u', rfl, hsave, hlast⟩ := hrest.bind
    obtain ⟨rfl, rfl⟩ := hlast.done
    obtain ⟨numbers, events, htrail, hangs⟩ := ends_passes hpasses
    obtain ⟨more, hmore, hangs'⟩ := ends_save hsave
    have hall := hquiet.append (htrail.append hmore)
    rw [List.nil_append, List.nil_append, List.nil_append, List.append_nil (phasesOf _ _)] at hall
    rw [List.append_nil]
    exact ⟨.inr rfl, _, _, hall, hangs.append hangs'⟩

/-- The events of the file `name` under the span `around`: its passes hang on the span of the file,
or on `around` if the level of the tracer leaves out files. -/
structure FileTrace (t : Tracer) (around : Nat) (name : Bytes) (numbers : List Nat)
    (events : List Trace.Event) : Prop where
  nested : numbers.Nodup → Nesting [around] numbers events
  passes : ∀ e ∈ events, e.scope = .pass →
    if t.isActive .file then
      ∃ b ∈ events, b.kind = .spanBegin ∧ b.scope = .file ∧ b.name = name ∧ b.id = e.parent
    else e.parent = around

theorem FileTrace.nil (t : Tracer) (around : Nat) (name : Bytes) :
    FileTrace t around name [] [] := ⟨Hangs.nil.nested, nofun⟩

/-- **What a worker does with a file**, whoever acts in between. -/
theorem ends_runFile {path : Bytes} {around : Nat} {file : File} {o : RunOptions} {r : RunResult}
    (h : (runFile t path around file o).Ends own r) :
    IsResult file o r ∧ ∃ numbers events, Trail own numbers events (phasesOf path r.steps) ∧
      FileTrace t around file.path numbers events := by
  obtain ⟨own₁, rest, span, rfl, hbegin, hrest⟩ := Thread.Ends.bind h
  obtain ⟨own₂, rest, r', rfl, hbody, hrest⟩ := hrest.bind
  obtain ⟨own₃, last, u, rfl, hfinish, hlast⟩ := hrest.bind
  obtain ⟨rfl, rfl⟩ := hlast.done
  obtain ⟨hresult, numbers, events, htrail, hangs⟩ := ends_body hbody
  obtain ⟨fields, hfields⟩ : ∃ fields,
      span.withField "diags".utf8 (Decimal.ofNat r'.bag.items.length) = { span with fields } := by
    unfold OpenSpan.withField
    split
    · exact ⟨span.fields, rfl⟩
    · exact ⟨_, rfl⟩
  rw [hfields] at hfinish
  have hspan := ends_span hbegin hfinish
  rw [List.append_nil]
  refine ⟨hresult, ?_⟩
  split_ifs at hspan with hactive
  · obtain ⟨b, f, hcloses, hid, hb, hf, hscope, hname, hparent, hbegun, hended⟩ := hspan
    have hall := hbegun.append (htrail.append hended)
    rw [if_neg (by simpa [OpenSpan.isInert] using hid)] at hangs
    rw [List.nil_append, List.append_nil, List.append_nil] at hall
    refine ⟨_, _, hall, fun hnodup => ?_, fun e he hpass => ?_⟩
    · -- the number of the span is drawn before the body, which cannot draw it again
      have hstack : [span.id] ⊆ span.id :: [around] := by simp
      have hinner := (hangs.nested (List.nodup_cons.mp hnodup).2).mono hstack
      exact hinner.span hid (List.nodup_cons.mp hnodup).1 hb hf hcloses (by simp [hparent])
    · rw [if_pos hactive]
      refine ⟨b, by simp, hcloses.begins, hscope, hname, ?_⟩
      simp only [List.cons_append, List.nil_append, List.mem_cons, List.mem_append,
        List.not_mem_nil, or_false] at he
      rcases he with rfl | he | rfl
      · rw [hscope] at hpass
        cases hpass
      · exact hb.trans (hangs.on e he).symm
      · rw [hcloses.scope, hscope] at hpass
        cases hpass
  · obtain ⟨hid, hbegun, hended⟩ := hspan
    have hall := hbegun.append (htrail.append hended)
    rw [if_pos (by simpa [OpenSpan.isInert] using hid)] at hangs
    simp only [List.nil_append, List.append_nil] at hall
    refine ⟨_, _, hall, hangs.nested, fun e he _ => ?_⟩
    rw [if_neg hactive]
    exact hangs.on e he

end Worker

open Worker (FileTrace IsResult)

/-- What the observer sees of a file that was run, or that was not. -/
def phasesOfAnswer : Option FileRun → List (Bytes × Pass × Bool)
  | some r => r.phases
  | none => []

/-- **What the worker of a file does**, whoever acts in between. -/
theorem Batch.ends_worker {t : Tracer} {around : Nat} {fs : FileSet} {o : RunOptions} {path : Bytes}
    {loaded : Except Storage.Failure Nat} {own : List (Workshop × Workshop)}
    {a : Option FileRun} (h : (worker t around fs o path loaded).Ends own a) :
    (∃ numbers events, Trail own numbers events (phasesOfAnswer a) ∧
      ∀ name, (∀ id file, loaded = .ok id → fs.get? id = some file → file.path = name) →
        FileTrace t around name numbers events) ∧
    ∀ r, a = some r → r.path = path ∧ ∀ result, r.result = some result →
      r.bag = result.bag ∧
      ∃ id file, loaded = .ok id ∧ fs.get? id = some file ∧ IsResult file o result := by
  obtain ⟨first, rest, stop, rfl, hlook, hrest⟩ := Thread.Ends.bind h
  obtain ⟨s, rfl, -⟩ := hlook.look
  have hquiet : Trail [(s, s)] [] [] [] := .quiet rfl rfl
  cases stop with
  | true =>
    obtain ⟨rfl, rfl⟩ := Thread.Ends.done hrest
    exact ⟨⟨[], [], hquiet, fun name _ => .nil t around name⟩, nofun⟩
  | false =>
    cases loaded with
    | error f =>
      obtain ⟨rfl, rfl⟩ := Thread.Ends.done hrest
      refine ⟨⟨[], [], hquiet, fun name _ => .nil t around name⟩, ?_⟩
      rintro r ⟨⟩
      exact ⟨rfl, nofun⟩
    | ok id =>
      simp only [Bool.false_eq_true, if_false] at hrest
      cases hfile : fs.get? id with
      | none =>
        rw [hfile] at hrest
        obtain ⟨rfl, rfl⟩ := Thread.Ends.done hrest
        refine ⟨⟨[], [], hquiet, fun name _ => .nil t around name⟩, ?_⟩
        rintro r ⟨⟩
        exact ⟨rfl, nofun⟩
      | some file =>
        rw [hfile] at hrest
        obtain ⟨second, rest, stop, rfl, hlook, hrest⟩ := Thread.Ends.bind hrest
        obtain ⟨s', rfl, -⟩ := hlook.look
        have hquiet' : Trail [(s', s')] [] [] [] := .quiet rfl rfl
        cases stop with
        | true =>
          obtain ⟨rfl, rfl⟩ := Thread.Ends.done hrest
          exact ⟨⟨[], [], hquiet.append hquiet', fun name _ => .nil t around name⟩, nofun⟩
        | false =>
          obtain ⟨third, last, r, rfl, hrun, hlast⟩ := Thread.Ends.bind hrest
          obtain ⟨rfl, rfl⟩ := hlast.done
          obtain ⟨hresult, numbers, events, htrail, htrace⟩ := Worker.ends_runFile hrun
          rw [List.append_nil]
          have hall := hquiet.append (hquiet'.append htrail)
          refine ⟨⟨numbers, events, hall, fun name hname => ?_⟩, ?_⟩
          · rw [← hname id file rfl hfile]
            exact htrace
          · rintro _ ⟨⟩
            refine ⟨rfl, ?_⟩
            rintro result ⟨⟩
            exact ⟨rfl, id, file, rfl, hfile, hresult⟩

/-! ### All workers together -/

/-- **What comes out of a batch** is what comes out of its changes, and no number is drawn twice. -/
theorem Crew.Leads.trail {s s' : Workshop} {past : List (Option Nat × Workshop × Workshop)}
    (h : Leads s past s') (hgrows : ∀ x ∈ past, Workshop.Grows x.2) :
    s'.session.told = s.session.told ++ (past.map Prod.snd).flatMap Workshop.told ∧
      s'.seen = s.seen ++ (past.map Prod.snd).flatMap Workshop.observed ∧
      s.session.lastSpan ≤ s'.session.lastSpan ∧
      (past.map Prod.snd).flatMap Workshop.drawn =
        List.range' (s.session.lastSpan + 1) (s'.session.lastSpan - s.session.lastSpan) := by
  induction past generalizing s with
  | nil =>
    obtain rfl : s = s' := h
    simp
  | cons x rest ih =>
    obtain ⟨who, before, after⟩ := x
    obtain ⟨rfl, hrest⟩ := h
    obtain ⟨htold, hseen, hspans⟩ := hgrows _ List.mem_cons_self
    obtain ⟨ihtold, ihseen, ihspans, ihdrawn⟩ :=
      ih hrest fun x hx => hgrows x (List.mem_cons_of_mem _ hx)
    rw [List.map_cons, List.flatMap_cons, List.flatMap_cons, List.flatMap_cons, ihdrawn,
      ← List.append_assoc, ← List.append_assoc]
    refine ⟨?_, ?_, Nat.le_trans hspans ihspans, ?_⟩
    · rw [ihtold, Workshop.told, ← List.prefix_append_drop htold]
    · rw [ihseen, Workshop.observed, ← List.prefix_append_drop hseen]
    · -- numbers come from one counter, so the next change goes on where this one stops
      simp only at hspans
      have hstart : after.session.lastSpan + 1 = before.session.lastSpan + 1 +
          (after.session.lastSpan - before.session.lastSpan) := by omega
      have hlength : after.session.lastSpan - before.session.lastSpan +
          (s'.session.lastSpan - after.session.lastSpan) =
          s'.session.lastSpan - before.session.lastSpan := by omega
      rw [Workshop.drawn, hstart, List.range'_append_1]
      exact congrArg (List.range' _) hlength

/-- A batch by a schedule, from the first action of a worker to the last. -/
structure Ran (w : Workspace) (paths : List Bytes) (o : RunOptions) (b : ScheduledBatch)
    (s s' : Workshop) : Prop where
  start : s.workspace = { w with session := w.beginBatch.1 }
  unseen : s.seen = []
  workspace : b.workspace = w.finishBatch paths s'.workspace
  seen : b.seen = s'.seen
  leads : Crew.Leads s b.past s'
  outside : ∀ x ∈ b.past, x.1 = none → x.2.2 = x.2.1.cancel
  inside : ∀ x ∈ b.past, ∀ i, x.1 = some i → i < paths.length
  length : b.answers.length = paths.length
  ends : ∀ i path, paths[i]? = some path → ∃ loaded a,
    (w.loadBatch paths).2[i]? = some loaded ∧ b.answers[i]? = some a ∧
    (Batch.worker w.session.tracer w.beginBatch.2.id (w.loadBatch paths).1 o path loaded).Ends
      (Crew.byThread i b.past) a

/-- A file that was read has the path that it was read from. -/
theorem Workspace.path_of_loadBatch {w : Workspace} {paths : List Bytes} {path : Bytes}
    {i id : Nat} {file : File} (hpath : paths[i]? = some path)
    (hloaded : (w.loadBatch paths).2[i]? = some (.ok id))
    (hfile : (w.loadBatch paths).1.get? id = some file) : file.path = Path.clean path := by
  cases hread : w.tree.read path with
  | error f =>
    have herror := Batch.loadAll_of_error (FileSet.ofTree w.tree) hpath hread
    cases hloaded.symm.trans herror
  | ok content =>
    obtain ⟨hid, hget⟩ := Batch.loadAll_of_read (FileSet.ofTree w.tree) hpath hread
    obtain rfl : id = _ := Except.ok.inj (Option.some.inj (hloaded.symm.trans hid))
    obtain rfl : file = _ := Option.some.inj (hfile.symm.trans hget)
    rfl

theorem Workspace.exists_ran {w : Workspace} {paths : List Bytes} {isCancelled : Bool}
    {o : RunOptions} {schedule : List (Option Nat)} {b : ScheduledBatch}
    (h : w.runFilesBy paths isCancelled o schedule = some b) : ∃ s s', Ran w paths o b s s' := by
  obtain ⟨answers, hdone, rfl⟩ := Option.map_eq_some_iff.mp h
  have hwork := Crew.goes_run Workshop.cancel (w.crew paths isCancelled o).state
    (w.crew paths isCancelled o).threads schedule
  have hloaded : (w.loadBatch paths).2.length = paths.length := Batch.length_loadAll ..
  have hthreads : (w.crew paths isCancelled o).threads.length = paths.length := by
    simp [crew, hloaded]
  obtain ⟨hlength, hends⟩ := hwork.ends hdone
  refine ⟨_, _, rfl, rfl, rfl, rfl, hwork.leads, hwork.outside, ?_, hlength.trans hthreads,
    fun i path hpath => ?_⟩
  · exact fun x hx i hi => hthreads ▸ hwork.inside x hx i hi
  · obtain ⟨hi, -⟩ := List.getElem?_eq_some_iff.mp hpath
    have hitem : (w.loadBatch paths).2[i]? = some (w.loadBatch paths).2[i] :=
      List.getElem?_eq_getElem (hloaded ▸ hi)
    have hthread : (w.crew paths isCancelled o).threads[i]? = some (Batch.worker w.session.tracer
        w.beginBatch.2.id (w.loadBatch paths).1 o path (w.loadBatch paths).2[i]) := by
      have hpair : (paths.zip (w.loadBatch paths).2)[i]? = some (path, (w.loadBatch paths).2[i]) :=
        List.getElem?_zip_eq_some.mpr ⟨hpath, hitem⟩
      rw [crew, List.getElem?_map, hpair]
      rfl
    obtain ⟨a, ha, hown⟩ := hends i _ hthread
    exact ⟨_, a, hitem, ha, hown⟩

namespace Ran

variable {w : Workspace} {paths : List Bytes} {o : RunOptions} {b : ScheduledBatch}
  {s s' : Workshop}

/-- What the worker of a path leaves behind. -/
theorem trail (h : Ran w paths o b s s') (i : Nat) :
    ∃ numbers events, Trail (Crew.byThread i b.past) numbers events
        ((b.answers[i]?.map phasesOfAnswer).getD []) ∧
      FileTrace w.session.tracer w.beginBatch.2.id (Path.clean (paths[i]?.getD [])) numbers
        events := by
  cases hpath : paths[i]? with
  | none =>
    have hi := List.getElem?_eq_none_iff.mp hpath
    have hown : Crew.byThread i b.past = [] := by
      refine List.filterMap_eq_nil_iff.mpr fun x hx => if_neg fun hwho => ?_
      exact absurd (h.inside x hx i hwho) (Nat.not_lt.mpr hi)
    have hanswer : b.answers[i]? = none := List.getElem?_eq_none (h.length ▸ hi)
    rw [hown, hanswer]
    exact ⟨[], [], .nil, .nil ..⟩
  | some path =>
    obtain ⟨loaded, a, hloaded, ha, hends⟩ := h.ends i path hpath
    obtain ⟨⟨numbers, events, htrail, htrace⟩, -⟩ := Batch.ends_worker hends
    rw [ha]
    refine ⟨numbers, events, htrail, htrace _ fun id file hid hfile => ?_⟩
    subst hid
    exact Workspace.path_of_loadBatch hpath hloaded hfile

theorem grows (h : Ran w paths o b s s') : ∀ x ∈ b.past, Workshop.Grows x.2 := by
  rintro ⟨who, before, after⟩ hx
  cases who with
  | none =>
    obtain rfl : after = before.cancel := h.outside _ hx rfl
    exact ⟨List.prefix_rfl, List.prefix_rfl, Nat.le_refl _⟩
  | some i =>
    obtain ⟨numbers, events, htrail, -⟩ := h.trail i
    exact htrail.grows _ (Crew.mem_byThread.mpr hx)

/-- Only workers leave anything behind. -/
theorem exists_worker (h : Ran w paths o b s s') {β : Type} (out : Workshop × Workshop → List β)
    (hcancel : ∀ s : Workshop, out (s, s.cancel) = []) {x : Option Nat × β}
    (hx : x ∈ Crew.tagged out b.past) : ∃ i, x.1 = some i := by
  obtain ⟨⟨who, before, after⟩, hy, hwho, hout⟩ := Crew.mem_tagged.mp hx
  cases who with
  | some i => exact ⟨i, hwho.symm⟩
  | none =>
    obtain rfl : after = before.cancel := h.outside _ hy rfl
    rw [hcancel] at hout
    cases hout

end Ran

end TensorLang
