import Mathlib.Data.List.Nodup
import TensorLang.Schedule

/-!
# What threads do

The threads of a crew share its state, so what one of them sees depends on the others.

* `Thread.run` is what becomes of the state if nobody else acts.
* `Thread.Goes` is what a thread does, as a list of changes, whatever the others do in between.
* `Crew.goes_run`: in every schedule each thread does something that it can do. Its share of the
  changes is `Crew.byThread`.
* `Crew.tagged` lists what comes out of the changes with who did it.
* `Crew.exists_finish`: every schedule can be gone on with until all threads are done.
-/

namespace TensorLang

namespace Thread

variable {σ α β : Type}

/-- What becomes of the state and the answer if nobody else acts. -/
def run : Thread σ α → σ → σ × α
  | done a, s => (s, a)
  | act change next, s => (next s).run (change s)

@[simp]
theorem run_pure (a : α) (s : σ) : (pure a : Thread σ α).run s = (s, a) := rfl

@[simp]
theorem run_look (f : σ → α) (s : σ) : (look f).run s = (s, f s) := rfl

@[simp]
theorem run_bind (t : Thread σ α) (k : α → Thread σ β) (s : σ) :
    (t >>= k).run s = (k (t.run s).2).run (t.run s).1 := by
  induction t generalizing s with
  | done a => rfl
  | act change next ih => exact ih s (change s)

/-! ### What a thread does -/

/-- The thread does the changes, each from a state to a state, and is then at `t`. -/
inductive Goes : Thread σ α → List (σ × σ) → Thread σ α → Prop
  | stay (t : Thread σ α) : Goes t [] t
  | act {change : σ → σ} {next : σ → Thread σ α} {s : σ} {own : List (σ × σ)} {t : Thread σ α}
      (rest : Goes (next s) own t) : Goes (.act change next) ((s, change s) :: own) t

/-- The thread does the changes and is done. -/
def Ends (t : Thread σ α) (own : List (σ × σ)) (a : α) : Prop := t.Goes own (done a)

theorem Goes.concat {t : Thread σ α} {own : List (σ × σ)} {change : σ → σ}
    {next : σ → Thread σ α} (h : t.Goes own (.act change next)) (s : σ) :
    t.Goes (own ++ [(s, change s)]) (next s) := by
  generalize hlast : Thread.act change next = last at h
  induction h with
  | stay t =>
    subst hlast
    exact .act (.stay _)
  | act rest ih => exact .act (ih hlast)

theorem Ends.done {a b : α} {own : List (σ × σ)} (h : (Thread.done a : Thread σ α).Ends own b) :
    own = [] ∧ a = b := by
  cases h
  exact ⟨rfl, rfl⟩

theorem Ends.act {change : σ → σ} {next : σ → Thread σ α} {own : List (σ × σ)} {a : α}
    (h : (Thread.act change next).Ends own a) :
    ∃ s rest, own = (s, change s) :: rest ∧ (next s).Ends rest a := by
  cases h with
  | act rest => exact ⟨_, _, rfl, rest⟩

/-- What a thread in two parts does is what the first part does and then the second. -/
theorem Ends.bind {t : Thread σ α} {k : α → Thread σ β} {own : List (σ × σ)} {b : β}
    (h : (t >>= k).Ends own b) :
    ∃ first second a, own = first ++ second ∧ t.Ends first a ∧ (k a).Ends second b := by
  induction t generalizing own with
  | done a => exact ⟨[], own, a, rfl, .stay _, h⟩
  | act change next ih =>
    obtain ⟨s, rest, rfl, hrest⟩ := Ends.act h
    obtain ⟨first, second, a, rfl, hfirst, hsecond⟩ := ih s hrest
    exact ⟨(s, change s) :: first, second, a, rfl, Goes.act hfirst, hsecond⟩

theorem Ends.look {f : σ → α} {own : List (σ × σ)} {a : α} (h : (look f).Ends own a) :
    ∃ s, own = [(s, s)] ∧ a = f s := by
  obtain ⟨s, rest, rfl, hrest⟩ := Ends.act h
  obtain ⟨rfl, rfl⟩ := Ends.done hrest
  exact ⟨s, rfl, rfl⟩

end Thread

/-! ### What a crew does -/

namespace Crew

variable {σ α : Type}

/-- The share of one thread in things that are listed with who did them. -/
def byThread {β : Type} (i : Nat) (xs : List (Option Nat × β)) : List β :=
  xs.filterMap fun x => if x.1 = some i then some x.2 else none

/-- The changes lead from one state to the other. -/
def Leads : σ → List (Option Nat × σ × σ) → σ → Prop
  | s, [], s' => s = s'
  | s, (_, before, after) :: rest, s' => before = s ∧ Leads after rest s'

theorem Leads.concat {s s' : σ} {past : List (Option Nat × σ × σ)} (h : Leads s past s')
    (who : Option Nat) (s'' : σ) : Leads s (past ++ [(who, s', s'')]) s'' := by
  induction past generalizing s with
  | nil =>
    cases h
    exact ⟨rfl, rfl⟩
  | cons x rest ih => exact ⟨h.1, ih h.2⟩

/-- A thread that nobody disturbs leads to the state in which it ends. -/
theorem exists_ends (t : Thread σ α) (s : σ) (who : Option Nat) :
    ∃ own, t.Ends own (t.run s).2 ∧ Leads s (own.map fun c => (who, c)) (t.run s).1 := by
  induction t generalizing s with
  | done a => exact ⟨[], .stay _, rfl⟩
  | act change next ih =>
    obtain ⟨own, hends, hleads⟩ := ih s (change s)
    exact ⟨(s, change s) :: own, Thread.Goes.act hends, rfl, hleads⟩

/-- What holds of a crew at work: each thread has done something that it can do, and nothing else
has changed the state but the outside. -/
structure Working (outside : σ → σ) (s : σ) (threads : List (Thread σ α)) (c : Crew σ α) :
    Prop where
  leads : Leads s c.past c.state
  length : c.threads.length = threads.length
  goes : ∀ (i : Nat) (t : Thread σ α), threads[i]? = some t →
    ∃ t', c.threads[i]? = some t' ∧ t.Goes (byThread i c.past) t'
  outside : ∀ x ∈ c.past, x.1 = none → x.2.2 = outside x.2.1
  inside : ∀ x ∈ c.past, ∀ i, x.1 = some i → i < threads.length

theorem Working.move {outside : σ → σ} {s : σ} {threads : List (Thread σ α)} {c : Crew σ α}
    (h : c.Working outside s threads) (who : Option Nat) :
    (c.move outside who).Working outside s threads := by
  cases who with
  | none =>
    refine ⟨h.leads.concat _ _, h.length, fun i t ht => ?_, fun x hx hwho => ?_,
      fun x hx i hi => ?_⟩
    · obtain ⟨t', ht', hgoes⟩ := h.goes i t ht
      refine ⟨t', ht', ?_⟩
      simpa [Crew.move, changed, byThread] using hgoes
    · rcases List.mem_append.mp hx with hx | hx
      · exact h.outside x hx hwho
      · rw [List.mem_singleton.mp hx]
    · rcases List.mem_append.mp hx with hx | hx
      · exact h.inside x hx i hi
      · rw [List.mem_singleton.mp hx] at hi
        cases hi
  | some j =>
    rw [Crew.move]
    unfold advance
    split
    case h_2 => exact h
    case h_1 change next hj =>
    obtain ⟨hlt, -⟩ := List.getElem?_eq_some_iff.mp hj
    refine ⟨h.leads.concat _ _, (List.length_set ..).trans h.length, fun i t ht => ?_,
      fun x hx hwho => ?_, fun x hx i hi => ?_⟩
    · -- the share of the thread that acts gets longer, and the shares of the others stay
      obtain ⟨t', ht', hgoes⟩ := h.goes i t ht
      by_cases hij : j = i
      · subst hij
        obtain rfl : Thread.act change next = t' := Option.some.inj (hj.symm.trans ht')
        refine ⟨next c.state, List.getElem?_set_self hlt, ?_⟩
        simpa [changed, byThread] using hgoes.concat c.state
      · refine ⟨t', (List.getElem?_set_ne hij).trans ht', ?_⟩
        simpa [changed, byThread, hij] using hgoes
    · rcases List.mem_append.mp hx with hx | hx
      · exact h.outside x hx hwho
      · rw [List.mem_singleton.mp hx] at hwho
        cases hwho
    · rcases List.mem_append.mp hx with hx | hx
      · exact h.inside x hx i hi
      · rw [List.mem_singleton.mp hx] at hi
        cases hi
        exact h.length ▸ hlt

/-- **What a crew does**, in every schedule. -/
theorem goes_run (outside : σ → σ) (s : σ) (threads : List (Thread σ α))
    (schedule : List (Option Nat)) :
    (run outside ⟨s, threads, []⟩ schedule).Working outside s threads := by
  have hstart : (⟨s, threads, []⟩ : Crew σ α).Working outside s threads :=
    ⟨rfl, rfl, fun i t ht => ⟨t, ht, .stay t⟩, nofun, nofun⟩
  unfold run
  generalize (⟨s, threads, []⟩ : Crew σ α) = c at hstart
  induction schedule generalizing c with
  | nil => exact hstart
  | cons who rest ih => exact ih _ (hstart.move who)

theorem answers?_eq_some {c : Crew σ α} {answers : List α} :
    c.answers? = some answers ↔ c.threads = answers.map .done := by
  unfold answers?
  induction c.threads generalizing answers with
  | nil => cases answers <;> simp
  | cons t rest ih =>
    rw [List.mapM_cons]
    cases t with
    | done a => cases answers <;> simp [Thread.answer?, Option.bind_eq_some_iff, ih, and_comm]
    | act change next => cases answers <;> simp [Thread.answer?]

/-- If all are done, each thread has come to its answer. -/
theorem Working.ends {outside : σ → σ} {s : σ} {threads : List (Thread σ α)} {c : Crew σ α}
    (h : c.Working outside s threads) {answers : List α} (hdone : c.answers? = some answers) :
    answers.length = threads.length ∧
      ∀ (i : Nat) (t : Thread σ α), threads[i]? = some t →
        ∃ a, answers[i]? = some a ∧ t.Ends (byThread i c.past) a := by
  have hall := answers?_eq_some.mp hdone
  refine ⟨?_, fun i t ht => ?_⟩
  · rw [← h.length, hall, List.length_map]
  · obtain ⟨t', ht', hgoes⟩ := h.goes i t ht
    rw [hall, List.getElem?_map, Option.map_eq_some_iff] at ht'
    obtain ⟨a, ha, rfl⟩ := ht'
    exact ⟨a, ha, hgoes⟩

/-! ### Who did what -/

section Tagged

variable {β : Type}

/-- What comes out of the changes, each thing with who did it. -/
def tagged (out : σ × σ → List β) (past : List (Option Nat × σ × σ)) : List (Option Nat × β) :=
  past.flatMap fun x => (out x.2).map fun b => (x.1, b)

theorem byThread_append (i : Nat) (xs ys : List (Option Nat × β)) :
    byThread i (xs ++ ys) = byThread i xs ++ byThread i ys := List.filterMap_append

theorem byThread_cons_of_eq {i : Nat} {x : Option Nat × β} (h : x.1 = some i)
    (rest : List (Option Nat × β)) : byThread i (x :: rest) = x.2 :: byThread i rest :=
  List.filterMap_cons_some (if_pos h)

theorem byThread_cons_of_ne {i : Nat} {x : Option Nat × β} (h : x.1 ≠ some i)
    (rest : List (Option Nat × β)) : byThread i (x :: rest) = byThread i rest :=
  List.filterMap_cons_none (if_neg h)

theorem mem_byThread {i : Nat} {xs : List (Option Nat × β)} {b : β} :
    b ∈ byThread i xs ↔ (some i, b) ∈ xs := by
  unfold byThread
  rw [List.mem_filterMap]
  constructor
  · rintro ⟨⟨who, b'⟩, hx, h⟩
    split_ifs at h with hwho
    cases h
    exact hwho ▸ hx
  · exact fun h => ⟨(some i, b), h, if_pos rfl⟩

theorem mem_tagged {out : σ × σ → List β} {past : List (Option Nat × σ × σ)}
    {x : Option Nat × β} :
    x ∈ tagged out past ↔ ∃ y ∈ past, y.1 = x.1 ∧ x.2 ∈ out y.2 := by
  unfold tagged
  rw [List.mem_flatMap]
  refine exists_congr fun y => and_congr_right fun _ => ?_
  rw [List.mem_map]
  constructor
  · rintro ⟨b, hb, rfl⟩
    exact ⟨rfl, hb⟩
  · rintro ⟨hwho, hx⟩
    exact ⟨x.2, hx, Prod.ext hwho rfl⟩

theorem map_snd_tagged (out : σ × σ → List β) (past : List (Option Nat × σ × σ)) :
    (tagged out past).map Prod.snd = (past.map Prod.snd).flatMap out := by
  simp [tagged, List.map_flatMap, List.flatMap_map, Function.comp_def]

/-- What a thread did is what comes out of its changes. -/
theorem byThread_tagged (out : σ × σ → List β) (past : List (Option Nat × σ × σ)) (i : Nat) :
    byThread i (tagged out past) = (byThread i past).flatMap out := by
  induction past with
  | nil => rfl
  | cons x rest ih =>
    have hcons : tagged out (x :: rest) =
        (out x.2).map (fun b => (x.1, b)) ++ tagged out rest := rfl
    rw [hcons, byThread_append, ih]
    by_cases hwho : x.1 = some i
    · rw [byThread_cons_of_eq hwho, List.flatMap_cons]
      simp [byThread, hwho]
    · rw [byThread_cons_of_ne hwho]
      simp [byThread, hwho]

/-- Whatever only one thread does can be looked for among the things of that thread. -/
theorem filter_map_snd {xs : List (Option Nat × β)} {i : Nat} {P : β → Bool}
    (h : ∀ x ∈ xs, x.1 ≠ some i → P x.2 = false) :
    (xs.map Prod.snd).filter P = (byThread i xs).filter P := by
  induction xs with
  | nil => rfl
  | cons x rest ih =>
    have hrest := ih fun y hy => h y (List.mem_cons_of_mem _ hy)
    by_cases hwho : x.1 = some i
    · rw [byThread_cons_of_eq hwho, List.map_cons, List.filter_cons, List.filter_cons, hrest]
    · have hnot : ¬ P x.2 = true := by
        rw [h x List.mem_cons_self hwho]
        exact Bool.false_ne_true
      rw [byThread_cons_of_ne hwho, List.map_cons, List.filter_cons_of_neg hnot, hrest]

/-- Different threads have different things if there are no repetitions at all. -/
theorem disjoint_byThread {xs : List (Option Nat × β)} (h : (xs.map Prod.snd).Nodup) {i j : Nat}
    (hij : i ≠ j) : List.Disjoint (byThread i xs) (byThread j xs) := by
  intro b hi hj
  have hsame := List.inj_on_of_nodup_map h (mem_byThread.mp hi) (mem_byThread.mp hj) rfl
  exact hij (Option.some.inj (congrArg Prod.fst hsame))

theorem nodup_byThread {xs : List (Option Nat × β)} (h : (xs.map Prod.snd).Nodup) (i : Nat) :
    (byThread i xs).Nodup := by
  induction xs with
  | nil => exact List.nodup_nil
  | cons x rest ih =>
    rw [List.map_cons, List.nodup_cons] at h
    by_cases hwho : x.1 = some i
    · rw [byThread_cons_of_eq hwho, List.nodup_cons]
      refine ⟨fun hmem => h.1 ?_, ih h.2⟩
      exact List.mem_map.mpr ⟨_, mem_byThread.mp hmem, rfl⟩
    · rw [byThread_cons_of_ne hwho]
      exact ih h.2

end Tagged

/-! ### One after the other -/

/-- Runs threads one after the other. -/
def inOrder : List (Thread σ α) → σ → σ × List α
  | [], s => (s, [])
  | t :: rest, s => ((inOrder rest (t.run s).1).1, (t.run s).2 :: (inOrder rest (t.run s).1).2)

theorem run_append (outside : σ → σ) (c : Crew σ α) (first second : List (Option Nat)) :
    c.run outside (first ++ second) = (c.run outside first).run outside second :=
  List.foldl_append ..

/-- A thread can act until it is done while the others wait. -/
theorem exists_run (outside : σ → σ) (before after : List (Thread σ α)) (t : Thread σ α) (s : σ)
    (past : List (Option Nat × σ × σ)) :
    ∃ schedule past', run outside ⟨s, before ++ t :: after, past⟩ schedule =
      ⟨(t.run s).1, before ++ .done (t.run s).2 :: after, past'⟩ := by
  induction t generalizing s past with
  | done a => exact ⟨[], past, rfl⟩
  | act change next ih =>
    obtain ⟨schedule, past', hrun⟩ :=
      ih s (change s) (past ++ [(some before.length, s, change s)])
    refine ⟨some before.length :: schedule, past', ?_⟩
    have hmove : move outside ⟨s, before ++ .act change next :: after, past⟩
        (some before.length) =
        ⟨change s, before ++ next s :: after, past ++ [(some before.length, s, change s)]⟩ := by
      simp [move, advance, changed]
    rw [run, List.foldl_cons, hmove]
    exact hrun

/-- **Threads can run one after the other.** -/
theorem exists_inOrder (outside : σ → σ) (before : List (Thread σ α))
    (threads : List (Thread σ α)) (s : σ) (past : List (Option Nat × σ × σ)) :
    ∃ schedule past', run outside ⟨s, before ++ threads, past⟩ schedule =
      ⟨(inOrder threads s).1, before ++ (inOrder threads s).2.map .done, past'⟩ := by
  induction threads generalizing before s past with
  | nil => exact ⟨[], past, rfl⟩
  | cons t rest ih =>
    obtain ⟨first, past₁, hfirst⟩ := exists_run outside before rest t s past
    obtain ⟨second, past₂, hsecond⟩ :=
      ih (before ++ [.done (t.run s).2]) (t.run s).1 past₁
    refine ⟨first ++ second, past₂, ?_⟩
    rw [run_append, hfirst, ← List.append_cons] at *
    rw [hsecond, List.append_assoc]
    rfl

/-- **Every schedule can be finished.** -/
theorem exists_finish (outside : σ → σ) (c : Crew σ α) (schedule : List (Option Nat)) :
    ∃ more answers, (c.run outside (schedule ++ more)).answers? = some answers := by
  generalize hmid : c.run outside schedule = mid
  obtain ⟨more, past, hmore⟩ := exists_inOrder outside [] mid.threads mid.state mid.past
  refine ⟨more, (inOrder mid.threads mid.state).2, ?_⟩
  rw [run_append, hmid]
  exact answers?_eq_some.mpr (congrArg threads hmore)

end Crew

end TensorLang
