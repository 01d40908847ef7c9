import TensorLang.Proofs.Schedule.Threads
import TensorLang.Trace.Tracer

/-!
# Nested spans

Events are well nested if every span begins once and ends once after that, and whatever hangs on a
span is told while the span is open (`WellNested`).

`Nesting stack numbers es` says so of a part of a trace: `numbers` are the spans that begin and end
in it, and events may also hang on the spans of `stack`, which are open all the time. Parts can be
put one after the other (`Nesting.append`), into a span (`Nesting.span`), and, if they are told by
different threads, into each other (`Nesting.merge`).
-/

namespace TensorLang.Trace

/-- The span that `b` begins ends with `f`. -/
structure Event.Closes (b f : Event) : Prop where
  begins : b.kind = .spanBegin
  ends : f.kind = .spanEnd
  scope : f.scope = b.scope
  name : f.name = b.name
  parent : f.parent = b.parent

/-- The span begins in the first events and ends in the second. -/
structure OpenBetween (id : Nat) (before after : List Event) : Prop where
  begun : ∃ b ∈ before, b.kind = .spanBegin ∧ b.id = id
  ended : ∃ f ∈ after, f.kind = .spanEnd ∧ f.id = id

theorem OpenBetween.mono {id : Nat} {before before' after after' : List Event}
    (h : OpenBetween id before after) (hbefore : before ⊆ before') (hafter : after ⊆ after') :
    OpenBetween id before' after' := by
  obtain ⟨b, hb, hbegun⟩ := h.begun
  obtain ⟨f, hf, hended⟩ := h.ended
  exact ⟨⟨b, hbefore hb, hbegun⟩, ⟨f, hafter hf, hended⟩⟩

/-- All spans begin and end once, and whatever hangs on a span is told while it is open. -/
structure WellNested (es : List Event) : Prop where
  numbered : ∀ e ∈ es, e.kind = .spanBegin ∨ e.kind = .spanEnd → e.id ≠ 0
  paired : ∀ e ∈ es, e.id ≠ 0 → ∃ b f, es.filter (fun x => x.id = e.id) = [b, f] ∧ b.Closes f
  within : ∀ before e after, es = before ++ e :: after → e.parent ≠ 0 →
    OpenBetween e.parent before after

/-- A part of a trace in which the spans `numbers` begin and end while those of `stack` are open. -/
structure Nesting (stack numbers : List Nat) (es : List Event) : Prop where
  positive : ∀ id ∈ numbers, id ≠ 0
  numbered : ∀ e ∈ es, e.kind = .spanBegin ∨ e.kind = .spanEnd → e.id ≠ 0
  owned : ∀ e ∈ es, e.id ≠ 0 → e.id ∈ numbers
  paired : ∀ id ∈ numbers, ∃ b f, es.filter (fun x => x.id = id) = [b, f] ∧ b.Closes f
  within : ∀ before e after, es = before ++ e :: after →
    e.parent ∈ stack ∨ OpenBetween e.parent before after

namespace Nesting

variable {stack numbers numbers' : List Nat} {es es' : List Event}

theorem wellNested (h : Nesting [0] numbers es) : WellNested es where
  numbered := h.numbered
  paired e he hid := h.paired e.id (h.owned e he hid)
  within before e after hes hparent :=
    (h.within before e after hes).resolve_left fun hzero => hparent (List.mem_singleton.mp hzero)

theorem mono {stack' : List Nat} (h : Nesting stack numbers es) (hstack : stack ⊆ stack') :
    Nesting stack' numbers es :=
  { h with within := fun before e after hes =>
      (h.within before e after hes).imp_left fun hparent => hstack hparent }

/-- There is nothing about a span that is not here. -/
theorem filter_eq_nil (h : Nesting stack numbers es) {id : Nat} (hne : id ≠ 0)
    (hid : id ∉ numbers) : es.filter (fun x => x.id = id) = [] := by
  refine List.filter_eq_nil_iff.mpr fun e he hsame => hid ?_
  have hsame := of_decide_eq_true hsame
  exact hsame ▸ h.owned e he (hsame ▸ hne)

/-- Points begin and end nothing. -/
theorem of_points
    (h : ∀ e ∈ es, e.kind = .point ∧ e.id = 0 ∧ e.parent ∈ stack) : Nesting stack [] es where
  positive := nofun
  numbered e he hkind := by
    rw [(h e he).1] at hkind
    rcases hkind with hkind | hkind <;> cases hkind
  owned e he hid := absurd (h e he).2.1 hid
  paired := nofun
  within before e after hes := .inl (h e (hes ▸ by simp)).2.2

theorem append (h : Nesting stack numbers es) (h' : Nesting stack numbers' es')
    (hdisjoint : List.Disjoint numbers numbers') :
    Nesting stack (numbers ++ numbers') (es ++ es') where
  positive id hid := (List.mem_append.mp hid).elim (h.positive id) (h'.positive id)
  numbered e he := (List.mem_append.mp he).elim (h.numbered e) (h'.numbered e)
  owned e he hid := List.mem_append.mpr <| (List.mem_append.mp he).imp (fun he => h.owned e he hid)
    fun he => h'.owned e he hid
  paired id hid := by
    rw [List.filter_append]
    rcases List.mem_append.mp hid with hid | hid
    · rw [h'.filter_eq_nil (h.positive id hid) (hdisjoint hid), List.append_nil]
      exact h.paired id hid
    · rw [h.filter_eq_nil (h'.positive id hid) fun hid' => hdisjoint hid' hid, List.nil_append]
      exact h'.paired id hid
  within before e after hes := by
    rcases List.append_eq_append_iff.mp hes with ⟨more, rfl, hrest⟩ | ⟨more, rfl, hrest⟩
    · refine (h'.within more e after hrest).imp_right fun hopen => ?_
      exact hopen.mono (List.subset_append_right _ _) fun _ => id
    · cases more with
      | nil =>
        rw [List.nil_append] at hrest
        refine (h'.within [] e after hrest.symm).imp_right fun hopen => ?_
        exact hopen.mono (List.nil_subset _) fun _ => id
      | cons first more =>
        obtain ⟨rfl, rfl⟩ := List.cons.inj hrest
        refine (h.within before e more rfl).imp_right fun hopen => ?_
        exact hopen.mono (fun _ => id) (List.subset_append_left _ _)

/-- Everything that is told while a span is open may hang on it. -/
theorem span {id : Nat} {b f : Event} (h : Nesting (id :: stack) numbers es) (hne : id ≠ 0)
    (hid : id ∉ numbers) (hb : b.id = id) (hf : f.id = id) (hcloses : b.Closes f)
    (hparent : b.parent ∈ stack) : Nesting stack (id :: numbers) (b :: es ++ [f]) where
  positive n hn := (List.mem_cons.mp hn).elim (fun hsame => hsame ▸ hne) (h.positive n)
  numbered e he := by
    simp only [List.cons_append, List.mem_cons, List.mem_append, List.not_mem_nil, or_false] at he
    rcases he with rfl | he | rfl
    · exact fun _ => hb ▸ hne
    · exact h.numbered e he
    · exact fun _ => hf ▸ hne
  owned e he hnumber := by
    simp only [List.cons_append, List.mem_cons, List.mem_append, List.not_mem_nil, or_false] at he
    rcases he with rfl | he | rfl
    · exact List.mem_cons.mpr (.inl hb)
    · exact List.mem_cons_of_mem _ (h.owned e he hnumber)
    · exact List.mem_cons.mpr (.inl hf)
  paired n hn := by
    rw [List.filter_append]
    rcases List.mem_cons.mp hn with rfl | hn
    · refine ⟨b, f, ?_, hcloses⟩
      rw [List.filter_cons_of_pos (by simpa using hb), h.filter_eq_nil hne hid]
      simp [hf]
    · have hother : id ≠ n := fun hsame => hid (hsame ▸ hn)
      rw [List.filter_cons_of_neg (by simpa [hb] using hother)]
      simpa [hf, hother] using h.paired n hn
  within before e after hes := by
    rw [List.cons_append] at hes
    cases before with
    | nil =>
      obtain ⟨rfl, -⟩ := List.cons.inj hes
      exact .inl hparent
    | cons first before =>
      obtain ⟨rfl, htail⟩ := List.cons.inj hes
      rcases List.append_eq_append_iff.mp htail with ⟨more, rfl, hrest⟩ | ⟨more, rfl, hrest⟩
      · -- only the end of the span comes after the inner events
        obtain ⟨rfl, hlast⟩ : more = [] ∧ [f] = e :: after := by
          cases more with
          | nil => exact ⟨rfl, hrest⟩
          | cons _ more => simp at hrest
        obtain ⟨rfl, -⟩ := List.cons.inj hlast
        exact .inl (hcloses.parent ▸ hparent)
      · cases more with
        | nil =>
          obtain ⟨rfl, -⟩ := List.cons.inj (hrest.trans (List.nil_append _))
          exact .inl (hcloses.parent ▸ hparent)
        | cons inner more =>
          obtain ⟨rfl, rfl⟩ := List.cons.inj hrest
          rcases h.within before e more rfl with hstack | hopen
          · rcases List.mem_cons.mp hstack with hsame | hstack
            · refine .inr ⟨⟨b, List.mem_cons_self, hcloses.begins, hb.trans hsame.symm⟩, ?_⟩
              exact ⟨f, by simp, hcloses.ends, hf.trans hsame.symm⟩
            · exact .inl hstack
          · exact .inr (hopen.mono (List.subset_cons_self _ _) (List.subset_append_left _ _))

/-- **Threads do not get into each other's way** as long as their spans have different numbers. -/
theorem merge {told : List (Option Nat × Event)} {drawn : List (Option Nat × Nat)}
    (h : ∀ i, Nesting stack (Crew.byThread i drawn) (Crew.byThread i told))
    (hdrawn : (drawn.map Prod.snd).Nodup) (hdrawn' : ∀ x ∈ drawn, ∃ i, x.1 = some i)
    (htold : ∀ x ∈ told, ∃ i, x.1 = some i) :
    Nesting stack (drawn.map Prod.snd) (told.map Prod.snd) := by
  have hnumber : ∀ id ∈ drawn.map Prod.snd, ∃ i, id ∈ Crew.byThread i drawn := by
    intro id hid
    obtain ⟨⟨who, id⟩, hx, rfl⟩ := List.mem_map.mp hid
    obtain ⟨i, rfl⟩ := hdrawn' _ hx
    exact ⟨i, Crew.mem_byThread.mpr hx⟩
  have hevent : ∀ e ∈ told.map Prod.snd, ∃ i, e ∈ Crew.byThread i told := by
    intro e he
    obtain ⟨⟨who, e⟩, hx, rfl⟩ := List.mem_map.mp he
    obtain ⟨i, rfl⟩ := htold _ hx
    exact ⟨i, Crew.mem_byThread.mpr hx⟩
  refine ⟨fun id hid => ?_, fun e he => ?_, fun e he hne => ?_, fun id hid => ?_,
    fun before e after hes => ?_⟩
  · obtain ⟨i, hi⟩ := hnumber id hid
    exact (h i).positive id hi
  · obtain ⟨i, hi⟩ := hevent e he
    exact (h i).numbered e hi
  · obtain ⟨i, hi⟩ := hevent e he
    exact List.mem_map.mpr ⟨_, Crew.mem_byThread.mp ((h i).owned e hi hne), rfl⟩
  · obtain ⟨i, hi⟩ := hnumber id hid
    rw [Crew.filter_map_snd]
    · exact (h i).paired id hi
    · rintro ⟨who, e⟩ hx hwho
      obtain ⟨j, rfl⟩ := htold _ hx
      have hij : i ≠ j := fun hsame => hwho (congrArg some hsame.symm)
      refine decide_eq_false fun hsame => ?_
      have hmine := (h j).owned e (Crew.mem_byThread.mpr hx) (hsame ▸ (h i).positive id hi)
      exact Crew.disjoint_byThread hdrawn hij hi (hsame ▸ hmine)
  · obtain ⟨first, rest, rfl, hfirst, hrest⟩ := List.map_eq_append_iff.mp hes
    obtain ⟨x, second, rfl, rfl, hsecond⟩ := List.map_eq_cons_iff.mp hrest
    obtain ⟨i, hi⟩ := htold x (by simp)
    have hparts : Crew.byThread i (first ++ x :: second) =
        Crew.byThread i first ++ x.2 :: Crew.byThread i second := by
      rw [Crew.byThread_append, Crew.byThread_cons_of_eq hi]
    refine ((h i).within _ _ _ hparts).imp_right fun hopen => ?_
    refine hopen.mono (fun e he => ?_) fun e he => ?_
    · exact hfirst ▸ List.mem_map.mpr ⟨_, Crew.mem_byThread.mp he, rfl⟩
    · exact hsecond ▸ List.mem_map.mpr ⟨_, Crew.mem_byThread.mp he, rfl⟩

end Nesting

end TensorLang.Trace
