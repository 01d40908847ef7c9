import Mathlib.Data.List.Nodup
import TensorLang.Proofs.Emit.Lowered
import TensorLang.Proofs.Syntax.Writable
import TensorLang.Proofs.Text.Decimal

/-!
# Tokens can be read in one way

The tokens of a command tell the command, and where they end (`Lowered.separates_commands`). From
the inside out: a call tells by its constructor how many arguments follow, the name of a variable is
not the qualifier of a call, what follows an operand is an operator or the end of the command, and
the mark behind the first token tells a declaration from an update.

This takes values as programs give them (`Value.Proper`) and constructors with names of their own
(`Target.Distinct`).
-/

namespace TensorLang

/-! ### Codes that tell where they end -/

/-- The code of an element tells the element and where the code ends. -/
def Separates {α β : Type} (code : α → List β) (P : α → Prop) : Prop :=
  ∀ ⦃a b : α⦄ ⦃xs ys : List β⦄, P a → P b → code a ++ xs = code b ++ ys → a = b ∧ xs = ys

/-- So does the code of a list, as long as no code begins where it ends. -/
theorem Separates.flatMap {α β : Type} {code : α → List β} {P : α → Prop} (h : Separates code P)
    {as bs : List α} {xs ys : List β} (has : ∀ a ∈ as, P a) (hbs : ∀ b ∈ bs, P b)
    (hxs : ∀ a, P a → ∀ zs, code a ++ zs ≠ xs) (hys : ∀ a, P a → ∀ zs, code a ++ zs ≠ ys)
    (heq : as.flatMap code ++ xs = bs.flatMap code ++ ys) : as = bs ∧ xs = ys := by
  induction as generalizing bs with
  | nil =>
    cases bs with
    | nil => exact ⟨rfl, heq⟩
    | cons b bs =>
      rw [List.flatMap_cons, List.append_assoc] at heq
      exact absurd heq.symm (hxs b (hbs b List.mem_cons_self) _)
  | cons a as ih =>
    have ha := has a List.mem_cons_self
    cases bs with
    | nil =>
      rw [List.flatMap_cons, List.append_assoc] at heq
      exact absurd heq (hys a ha _)
    | cons b bs =>
      rw [List.flatMap_cons, List.flatMap_cons, List.append_assoc, List.append_assoc] at heq
      obtain ⟨rfl, hmore⟩ := h ha (hbs b List.mem_cons_self) heq
      obtain ⟨rfl, hrest⟩ := ih (fun a ha => has a (List.mem_cons_of_mem _ ha))
        (fun b hb => hbs b (List.mem_cons_of_mem _ hb)) hmore
      exact ⟨rfl, hrest⟩

theorem intersperse_cons_eq {α : Type} (sep a : α) (as : List α) :
    (a :: as).intersperse sep = a :: as.flatMap fun b => [sep, b] := by
  induction as generalizing a with
  | nil => rfl
  | cons b bs ih => exact congrArg (a :: sep :: ·) (ih b)

/-- A list with a separator tells its elements, up to a token that is neither one of them nor the
separator. -/
theorem intersperse_append_inj {α : Type} {sep stop : α} (hstop : sep ≠ stop) {as bs xs ys : List α}
    (has : ∀ a ∈ as, a ≠ stop) (hbs : ∀ b ∈ bs, b ≠ stop)
    (h : as.intersperse sep ++ stop :: xs = bs.intersperse sep ++ stop :: ys) :
    as = bs ∧ xs = ys := by
  have hpairs : Separates (fun b : α => [sep, b]) fun _ => True := by
    intro a b xs ys _ _ hab
    simpa using hab
  have hends : ∀ zs, ∀ a : α, True → ∀ ws, [sep, a] ++ ws ≠ stop :: zs := by
    intro zs a _ ws hzs
    exact hstop (List.cons.inj hzs).1
  cases as with
  | nil =>
    cases bs with
    | nil => exact ⟨rfl, (List.cons.inj h).2⟩
    | cons b bs =>
      rw [intersperse_cons_eq] at h
      exact absurd (List.cons.inj h).1.symm (hbs b List.mem_cons_self)
  | cons a as =>
    rw [intersperse_cons_eq] at h
    cases bs with
    | nil => exact absurd (List.cons.inj h).1 (has a List.mem_cons_self)
    | cons b bs =>
      rw [intersperse_cons_eq] at h
      obtain ⟨rfl, hrest⟩ := List.cons.inj h
      obtain ⟨rfl, hxs⟩ := hpairs.flatMap (fun _ _ => trivial) (fun _ _ => trivial) (hends xs)
        (hends ys) hrest
      exact ⟨rfl, (List.cons.inj hxs).2⟩

/-! ### Values -/

/-- The constructors have names of their own. -/
def Target.Distinct (t : Target) : Prop := [t.zeros, t.ones, t.full, t.arange, t.arangeStep].Nodup

instance (t : Target) : Decidable t.Distinct := inferInstanceAs (Decidable (List.Nodup _))

namespace Lowered

/-- Is the value a product? -/
def Value.isProduct : Value → Bool
  | product .. => true
  | _ => false

/-- The values that a program can have: calls with the arguments that their constructors take, names
that the emitted code does not use itself, and products that lean to the left. -/
def Value.Proper (t : Target) : Value → Prop
  | fill constructor elem shape literal =>
    elem ∈ DType.known ∧ (∀ d ∈ shape, d ≠ "\x7d".utf8) ∧
      (literal = none ∧ constructor ∈ [t.zeros, t.ones] ∨
        (∃ text, literal = some text) ∧ constructor = t.full)
  | range constructor elem bounds =>
    elem = DType.ofRange ∧
      (bounds.length = 2 ∧ constructor = t.arange ∨
        bounds.length = 3 ∧ constructor = t.arangeStep)
  | name text => t.isReserved text = false
  | product op lhs rhs =>
    op = BinaryOp.mul.token ∧ rhs.isProduct = false ∧ lhs.Proper t ∧ rhs.Proper t

/-- The values that are no products. -/
def Value.Operand (t : Target) (v : Value) : Prop := v.Proper t ∧ v.isProduct = false

variable {t : Target} {xs ys : List Bytes}

theorem name_inj_of_known {a b : DType} (ha : a ∈ DType.known) (hb : b ∈ DType.known)
    (h : a.name = b.name) : a = b := by
  have hall : ∀ a ∈ DType.known, ∀ b ∈ DType.known, a.name = b.name → a = b := by decide
  exact hall a ha b hb h

theorem ne_packageAlias {text : Bytes} (h : t.isReserved text = false) : text ≠ t.packageAlias := by
  rintro rfl
  simp [Target.isReserved, Target.reserved] at h

/-- Filled tensors: the constructor tells whether there is a literal. -/
theorem fill_inj (ht : t.Distinct) {constructor constructor' : Bytes} {elem elem' : DType}
    {shape shape' : List Bytes} {literal literal' : Option Bytes}
    (hproper : (Value.fill constructor elem shape literal).Proper t)
    (hproper' : (Value.fill constructor' elem' shape' literal').Proper t)
    (h : (Value.fill constructor elem shape literal).tokens t ++ xs =
      (Value.fill constructor' elem' shape' literal').tokens t ++ ys) :
    Value.fill constructor elem shape literal = .fill constructor' elem' shape' literal' ∧
      xs = ys := by
  obtain ⟨hknown, hshape, hliteral⟩ := hproper
  obtain ⟨hknown', hshape', hliteral'⟩ := hproper'
  simp only [Value.tokens, List.append_assoc, List.cons_append, List.nil_append,
    List.cons.injEq, true_and] at h
  obtain ⟨rfl, hname, hrest⟩ := h
  obtain rfl := name_inj_of_known hknown hknown' hname
  obtain ⟨rfl, hmore⟩ := intersperse_append_inj (by decide) hshape hshape' hrest
  have hdisjoint : List.Disjoint [t.zeros, t.ones] [t.full, t.arange, t.arangeStep] :=
    List.disjoint_of_nodup_append ht
  have hfull : t.full ∉ [t.zeros, t.ones] := fun h => hdisjoint h List.mem_cons_self
  rcases hliteral with ⟨rfl, hshort⟩ | ⟨⟨text, rfl⟩, hlong⟩
  · rcases hliteral' with ⟨rfl, -⟩ | ⟨-, hlong'⟩
    · simpa using hmore
    · exact absurd (hlong' ▸ hshort) hfull
  · rcases hliteral' with ⟨-, hshort'⟩ | ⟨⟨text', rfl⟩, -⟩
    · exact absurd (hlong ▸ hshort') hfull
    · simpa using hmore

/-- Ranges: the constructor tells how many bounds there are. -/
theorem range_inj (ht : t.Distinct) {constructor constructor' : Bytes} {elem elem' : DType}
    {bounds bounds' : List Bytes} (hproper : (Value.range constructor elem bounds).Proper t)
    (hproper' : (Value.range constructor' elem' bounds').Proper t)
    (h : (Value.range constructor elem bounds).tokens t ++ xs =
      (Value.range constructor' elem' bounds').tokens t ++ ys) :
    Value.range constructor elem bounds = .range constructor' elem' bounds' ∧ xs = ys := by
  obtain ⟨rfl, hbounds⟩ := hproper
  obtain ⟨rfl, hbounds'⟩ := hproper'
  simp only [Value.tokens, List.append_assoc, List.cons_append, List.nil_append,
    List.cons.injEq, true_and] at h
  obtain ⟨rfl, hrest⟩ := h
  have hstep : t.arange ≠ t.arangeStep := by
    simp only [Target.Distinct, List.nodup_cons, List.mem_cons, not_or] at ht
    exact ht.2.2.2.1.1
  have hlength : bounds.length = bounds'.length := by
    rcases hbounds with ⟨h2, hc⟩ | ⟨h3, hc⟩
    · rcases hbounds' with ⟨h2', -⟩ | ⟨-, hc'⟩
      · rw [h2, h2']
      · exact absurd (hc.symm.trans hc') hstep
    · rcases hbounds' with ⟨-, hc'⟩ | ⟨h3', -⟩
      · exact absurd (hc'.symm.trans hc) hstep
      · rw [h3, h3']
  have hpairs : Separates (fun text : Bytes => [text, ",".utf8]) fun _ => True := by
    intro a b xs ys _ _ hab
    simpa using hab
  obtain ⟨hcode, hends⟩ := List.append_inj hrest (by simp [List.map_const', hlength])
  have hcode' := congrArg (· ++ ([] : List Bytes)) hcode
  obtain ⟨rfl, -⟩ := hpairs.flatMap (fun _ _ => trivial) (fun _ _ => trivial)
    (fun _ _ _ => List.cons_ne_nil _ _) (fun _ _ _ => List.cons_ne_nil _ _) hcode'
  exact ⟨rfl, by simpa using hends⟩

/-- No constructor makes both filled tensors and ranges. -/
theorem fill_ne_range (ht : t.Distinct) {constructor constructor' : Bytes} {elem elem' : DType}
    {shape bounds : List Bytes} {literal : Option Bytes}
    (hproper : (Value.fill constructor elem shape literal).Proper t)
    (hproper' : (Value.range constructor' elem' bounds).Proper t) :
    (Value.fill constructor elem shape literal).tokens t ++ xs ≠
      (Value.range constructor' elem' bounds).tokens t ++ ys := by
  intro h
  simp only [Value.tokens, List.append_assoc, List.cons_append, List.nil_append,
    List.cons.injEq, true_and] at h
  obtain ⟨rfl, -⟩ := h
  have hdisjoint : List.Disjoint [t.zeros, t.ones, t.full] [t.arange, t.arangeStep] :=
    List.disjoint_of_nodup_append ht
  refine @hdisjoint constructor ?_ ?_
  · obtain ⟨-, -, ⟨-, hshort⟩ | ⟨-, rfl⟩⟩ := hproper
    · exact List.mem_append_left [t.full] hshort
    · simp
  · obtain ⟨-, ⟨-, rfl⟩ | ⟨-, rfl⟩⟩ := hproper'
    · simp
    · simp

/-- **Operands tell where they end.** -/
theorem separates_operands (ht : t.Distinct) : Separates (Value.tokens t) (Value.Operand t) := by
  rintro a b xs ys ⟨ha, hatom⟩ ⟨hb, hatom'⟩ h
  cases a with
  | product => cases hatom
  | fill =>
    cases b with
    | product => cases hatom'
    | fill => exact fill_inj ht ha hb h
    | range => exact absurd h (fill_ne_range ht ha hb)
    | name => exact absurd (List.cons.inj h).1.symm (ne_packageAlias hb)
  | range =>
    cases b with
    | product => cases hatom'
    | fill => exact absurd h.symm (fill_ne_range ht hb ha)
    | range => exact range_inj ht ha hb h
    | name => exact absurd (List.cons.inj h).1.symm (ne_packageAlias hb)
  | name text =>
    cases b with
    | product => cases hatom'
    | fill => exact absurd (List.cons.inj h).1 (ne_packageAlias ha)
    | range => exact absurd (List.cons.inj h).1 (ne_packageAlias ha)
    | name text' =>
      obtain ⟨rfl, hrest⟩ := List.cons.inj h
      exact ⟨rfl, hrest⟩

/-! ### Products -/

/-- The tokens of a further operand, with the operator. -/
def further (t : Target) (operand : Value) : List Bytes :=
  if t.operators == Target.methodStyle then
    [".".utf8, t.method BinaryOp.mul.token, "(".utf8] ++ operand.tokens t ++ [")".utf8]
  else [BinaryOp.mul.token] ++ operand.tokens t

theorem separates_further (ht : t.Distinct) : Separates (further t) (Value.Operand t) := by
  intro a b xs ys ha hb h
  unfold further at h
  split at h
  · simp only [List.append_assoc, List.cons_append, List.nil_append, List.cons.injEq,
      true_and] at h
    obtain ⟨rfl, hrest⟩ := separates_operands ht ha hb h
    exact ⟨rfl, (List.cons.inj hrest).2⟩
  · simp only [List.cons_append, List.nil_append, List.cons.injEq, true_and] at h
    exact separates_operands ht ha hb h

/-- An operator does not look like the end of a command. -/
theorem further_append_ne (a : Value) (zs : List Bytes) : further t a ++ zs ≠ ";".utf8 :: xs := by
  unfold further
  split
  · intro h
    have hfirst : ".".utf8 = ";".utf8 := (List.cons.inj h).1
    exact absurd hfirst (by decide)
  · intro h
    have hfirst : BinaryOp.mul.token = ";".utf8 := (List.cons.inj h).1
    exact absurd hfirst (by decide)

/-- A value is a first operand and further ones, in one way. -/
theorem Value.Proper.exists_operands {v : Value} (hv : v.Proper t) :
    ∃ (first : Value) (more : List Value), first.Operand t ∧ (∀ a ∈ more, a.Operand t) ∧
      v = more.foldl (.product BinaryOp.mul.token) first ∧
      v.tokens t = first.tokens t ++ more.flatMap (further t) := by
  induction v with
  | fill => exact ⟨_, [], ⟨hv, rfl⟩, nofun, rfl, by simp⟩
  | range => exact ⟨_, [], ⟨hv, rfl⟩, nofun, rfl, by simp⟩
  | name => exact ⟨_, [], ⟨hv, rfl⟩, nofun, rfl, by simp⟩
  | product op lhs rhs ihl _ =>
    obtain ⟨rfl, hatom, hlhs, hrhs⟩ := hv
    obtain ⟨first, more, hfirst, hmore, hvalue, htokens⟩ := ihl hlhs
    refine ⟨first, more ++ [rhs], hfirst, ?_, ?_, ?_⟩
    · intro a ha
      rcases List.mem_append.mp ha with ha | ha
      · exact hmore a ha
      · rw [List.mem_singleton.mp ha]
        exact ⟨hrhs, hatom⟩
    · rw [List.foldl_append, ← hvalue]
      rfl
    · rw [Value.tokens, List.flatMap_append, List.flatMap_singleton, ← List.append_assoc,
        ← htokens, further]
      split <;> simp only [List.append_assoc]

/-- **A value tells where the command ends.** -/
theorem value_inj (ht : t.Distinct) {v w : Value} (hv : v.Proper t) (hw : w.Proper t)
    (h : v.tokens t ++ ";".utf8 :: xs = w.tokens t ++ ";".utf8 :: ys) : v = w ∧ xs = ys := by
  obtain ⟨first, more, hfirst, hmore, rfl, hv⟩ := hv.exists_operands
  obtain ⟨first', more', hfirst', hmore', rfl, hw⟩ := hw.exists_operands
  rw [hv, hw, List.append_assoc, List.append_assoc] at h
  obtain ⟨rfl, hrest⟩ := separates_operands ht hfirst hfirst' h
  obtain ⟨rfl, hends⟩ := (separates_further ht).flatMap hmore hmore'
    (fun a _ => further_append_ne a) (fun a _ => further_append_ne a) hrest
  exact ⟨rfl, (List.cons.inj hends).2⟩

/-! ### Commands -/

/-- The commands that a program can have. -/
def Command.Proper (t : Target) : Command → Prop
  | declare name value | update name value => t.isReserved name = false ∧ value.Proper t
  | discard value => value.Proper t

theorem ne_blank {name : Bytes} (h : t.isReserved name = false) : name ≠ "_".utf8 := by
  rintro rfl
  simp [Target.isReserved, Target.reserved] at h

/-- The two tokens in front of the value, and the value. -/
def Command.parts : Command → Bytes × Bytes × Value
  | declare name value => (name, ":=".utf8, value)
  | update name value => (name, "=".utf8, value)
  | discard value => ("_".utf8, "=".utf8, value)

theorem Command.tokens_eq (t : Target) (c : Command) :
    c.tokens t = [c.parts.1, c.parts.2.1] ++ c.parts.2.2.tokens t ++ [";".utf8] := by
  cases c <;> rfl

theorem Command.Proper.value {c : Command} (h : c.Proper t) : c.parts.2.2.Proper t := by
  cases c with
  | declare => exact h.2
  | update => exact h.2
  | discard => exact h

/-- The mark tells a declaration, and the name tells an update. -/
theorem Command.Proper.eq_of_parts {c d : Command} (hc : c.Proper t) (hd : d.Proper t)
    (h : c.parts = d.parts) : c = d := by
  have hmark : ":=".utf8 ≠ "=".utf8 := by decide
  cases c with
  | declare =>
    cases d with
    | declare => simpa [parts] using h
    | update => exact absurd (congrArg (·.2.1) h) hmark
    | discard => exact absurd (congrArg (·.2.1) h) hmark
  | update =>
    cases d with
    | declare => exact absurd (congrArg (·.2.1) h).symm hmark
    | update => simpa [parts] using h
    | discard => exact absurd (congrArg (·.1) h) (ne_blank hc.1)
  | discard =>
    cases d with
    | declare => exact absurd (congrArg (·.2.1) h).symm hmark
    | update => exact absurd (congrArg (·.1) h).symm (ne_blank hd.1)
    | discard => simpa [parts] using h

/-- **Commands tell where they end.** -/
theorem separates_commands (ht : t.Distinct) : Separates (Command.tokens t) (Command.Proper t) := by
  intro c d xs ys hc hd h
  rw [c.tokens_eq, d.tokens_eq] at h
  simp only [List.append_assoc, List.cons_append, List.nil_append, List.cons.injEq] at h
  obtain ⟨hname, hmark, hrest⟩ := h
  obtain ⟨hvalue, hends⟩ := value_inj ht hc.value hd.value hrest
  have hparts : c.parts = d.parts := Prod.ext hname (Prod.ext hmark hvalue)
  exact ⟨hc.eq_of_parts hd hparts, hends⟩

/-- Commands in order can be told from their tokens. -/
theorem commands_inj (ht : t.Distinct) {cs ds : List Command} (hcs : ∀ c ∈ cs, c.Proper t)
    (hds : ∀ d ∈ ds, d.Proper t)
    (h : cs.flatMap (Command.tokens t) = ds.flatMap (Command.tokens t)) : cs = ds := by
  have hne : ∀ c : Command, c.Proper t → ∀ zs, c.tokens t ++ zs ≠ [] := by
    intro c _ zs hnil
    exact c.tokens_ne_nil t (List.append_eq_nil_iff.mp hnil).1
  have happend := congrArg (· ++ ([] : List Bytes)) h
  exact ((separates_commands ht).flatMap hcs hds hne hne happend).1

end Lowered

end TensorLang
