import CallingConvention.Proofs.Operation
import CallingConvention.Store

/-!
# Which calls are accepted

A call is well formed if its receiver, the number of its arguments and every single argument are
what its signature asks for (`Signature.Accepts`). A call that is not has a first fault, in the
order receiver, number of arguments, arguments (`Signature.FirstFault`). Building a frame succeeds
for exactly the well-formed calls and reports exactly the first fault of the others, without any
effect.

Arguments are looked at twice, once to check them and once to store them. That storing never refuses
what passed the check is `filled_of_fits`, and `construct_of_accepts` says what the frame of an
accepted call looks like. Proofs about new frames start from `exists_filledAll_of_construct`.
-/

namespace CallingConvention

/-! ## Arguments that fit -/

namespace Argument

/-- What a parameter takes. A primitive of another kind fits only if it may be converted. -/
def Fits (policy : Policy) (p : Param) (arg : Argument) : Prop :=
  match p.slotKind, arg with
  | .primitive k, primitive v => v.kind = k ∨ policy = .convert
  | .handle, handle _ => True
  | .object, object a => a ≠ .null ∧ p.type.behaviours.copy.isSome = true
  | .reference, reference a => a ≠ .null
  | _, _ => False

/-- The error about an argument that does not fit. -/
def fault (index : Nat) (p : Param) (arg : Argument) : CallError :=
  match p.slotKind, arg with
  | .object, object a =>
    if a = .null then .nullAddress s!"argument {index}" else p.type.missing "copy constructor"
  | .reference, reference _ => .nullAddress s!"argument {index}"
  | _, _ => mismatch index p arg

theorem isSome_coerce_iff {policy : Policy} {k : Kind} {v : Value} :
    (policy.coerce k v).isSome = true ↔ v.kind = k ∨ policy = .convert := by
  unfold Policy.coerce
  cases policy <;> split <;> simp_all

private theorem check_of_fits {policy : Policy} {index : Nat} {p : Param} {arg : Argument}
    (h : arg.Fits policy p) : arg.check policy index p = .ok () := by
  cases arg with
  | primitive v =>
    cases kind : p.slotKind with
    | primitive k =>
      simp only [Fits, kind] at h
      simp only [check, kind, isSome_coerce_iff.mpr h, if_true]
    | _ => simp only [Fits, kind] at h
  | handle a =>
    cases kind : p.slotKind with
    | handle => simp only [check, kind]
    | _ => simp only [Fits, kind] at h
  | object a =>
    cases kind : p.slotKind with
    | object =>
      simp only [Fits, kind] at h
      simp [check, kind, h.1, h.2]
    | _ => simp only [Fits, kind] at h
  | reference a =>
    cases kind : p.slotKind with
    | reference =>
      simp only [Fits, kind] at h
      simp [check, kind, h]
    | _ => simp only [Fits, kind] at h

private theorem check_of_not_fits {policy : Policy} {index : Nat} {p : Param} {arg : Argument}
    (h : ¬arg.Fits policy p) : arg.check policy index p = .error (arg.fault index p) := by
  unfold check
  split
  · next k v kind =>
    have refused : ¬(policy.coerce k v).isSome = true := by
      simpa only [Fits, kind, isSome_coerce_iff] using h
    simp only [if_neg refused, fault, kind]
  · next kind => exact absurd (by simp only [Fits, kind]) h
  · next a kind =>
    by_cases null : a = .null
    · simp [fault, kind, null]
    · have uncopied : ¬p.type.behaviours.copy.isSome = true := fun copied ↦
        h (by simp only [Fits, kind, copied, ne_eq, null, not_false_eq_true, and_self])
      simp [fault, kind, null, uncopied]
  · next a kind =>
    have null : a = .null := by simpa only [Fits, kind, ne_eq, Classical.not_not] using h
    simp [fault, kind, null]
  · next unlike₁ unlike₂ unlike₃ unlike₄ =>
    unfold fault
    split
    · next a kind => exact (unlike₃ a kind rfl).elim
    · next a kind => exact (unlike₄ a kind rfl).elim
    · rfl

/-- Whether arguments fit the parameters in the same places. -/
def FitAll (policy : Policy) (ps : List Param) (args : List Argument) : Prop :=
  ∀ (i : Nat) (p : Param) (arg : Argument), ps[i]? = some p → args[i]? = some arg →
    arg.Fits policy p

theorem fitAll_cons {policy : Policy} {p : Param} {ps : List Param} {arg : Argument}
    {args : List Argument} :
    FitAll policy (p :: ps) (arg :: args) ↔ arg.Fits policy p ∧ FitAll policy ps args := by
  constructor
  · intro all
    exact ⟨all 0 p arg rfl rfl, fun i ↦ all (i + 1)⟩
  · rintro ⟨head, rest⟩ i q b hq hb
    cases i with
    | zero =>
      obtain rfl : p = q := by simpa using hq
      obtain rfl : arg = b := by simpa using hb
      exact head
    | succ i => exact rest i q b hq hb

/-- The first argument that does not fit, in place `i`. -/
structure FirstUnfit (policy : Policy) (ps : List Param) (args : List Argument) (i : Nat)
    (p : Param) (arg : Argument) : Prop where
  /-- The parameter in that place. -/
  param : ps[i]? = some p
  /-- The argument in that place. -/
  argument : args[i]? = some arg
  /-- The argument does not fit. -/
  unfit : ¬arg.Fits policy p
  /-- All arguments before it do. -/
  before : FitAll policy (ps.take i) (args.take i)

private theorem firstUnfit_zero {policy : Policy} {p q : Param} {ps : List Param} {arg b : Argument}
    {args : List Argument} :
    FirstUnfit policy (p :: ps) (arg :: args) 0 q b ↔ q = p ∧ b = arg ∧ ¬arg.Fits policy p := by
  constructor
  · rintro ⟨hq, hb, unfit, -⟩
    obtain rfl : p = q := by simpa using hq
    obtain rfl : arg = b := by simpa using hb
    exact ⟨rfl, rfl, unfit⟩
  · rintro ⟨rfl, rfl, unfit⟩
    exact ⟨rfl, rfl, unfit, by simp [FitAll]⟩

private theorem firstUnfit_succ {policy : Policy} {p q : Param} {ps : List Param} {arg b : Argument}
    {args : List Argument} {i : Nat} :
    FirstUnfit policy (p :: ps) (arg :: args) (i + 1) q b ↔
      arg.Fits policy p ∧ FirstUnfit policy ps args i q b := by
  constructor
  · rintro ⟨hq, hb, unfit, before⟩
    obtain ⟨head, rest⟩ := fitAll_cons.mp before
    exact ⟨head, hq, hb, unfit, rest⟩
  · rintro ⟨head, hq, hb, unfit, rest⟩
    exact ⟨hq, hb, unfit, fitAll_cons.mpr ⟨head, rest⟩⟩

private theorem checkAll_of_fitAll {policy : Policy} {ps : List Param} {args : List Argument}
    (h : FitAll policy ps args) (start : Nat) : checkAll policy start ps args = .ok () := by
  induction ps generalizing args start with
  | nil => rfl
  | cons p ps ih =>
    cases args with
    | nil => rfl
    | cons arg args =>
      obtain ⟨head, rest⟩ := fitAll_cons.mp h
      rw [checkAll, check_of_fits head]
      exact ih rest (start + 1)

private theorem checkAll_of_firstUnfit {policy : Policy} {ps : List Param} {args : List Argument}
    {i : Nat} {p : Param} {arg : Argument} (h : FirstUnfit policy ps args i p arg) (start : Nat) :
    checkAll policy start ps args = .error (arg.fault (start + i) p) := by
  induction ps generalizing args i start with
  | nil => exact absurd h.param (by simp)
  | cons q ps ih =>
    cases args with
    | nil => exact absurd h.argument (by simp)
    | cons b args =>
      cases i with
      | zero =>
        obtain ⟨rfl, rfl, unfit⟩ := firstUnfit_zero.mp h
        rw [checkAll, check_of_not_fits unfit]
        rfl
      | succ i =>
        obtain ⟨head, rest⟩ := firstUnfit_succ.mp h
        rw [checkAll, check_of_fits head, Nat.add_comm i 1, ← Nat.add_assoc]
        exact ih rest (start + 1)

theorem fitAll_or_firstUnfit (policy : Policy) (ps : List Param) (args : List Argument) :
    FitAll policy ps args ∨ ∃ i p arg, FirstUnfit policy ps args i p arg := by
  induction ps generalizing args with
  | nil => exact .inl fun i p arg hp ↦ absurd hp (by simp)
  | cons p ps ih =>
    cases args with
    | nil => exact .inl fun i q arg _ harg ↦ absurd harg (by simp)
    | cons arg args =>
      -- the first misfit is later than an argument that fits, and else it is this one
      by_cases head : arg.Fits policy p
      · rcases ih args with rest | ⟨i, q, b, rest⟩
        · exact .inl (fitAll_cons.mpr ⟨head, rest⟩)
        · exact .inr ⟨i + 1, q, b, firstUnfit_succ.mpr ⟨head, rest⟩⟩
      · exact .inr ⟨0, p, arg, firstUnfit_zero.mpr ⟨rfl, rfl, head⟩⟩

end Argument

/-! ## Storing arguments -/

namespace Slot

/-- How an argument that fits is stored: the slot, and what happens for it. -/
inductive Filled (policy : Policy) (frame index : Nat) (p : Param) :
    Argument → Slot → List Effect → Prop
  | primitive {k : Kind} {v u : Value} (kind : p.slotKind = .primitive k)
      (coerced : policy.coerce k v = some u) :
      Filled policy frame index p (.primitive v) (.primitive u) []
  | handle {a : Address} (kind : p.slotKind = .handle) :
      Filled policy frame index p (.handle a) (.handle a false)
        (if p.isAuto then p.type.addRef a else [])
  | object {a : Address} (kind : p.slotKind = .object) :
      Filled policy frame index p (.object a)
        (.object ⟨p.type, p.type.place (.argument frame index)⟩)
        [.copy p.type (p.type.place (.argument frame index)) a]
  | reference {a : Address} (kind : p.slotKind = .reference) :
      Filled policy frame index p (.reference a) (.reference a) []

/-- An argument that passed its check is stored. -/
theorem filled_of_fits {policy : Policy} {p : Param} {arg : Argument} (h : arg.Fits policy p)
    (frame index : Nat) : ∃ slot effects,
      fill policy frame index p arg = (.ok slot, effects) ∧
        Filled policy frame index p arg slot effects := by
  unfold Argument.Fits at h
  unfold fill
  split at h
  · next k v kind =>
    obtain ⟨u, coerced⟩ := Option.isSome_iff_exists.mp (Argument.isSome_coerce_iff.mpr h)
    exact ⟨.primitive u, [], by simp only [kind, coerced, Option.getD_some],
      .primitive kind coerced⟩
  · next a kind =>
    refine ⟨.handle a false, _, ?_, .handle kind⟩
    rw [kind]
    cases p.isAuto <;> rfl
  · next a kind =>
    refine ⟨_, _, ?_, .object kind⟩
    simp [kind, ScriptType.copy, h.2]
  · next a kind => exact ⟨.reference a, [], by rw [kind], .reference kind⟩
  · exact h.elim

/-- How arguments are stored in order, from a first index on. -/
inductive FilledAll (policy : Policy) (frame : Nat) :
    Nat → List Param → List Argument → List Slot → List Effect → Prop
  | nil (index : Nat) : FilledAll policy frame index [] [] [] []
  | cons {index : Nat} {p : Param} {arg : Argument} {slot : Slot} {effects : List Effect}
      {ps : List Param} {args : List Argument} {slots : List Slot} {more : List Effect}
      (head : Filled policy frame index p arg slot effects)
      (tail : FilledAll policy frame (index + 1) ps args slots more) :
      FilledAll policy frame index (p :: ps) (arg :: args) (slot :: slots) (effects ++ more)

private theorem filledAll_of_fitAll {policy : Policy} {ps : List Param} {args : List Argument}
    (length : args.length = ps.length) (h : Argument.FitAll policy ps args) (frame index : Nat) :
    ∃ slots effects, fillAll policy frame index ps args = (.ok slots, effects) ∧
      FilledAll policy frame index ps args slots effects := by
  induction ps generalizing args index with
  | nil =>
    obtain rfl : args = [] := List.length_eq_zero_iff.mp length
    exact ⟨[], [], rfl, .nil index⟩
  | cons p ps ih =>
    obtain ⟨arg, args, rfl⟩ := List.exists_cons_of_length_eq_add_one length
    obtain ⟨fits, rest⟩ := Argument.fitAll_cons.mp h
    obtain ⟨slot, effects, stored, head⟩ := filled_of_fits fits frame index
    obtain ⟨slots, more, storedAll, tail⟩ := ih (Nat.succ.inj length) rest (index + 1)
    exact ⟨slot :: slots, effects ++ more, by rw [fillAll, stored, storedAll]; rfl, .cons head tail⟩

end Slot

/-! ## Well-formed calls -/

namespace Signature

/-- Whether a receiver is given exactly if the signature is that of a method. A null receiver counts
as none. -/
def FitsReceiver (sig : Signature) (receiver : Option Address) : Prop :=
  sig.isMethod = true ↔ ∃ a, receiver = some a ∧ a ≠ .null

/-- The calls that are well formed for a signature. -/
structure Accepts (sig : Signature) (receiver : Option Address) (args : List Argument)
    (policy : Policy) : Prop where
  /-- There is a receiver for a method, and none for a function. -/
  receiver : sig.FitsReceiver receiver
  /-- There are as many arguments as parameters. -/
  arity : args.length = sig.arity
  /-- Every argument fits its parameter. -/
  fits : Argument.FitAll policy sig.params args

/-- The first thing that is wrong with a call: the receiver, else the number of arguments, else the
first argument that does not fit. -/
inductive FirstFault (sig : Signature) (receiver : Option Address) (args : List Argument)
    (policy : Policy) : CallError → Prop
  | missingObject (method : sig.isMethod = true)
      (absent : ¬∃ a, receiver = some a ∧ a ≠ .null) :
      FirstFault sig receiver args policy (.missingObject sig.qualifiedName)
  | unexpectedObject (function : sig.isMethod = false)
      (present : ∃ a, receiver = some a ∧ a ≠ .null) :
      FirstFault sig receiver args policy (.unexpectedObject sig.qualifiedName)
  | arity (fits : sig.FitsReceiver receiver) (differs : args.length ≠ sig.arity) :
      FirstFault sig receiver args policy (.argumentCountMismatch sig.arity args.length)
  | argument (fits : sig.FitsReceiver receiver) (arity : args.length = sig.arity) {i : Nat}
      {p : Param} {arg : Argument}
      (first : Argument.FirstUnfit policy sig.params args i p arg) :
      FirstFault sig receiver args policy (arg.fault i p)

theorem accepts_or_firstFault (sig : Signature) (receiver : Option Address)
    (args : List Argument) (policy : Policy) :
    sig.Accepts receiver args policy ∨ ∃ e, sig.FirstFault receiver args policy e := by
  by_cases fits : sig.FitsReceiver receiver
  · by_cases arity : args.length = sig.arity
    · rcases Argument.fitAll_or_firstUnfit policy sig.params args with all | ⟨i, p, arg, first⟩
      · exact .inl ⟨fits, arity, all⟩
      · exact .inr ⟨_, .argument fits arity first⟩
    · exact .inr ⟨_, .arity fits arity⟩
  · right
    cases method : sig.isMethod with
    | true =>
      refine ⟨_, .missingObject method fun present ↦ fits ?_⟩
      exact ⟨fun _ ↦ present, fun _ ↦ method⟩
    | false =>
      refine ⟨_, .unexpectedObject method (Classical.byContradiction fun absent ↦ fits ?_)⟩
      exact ⟨fun isMethod ↦ by simp [method] at isMethod, fun present ↦ absurd present absent⟩

end Signature

/-! ## Building a frame -/

namespace Frame

private theorem isNull_receiver_eq_false_iff {receiver : Option Address} :
    (receiver.getD .null).isNull = false ↔ ∃ a, receiver = some a ∧ a ≠ .null := by
  cases receiver <;> simp [Address.isNull]

private theorem checkReceiver_of_fits {sig : Signature} {receiver : Option Address}
    (h : sig.FitsReceiver receiver) : checkReceiver sig (receiver.getD .null) = .ok () := by
  rw [Signature.FitsReceiver, ← isNull_receiver_eq_false_iff] at h
  unfold checkReceiver
  split
  · next method null => simp [method, null] at h
  · next method null => simp [method, null] at h
  · rfl

theorem check_of_accepts {sig : Signature} {receiver : Option Address} {args : List Argument}
    {policy : Policy} (h : sig.Accepts receiver args policy) :
    check sig (receiver.getD .null) args policy = .ok () := by
  simp only [check, checkReceiver_of_fits h.receiver, if_pos h.arity]
  exact Argument.checkAll_of_fitAll h.fits 0

theorem check_of_firstFault {sig : Signature} {receiver : Option Address} {args : List Argument}
    {policy : Policy} {e : CallError} (h : sig.FirstFault receiver args policy e) :
    check sig (receiver.getD .null) args policy = .error e := by
  cases h with
  | missingObject method absent =>
    have null : (receiver.getD .null).isNull = true :=
      Bool.not_eq_false _ ▸ fun present ↦ absent (isNull_receiver_eq_false_iff.mp present)
    simp only [check, checkReceiver, method, null]
  | unexpectedObject function present =>
    simp only [check, checkReceiver, function, isNull_receiver_eq_false_iff.mpr present]
  | arity fits differs => simp only [check, checkReceiver_of_fits fits, if_neg differs]
  | argument fits arity first =>
    simp only [check, checkReceiver_of_fits fits, if_pos arity]
    simpa only [Nat.zero_add] using Argument.checkAll_of_firstUnfit first 0

private theorem not_firstFault_of_accepts {sig : Signature} {receiver : Option Address}
    {args : List Argument} {policy : Policy} (h : sig.Accepts receiver args policy)
    (e : CallError) : ¬sig.FirstFault receiver args policy e := by
  intro fault
  have passed := check_of_accepts h
  rw [check_of_firstFault fault] at passed
  cases passed

/-- The frame of a well-formed call: its arguments are stored, and nothing else has happened yet. -/
theorem construct_of_accepts {sig : Signature} {receiver : Option Address} {args : List Argument}
    {policy : Policy} (h : sig.Accepts receiver args policy) (number : Nat) :
    ∃ slots effects, Slot.FilledAll policy number 0 sig.params args slots effects ∧
      Slot.fillAll policy number 0 sig.params args = (.ok slots, effects) ∧
      construct number sig receiver args policy =
        (.ok ⟨number, sig, receiver.getD .null, slots, .initial sig.returns, policy, none⟩,
          effects ++ [.log (.frameConstruct sig.name slots.length)]) := by
  obtain ⟨slots, effects, stored, filled⟩ :=
    Slot.filledAll_of_fitAll h.arity h.fits number 0
  exact ⟨slots, effects, filled, stored, by simp only [construct, check_of_accepts h, stored]⟩

theorem construct_of_firstFault {sig : Signature} {receiver : Option Address}
    {args : List Argument} {policy : Policy} {e : CallError}
    (h : sig.FirstFault receiver args policy e) (number : Nat) :
    construct number sig receiver args policy = (.error e, []) := by
  simp only [construct, check_of_firstFault h]

theorem accepts_of_construct {number : Nat} {sig : Signature} {receiver : Option Address}
    {args : List Argument} {policy : Policy} {f : Frame}
    (h : (construct number sig receiver args policy).1 = .ok f) :
    sig.Accepts receiver args policy := by
  rcases sig.accepts_or_firstFault receiver args policy with accepts | ⟨e, fault⟩
  · exact accepts
  · rw [construct_of_firstFault fault number] at h
    cases h

/-- What there is to know of a new frame. -/
theorem exists_filledAll_of_construct {number : Nat} {sig : Signature} {receiver : Option Address}
    {args : List Argument} {policy : Policy} {f : Frame}
    (h : (construct number sig receiver args policy).1 = .ok f) :
    ∃ slots effects, Slot.FilledAll policy number 0 sig.params args slots effects ∧
      f = ⟨number, sig, receiver.getD .null, slots, .initial sig.returns, policy, none⟩ ∧
      (construct number sig receiver args policy).2 =
        effects ++ [.log (.frameConstruct sig.name slots.length)] := by
  obtain ⟨slots, effects, filled, -, built⟩ := construct_of_accepts (accepts_of_construct h) number
  rw [built] at h ⊢
  exact ⟨slots, effects, filled, (Except.ok.inj h).symm, rfl⟩

/-- **Accepted calls.** A frame is built for the well-formed calls and for no others. Of another
call the first fault is reported, and nothing has happened. -/
theorem construct_accepts_iff (number : Nat) (sig : Signature) (receiver : Option Address)
    (args : List Argument) (policy : Policy) :
    ((∃ f, (construct number sig receiver args policy).1 = .ok f) ↔
        sig.Accepts receiver args policy) ∧
      (∀ e, (construct number sig receiver args policy).1 = .error e ↔
        sig.FirstFault receiver args policy e) ∧
      (∀ e, (construct number sig receiver args policy).1 = .error e →
        (construct number sig receiver args policy).2 = [] ∧
          ∀ s : Store, s.applyAll (construct number sig receiver args policy).2 = s) ∧
      (check sig (receiver.getD .null) args policy = .ok () →
        ∃ slots, (Slot.fillAll policy number 0 sig.params args).1 = .ok slots) := by
  rcases sig.accepts_or_firstFault receiver args policy with accepts | ⟨e, fault⟩
  · obtain ⟨slots, effects, -, stored, built⟩ := construct_of_accepts accepts number
    refine ⟨⟨fun _ ↦ accepts, fun _ ↦ ⟨_, by rw [built]⟩⟩, fun e ↦ ⟨?_, ?_⟩, ?_, ?_⟩
    · intro h
      rw [built] at h
      cases h
    · exact fun fault ↦ absurd fault (not_firstFault_of_accepts accepts e)
    · intro e h
      rw [built] at h
      cases h
    · exact fun _ ↦ ⟨slots, by rw [stored]⟩
  · have refused := construct_of_firstFault fault number
    refine ⟨⟨?_, ?_⟩, fun e' ↦ ⟨?_, ?_⟩, ?_, ?_⟩
    · rintro ⟨f, h⟩
      exact accepts_of_construct h
    · exact fun accepts ↦ absurd fault (not_firstFault_of_accepts accepts e)
    · intro h
      rw [refused] at h
      exact Except.error.inj h ▸ fault
    · intro fault'
      rw [construct_of_firstFault fault' number]
    · intro e' _
      rw [refused]
      exact ⟨rfl, fun s ↦ s.applyAll_nil⟩
    · intro passed
      rw [check_of_firstFault fault] at passed
      cases passed

end Frame

end CallingConvention
