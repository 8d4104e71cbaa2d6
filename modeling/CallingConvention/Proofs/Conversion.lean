import CallingConvention.Call
import CallingConvention.Proofs.Ending

/-!
# The converting policy

Where the strict policy accepts a primitive value, the converting policy has nothing to convert. So
a call that gets along with the strict policy does not change if the policy of its function does.

## Native code that looks at its answers

`Frame.run` does operations that are given beforehand. Which operations native code does may depend
on the answers to earlier ones, though, and a policy makes itself felt in the answers. Hence native
code is a tree here (`NativeCode`), with one branch for every answer. Along each branch it does
operations in order (`run_acts`).

## Two runs

The runs of one call under two policies are compared step by step. `perform_under` is the step: an
operation under which no value is used as one of another kind (`Frame.mixesKinds`) gives the same
answer under every policy, does the same to the frame and has the same effects. What the trees of
native code make of that is an induction, `run_under`. The same comparison for the arguments is
`construct_convert`. Both meet in `convert_extends_strict`.

Under the strict policy, the calls and the operations that mix kinds are those that are refused for
this reason (`construct_of_mixesKinds`, `mixesKinds_iff`).
-/

namespace CallingConvention

/-! ## Adaptive native code -/

/-- Native code: operations on its call, readings of the frame's own storage, and whatever else it
does to the store. How it goes on depends on what it gets. After something else it knows the store
as it was. -/
inductive NativeCode where
  | stop
  | perform (op : Operation) (next : Except CallError Reply → NativeCode)
  | look (a : Address) (next : Option Payload → NativeCode)
  | elsewhere (act : Store → Store) (next : Store → NativeCode)

/-- One operation that native code did. -/
structure Act where
  /-- The frame before it. -/
  frame : Frame
  /-- The operation. -/
  operation : Operation
  /-- What the frame answered. -/
  answer : Except CallError Reply
  /-- What else happened because of it. -/
  effects : List Effect

/-- What came of native code. -/
structure Performance where
  /-- What it did to its call, in order. -/
  acts : List Act
  /-- The frame in the end. -/
  frame : Frame
  /-- The store in the end. -/
  store : Store

namespace NativeCode

/-- Run native code on a frame and a store. -/
def run : NativeCode → Frame → Store → Performance
  | stop, f, s => ⟨[], f, s⟩
  | perform op next, f, s =>
    let r := f.perform op
    let rest := (next r.answer).run r.frame (s.applyAll r.effects)
    ⟨⟨f, op, r.answer, r.effects⟩ :: rest.acts, rest.frame, rest.store⟩
  | look a next, f, s => (next (f.readRaw? a)).run f s
  | elsewhere act next, f, s => (next s).run f (act s)

/-- The native code of a function that runs such code. -/
def native (code : NativeCode) : Native := fun f s ↦ ((code.run f s).frame, (code.run f s).store)

/-- For its frame, native code is the sequence of the operations that it did. -/
theorem run_acts (code : NativeCode) (f : Frame) (s : Store) :
    f.run ((code.run f s).acts.map Act.operation) =
      ⟨(code.run f s).acts.map Act.answer, (code.run f s).frame,
        (code.run f s).acts.flatMap Act.effects⟩ := by
  induction code generalizing f s with
  | stop => rfl
  | perform op next ih =>
    have rest := ih (f.perform op).answer (f.perform op).frame (s.applyAll (f.perform op).effects)
    rw [run, List.map_cons, Frame.run, rest]
    rfl
  | look a next ih => exact ih (f.readRaw? a) f s
  | elsewhere act next ih => exact ih s f (act s)

end NativeCode

/-! ## Values of other kinds -/

namespace Frame

/-- The same frame under another policy. -/
def under (p : Policy) (f : Frame) : Frame := { f with policy := p }

/-- Whether an operation uses a primitive value as a value of another kind: it reads an argument as
that, or returns it as that. -/
def mixesKinds (f : Frame) : Operation → Bool
  | .argument i k | .typedArgument i k =>
    match f.slots[i]? with
    | some (.primitive v) => v.kind != k
    | _ => false
  | .setReturnValue v =>
    match f.result with
    | .primitive u => v.kind != u.kind
    | _ => false
  | _ => false

end Frame

namespace Signature

/-- Whether the first fault of a call, under the strict policy, is that a primitive argument is of
another kind than its parameter. -/
def MixesKinds (sig : Signature) (receiver : Option Address) (args : List Argument) : Prop :=
  sig.FitsReceiver receiver ∧ args.length = sig.arity ∧ ∃ i p k v,
    Argument.FirstUnfit .strict sig.params args i p (.primitive v) ∧ p.slotKind = .primitive k

end Signature

/-! ## Arguments under both policies -/

namespace Argument

variable {p : Param} {arg : Argument} {ps : List Param} {args : List Argument}

theorem Fits.convert (h : arg.Fits .strict p) : arg.Fits .convert p := by
  unfold Fits at h ⊢
  split at h
  · exact .inr rfl
  · trivial
  · exact h
  · exact h
  · exact h.elim

theorem FitAll.convert (h : FitAll .strict ps args) : FitAll .convert ps args := by
  intro i p arg hp harg
  exact (h i p arg hp harg).convert

/-- What does not fit under the strict policy does not fit under the converting one either, if it is
not a value for a primitive parameter. -/
theorem FirstUnfit.convert {i : Nat} (h : FirstUnfit .strict ps args i p arg)
    (other : ∀ k v, p.slotKind = .primitive k → arg ≠ .primitive v) :
    FirstUnfit .convert ps args i p arg := by
  refine ⟨h.param, h.argument, ?_, h.before.convert⟩
  have unfit := h.unfit
  unfold Fits at unfit ⊢
  split
  · next k v kind => exact absurd rfl (other k v kind)
  · next kind => simp [kind] at unfit
  · next kind => simpa [kind] using unfit
  · next kind => simpa [kind] using unfit
  · exact id

end Argument

namespace Slot

private theorem fill_convert {p : Param} {arg : Argument} (h : arg.Fits .strict p)
    (frame index : Nat) : fill .convert frame index p arg = fill .strict frame index p arg := by
  unfold fill
  split
  · next k v kind =>
    have same : v.kind = k := by simpa [Argument.Fits, kind] using h
    rw [Policy.coerce_of_kind_eq _ same, Policy.coerce_of_kind_eq _ same]
  · rfl
  · rfl
  · rfl
  · rfl

private theorem fillAll_convert {ps : List Param} {args : List Argument}
    (h : Argument.FitAll .strict ps args) (frame index : Nat) :
    fillAll .convert frame index ps args = fillAll .strict frame index ps args := by
  induction ps generalizing args index with
  | nil => rfl
  | cons p ps ih =>
    cases args with
    | nil => rfl
    | cons arg args =>
      obtain ⟨head, rest⟩ := Argument.fitAll_cons.mp h
      rw [fillAll, fillAll, fill_convert head, ih rest]

end Slot

namespace Signature

variable {sig : Signature} {receiver : Option Address} {args : List Argument}

theorem Accepts.convert (h : sig.Accepts receiver args .strict) :
    sig.Accepts receiver args .convert :=
  ⟨h.receiver, h.arity, h.fits.convert⟩

/-- The first fault of a call stays the first one, if it is not about kinds. -/
theorem FirstFault.convert {e : CallError} (h : sig.FirstFault receiver args .strict e)
    (kinds : ¬sig.MixesKinds receiver args) : sig.FirstFault receiver args .convert e := by
  cases h with
  | missingObject method absent => exact .missingObject method absent
  | unexpectedObject function present => exact .unexpectedObject function present
  | arity fits differs => exact .arity fits differs
  | @argument fits arity i p arg first =>
    refine .argument fits arity (first.convert ?_)
    rintro k v kind rfl
    exact kinds ⟨fits, arity, i, p, k, v, first, kind⟩

end Signature

namespace Frame

theorem construct_of_mixesKinds {sig : Signature} {receiver : Option Address}
    {args : List Argument} (mixes : sig.MixesKinds receiver args) (number : Nat) :
    ∃ i p v, construct number sig receiver args .strict =
      (.error (Argument.mismatch i p (.primitive v)), []) := by
  obtain ⟨fits, arity, i, p, k, v, first, kind⟩ := mixes
  have fault : Argument.fault i p (.primitive v) = Argument.mismatch i p (.primitive v) := by
    simp only [Argument.fault, kind]
  refine ⟨i, p, v, ?_⟩
  rw [construct_of_firstFault (.argument fits arity first), fault]

/-- A frame is built alike under both policies, or it is refused alike, unless the strict policy
refuses it because of a kind. -/
theorem construct_convert {sig : Signature} {receiver : Option Address} {args : List Argument}
    (kinds : ¬sig.MixesKinds receiver args) (number : Nat) :
    construct number sig receiver args .convert =
      ((construct number sig receiver args .strict).1.map (under .convert),
        (construct number sig receiver args .strict).2) := by
  rcases sig.accepts_or_firstFault receiver args .strict with accepts | ⟨e, fault⟩
  · obtain ⟨slots, effects, -, stored, built⟩ := construct_of_accepts accepts number
    obtain ⟨slots', effects', -, stored', built'⟩ := construct_of_accepts accepts.convert number
    rw [Slot.fillAll_convert accepts.fits, stored] at stored'
    obtain ⟨rfl, rfl⟩ : slots = slots' ∧ effects = effects' := by simpa using stored'
    rw [built, built']
    rfl
  · rw [construct_of_firstFault fault, construct_of_firstFault (fault.convert kinds)]
    rfl

end Frame

/-! ## Operations under both policies -/

/-- What came of an operation, with the frame under another policy. -/
def Reaction.under {α : Type} (p : Policy) (r : Reaction α) : Reaction α :=
  ⟨r.answer, r.frame.under p, r.effects⟩

namespace Frame

variable {f : Frame} {op : Operation} (p : Policy)

private theorem argument_under {i : Nat} {k : Kind} (h : f.mixesKinds (.argument i k) = false) :
    (f.under p).argument i k = f.argument i k := by
  unfold argument slotAt
  cases slot : f.slots[i]? with
  | none => simp [under, slot]
  | some stored =>
    cases stored with
    | primitive v =>
      have same : v.kind = k := by simpa [mixesKinds, slot] using h
      simp only [under, slot, Policy.coerce_of_kind_eq _ same]
    | _ => simp [under, slot]

private theorem setReturnValue_under {v : Value} (h : f.mixesKinds (.setReturnValue v) = false) :
    (f.under p).setReturnValue v = (f.setReturnValue v).under p := by
  obtain ⟨number, signature, receiver, slots, result, policy, exception⟩ := f
  cases result with
  | primitive u =>
    have same : v.kind = u.kind := by simpa [mixesKinds] using h
    simp only [setReturnValue, under, Policy.coerce_of_kind_eq _ same]
    rfl
  | _ => rfl

private theorem takeHandle_under (i : Nat) :
    (f.under p).takeHandle i = (f.takeHandle i).under p := by
  have slot : (f.under p).slotAt i = f.slotAt i := rfl
  have type : (f.under p).argumentType i = f.argumentType i := rfl
  rw [takeHandle, takeHandle, slot, type]
  rcases f.slotAt i with e | (v | ⟨a, _ | _⟩ | instance' | a) <;> cases f.argumentType i <;> rfl

private theorem setReturnAddress_under (a : Address) :
    (f.under p).setReturnAddress a = (f.setReturnAddress a).under p := by
  obtain ⟨number, ⟨name, object, params, returns⟩, receiver, slots, result, policy, exception⟩ := f
  cases result <;> cases returns <;> rfl

private theorem setReturnHandle_under (h : Option Handle) :
    (f.under p).setReturnHandle h = (f.setReturnHandle h).under p := by
  have there : (f.under p).result = f.result := rfl
  rw [setReturnHandle, setReturnHandle, there, setReturnAddress_under]
  cases f.result <;> rfl

private theorem setReturnObject_under (a : Address) :
    (f.under p).setReturnObject a = (f.setReturnObject a).under p := by
  have returns : (f.under p).signature.returns = f.signature.returns := rfl
  have there : (f.under p).result = f.result := rfl
  have storage : (f.under p).resultAddress = f.resultAddress := rfl
  rw [setReturnObject, setReturnObject, returns, there, storage, setReturnAddress_under]
  cases f.signature.returns with
  | handle t auto =>
    by_cases same : f.result = .handle a
    · simp only [if_pos same]
      rfl
    · simp only [if_neg same]
      rfl
  | value t =>
    dsimp only
    cases a.isNull with
    | true => rfl
    | false =>
      cases t.copy f.resultAddress a with
      | error e => rfl
      | ok effects => cases f.result <;> rfl
  | _ => rfl

private theorem markConstructed_under :
    (f.under p).markConstructed = f.markConstructed.under p := by
  obtain ⟨number, signature, receiver, slots, result, policy, exception⟩ := f
  cases result <;> rfl

private theorem setException_under (message : String) :
    (f.under p).setException message = (f.setException message).under p := by
  obtain ⟨number, signature, receiver, slots, result, policy, exception⟩ := f
  cases exception <;> rfl

private theorem writeRaw_under (a : Address) (new : Payload) :
    (f.under p).writeRaw a new = ((f.writeRaw a new).1.under p, (f.writeRaw a new).2) := by
  have number : (f.under p).number = f.number := rfl
  have slots : (f.under p).slots = f.slots := rfl
  have there : (f.under p).result = f.result := rfl
  cases a with
  | argument frame index =>
    simp only [writeRaw, number, slots]
    split
    · rcases f.slots[index]? with _ | (v | _ | _ | _) <;> rfl
    · rfl
  | result frame =>
    simp only [writeRaw, number, there]
    split
    · cases f.result <;> rfl
    · rfl
  | _ => rfl

/-- **One step.** Under which policy an operation is done makes no difference, if no value is used
as one of another kind. -/
theorem perform_under (asks : op ≠ .policy) (kinds : f.mixesKinds op = false) :
    (f.under p).perform op = (f.perform op).under p := by
  have read (answer : Except CallError Reply) :
      (f.under p).reading answer = (f.reading answer).under p := rfl
  cases op with
  | policy => exact absurd rfl asks
  | argument i k => rw [perform, perform, argument_under p kinds, read]
  | typedArgument i k =>
    rw [perform, perform, typedArgument_eq_argument, typedArgument_eq_argument,
      argument_under p kinds, read]
  | setReturnValue v =>
    rw [perform, perform, setReturnValue_under p kinds]
    rfl
  | take i =>
    rw [perform, perform, takeHandle_under]
    rfl
  | setReturnAddress a =>
    rw [perform, perform, setReturnAddress_under]
    rfl
  | setReturnHandle h =>
    rw [perform, perform, setReturnHandle_under]
    rfl
  | setReturnObject a =>
    rw [perform, perform, setReturnObject_under]
    rfl
  | markConstructed =>
    rw [perform, perform, markConstructed_under]
    rfl
  | raise message =>
    rw [perform, perform, setException_under]
    rfl
  | write a new =>
    rw [perform, perform, writeRaw_under]
    rfl
  | _ => rfl

/-- Under the strict policy a read of another kind is refused, and under the converting one it is
not. -/
theorem argument_of_mixesKinds {i : Nat} {k : Kind} (strict : f.policy = .strict)
    (mixes : f.mixesKinds (.argument i k) = true) :
    (∃ e, f.argument i k = .error e) ∧ ∃ u, (f.under .convert).argument i k = .ok u := by
  cases slot : f.slots[i]? with
  | none => simp [mixesKinds, slot] at mixes
  | some stored =>
    cases stored with
    | primitive v =>
      have other : v.kind ≠ k := by simpa [mixesKinds, slot] using mixes
      have here : f.slotAt i = .ok (.primitive v) := slotAt_eq_ok_iff.mpr slot
      have there : (f.under .convert).slotAt i = .ok (.primitive v) := slotAt_eq_ok_iff.mpr slot
      constructor
      · refine ⟨slotMismatch i (.primitive v) k.scriptName, ?_⟩
        simp only [argument, here, strict, Policy.coerce, if_neg other]
      · refine ⟨v.convert k, ?_⟩
        have policy : (f.under .convert).policy = .convert := rfl
        simp only [argument, there, policy, Policy.coerce_convert]
    | _ => simp [mixesKinds, slot] at mixes

theorem setReturnValue_of_mixesKinds {v : Value} (strict : f.policy = .strict)
    (mixes : f.mixesKinds (.setReturnValue v) = true) :
    (∃ e, (f.setReturnValue v).answer = .error e) ∧
      ((f.under .convert).setReturnValue v).answer = .ok () := by
  cases stored : f.result with
  | primitive u =>
    have other : v.kind ≠ u.kind := by simpa [mixesKinds, stored] using mixes
    have there : (f.under .convert).result = .primitive u := stored
    have policy : (f.under .convert).policy = .convert := rfl
    constructor
    · refine ⟨.returnTypeMismatch u.kind.scriptName v.kind.scriptName, ?_⟩
      simp only [setReturnValue, stored, strict, Policy.coerce, if_neg other]
      rfl
    · simp only [setReturnValue, there, policy, Policy.coerce_convert]
      rfl
  | _ => simp [mixesKinds, stored] at mixes

/-- Operations that mix kinds are refused under the strict policy and not under the converting one,
and there are no others that are. -/
theorem mixesKinds_iff (strict : f.policy = .strict) :
    f.mixesKinds op = true ↔ (∃ e, (f.perform op).answer = .error e) ∧
      ∀ e, ((f.under .convert).perform op).answer ≠ .error e := by
  constructor
  · intro mixes
    cases op with
    | argument i k =>
      obtain ⟨⟨e, refused⟩, u, taken⟩ := argument_of_mixesKinds strict mixes
      rw [perform, perform, refused, taken]
      refine ⟨⟨e, rfl⟩, ?_⟩
      rintro e' ⟨⟩
    | typedArgument i k =>
      obtain ⟨⟨e, refused⟩, u, taken⟩ := argument_of_mixesKinds strict mixes
      rw [perform, perform, typedArgument_eq_argument, typedArgument_eq_argument, refused, taken]
      refine ⟨⟨e, rfl⟩, ?_⟩
      rintro e' ⟨⟩
    | setReturnValue v =>
      obtain ⟨⟨e, refused⟩, taken⟩ := setReturnValue_of_mixesKinds strict mixes
      rw [perform, perform, Reaction.map, Reaction.map, refused, taken]
      refine ⟨⟨e, rfl⟩, ?_⟩
      rintro e' ⟨⟩
    | _ => cases mixes
  · rintro ⟨⟨e, refused⟩, accepted⟩
    cases kinds : f.mixesKinds op with
    | true => rfl
    | false =>
      refine absurd ?_ (accepted e)
      by_cases asks : op = .policy
      · subst asks
        cases refused
      · rw [perform_under .convert asks kinds]
        exact refused

/-! ## Runs under both policies -/

private theorem finish_under : (f.under p).finish = f.finish := rfl

private theorem abandon_under : (f.under p).abandon = f.abandon := rfl

end Frame

/-- The same act with the frame under another policy. -/
def Act.under (p : Policy) (act : Act) : Act := { act with frame := act.frame.under p }

/-- The same performance with all frames under another policy. -/
def Performance.under (p : Policy) (x : Performance) : Performance :=
  ⟨x.acts.map (Act.under p), x.frame.under p, x.store⟩

/-- Whether an act does not ask for the policy and uses no value as one of another kind. -/
def Act.KeepsKinds (act : Act) : Prop :=
  act.operation ≠ .policy ∧ act.frame.mixesKinds act.operation = false

instance (act : Act) : Decidable act.KeepsKinds :=
  inferInstanceAs (Decidable (act.operation ≠ .policy ∧ _))

namespace NativeCode

/-- **Two runs.** Native code that mixes no kinds does the same under every policy. -/
theorem run_under (code : NativeCode) (f : Frame) (s : Store)
    (kinds : ∀ act ∈ (code.run f s).acts, act.KeepsKinds) (p : Policy) :
    code.run (f.under p) s = (code.run f s).under p := by
  induction code generalizing f s with
  | stop => rfl
  | perform op next ih =>
    obtain ⟨asks, same⟩ : Act.KeepsKinds ⟨f, op, (f.perform op).answer, (f.perform op).effects⟩ :=
      kinds _ List.mem_cons_self
    have later := ih (f.perform op).answer (f.perform op).frame (s.applyAll (f.perform op).effects)
      fun act there ↦ kinds act (List.mem_cons_of_mem _ there)
    simp only [run, Frame.perform_under p asks same, Reaction.under, later]
    rfl
  | look a next ih => exact ih (f.readRaw? a) f s kinds
  | elsewhere act next ih => exact ih s f (act s) kinds

end NativeCode

/-! ## Calls under both policies -/

namespace Function

/-- The same function with another policy. -/
def under (p : Policy) (fn : Function) : Function := { fn with policy := p }

/-- A call begins alike under both policies, unless the strict policy refuses it because of a
kind. -/
private theorem enter_convert (fn : Function) {receiver : Option Address} {args : List Argument}
    (kinds : ¬fn.signature.MixesKinds receiver args) (number : Nat) :
    (fn.under .convert).enter number receiver args =
      (((fn.under .strict).enter number receiver args).1.map (Frame.under .convert),
        ((fn.under .strict).enter number receiver args).2) := by
  have built := Frame.construct_convert kinds number
  simp only [enter, under, built]
  rcases Frame.construct number fn.signature receiver args .strict with ⟨_ | f, effects⟩ <;> rfl

/-- **The converting policy extends the strict one.** A call in which nothing is refused because of
its kind, and whose native code does not ask for the policy, is the same under both policies. -/
theorem convert_extends_strict (fn : Function) (code : NativeCode) (receiver : Option Address)
    (args : List Argument) (s : Store) (call : ¬fn.signature.MixesKinds receiver args)
    (body : ∀ f effects, (fn.under .strict).enter s.frames receiver args = (.ok f, effects) →
      ∀ act ∈ (code.run f (s.newFrame.2.applyAll effects)).acts, act.KeepsKinds) :
    Frame.construct s.frames fn.signature receiver args .convert =
        ((Frame.construct s.frames fn.signature receiver args .strict).1.map (Frame.under .convert),
          (Frame.construct s.frames fn.signature receiver args .strict).2) ∧
      (∀ f effects, (fn.under .strict).enter s.frames receiver args = (.ok f, effects) →
        (fn.under .convert).enter s.frames receiver args = (.ok (f.under .convert), effects) ∧
        code.run (f.under .convert) (s.newFrame.2.applyAll effects) =
          (code.run f (s.newFrame.2.applyAll effects)).under .convert ∧
        (code.run (f.under .convert) (s.newFrame.2.applyAll effects)).frame.finish =
          (code.run f (s.newFrame.2.applyAll effects)).frame.finish ∧
        (code.run (f.under .convert) (s.newFrame.2.applyAll effects)).frame.abandon =
          (code.run f (s.newFrame.2.applyAll effects)).frame.abandon) ∧
      (fn.under .convert).invoke code.native receiver args s =
        (fn.under .strict).invoke code.native receiver args s := by
  have begins := fn.enter_convert call s.frames
  refine ⟨Frame.construct_convert call s.frames, fun f effects entered ↦ ?_, ?_⟩
  · have same := code.run_under f _ (body f effects entered) .convert
    rw [begins, entered, same]
    exact ⟨rfl, rfl, Frame.finish_under .convert, Frame.abandon_under .convert⟩
  · rcases entered : (fn.under .strict).enter s.frames receiver args with ⟨e | f, effects⟩
    · rw [entered] at begins
      simp only [invoke, Store.newFrame, entered, begins, Except.map]
    · have same := code.run_under f _ (body f effects entered) .convert
      rw [entered] at begins
      simp only [Store.newFrame] at same
      simp only [invoke, Store.newFrame, entered, begins, Except.map, NativeCode.native, same]
      rfl

/-- Native code that claims the handle of its second argument and returns it, if that is not an
integer. -/
def passOn : NativeCode :=
  .perform (.typedArgument 1 (.signed .bits32)) fun
    | .ok _ => .stop
    | .error _ =>
      .perform (.take 1) fun
        | .ok (.handle h) => .perform (.setReturnHandle h) fun _ ↦ .stop
        | _ => .stop

/-- Native code of `relay`: it passes its handle on if its integer is five, and raises otherwise. -/
def passing : NativeCode :=
  .perform (.argument 0 (.signed .bits32)) fun
    | .ok (.value v) =>
      if v = .signed .bits32 5 then passOn else .perform (.raise "not five") fun _ ↦ .stop
    | _ => .stop

/-- A call of `relay` that passes its handle on, under both policies. -/
theorem convert_extends_strict_passing :
    ((ofSignature Frame.relay).under .convert).invoke passing.native none
        [.primitive (.signed .bits32 5), .handle (.object 0)] Frame.oneNode =
      ((ofSignature Frame.relay).under .strict).invoke passing.native none
        [.primitive (.signed .bits32 5), .handle (.object 0)] Frame.oneNode ∧
    (((ofSignature Frame.relay).under .strict).invoke passing.native none
        [.primitive (.signed .bits32 5), .handle (.object 0)] Frame.oneNode).1 =
      .ok (.returned (.handle (some ⟨.counted "Node", .object 0⟩))) := by
  have fits : Argument.FitAll .strict Frame.relay.params
      [.primitive (.signed .bits32 5), .handle (.object 0)] := by
    rw [Frame.relay, Argument.fitAll_cons, Argument.fitAll_cons]
    exact ⟨Or.inl rfl, trivial, by simp [Argument.FitAll]⟩
  have call : ¬Frame.relay.MixesKinds none
      [.primitive (.signed .bits32 5), .handle (.object 0)] := by
    rintro ⟨-, -, i, p, k, v, first, -⟩
    exact first.unfit (fits i p _ first.param first.argument)
  have body (f : Frame) (effects : List Effect)
      (entered : ((ofSignature Frame.relay).under .strict).enter Frame.oneNode.frames none
        [.primitive (.signed .bits32 5), .handle (.object 0)] = (.ok f, effects)) :
      ∀ act ∈ (passing.run f (Frame.oneNode.newFrame.2.applyAll effects)).acts, act.KeepsKinds := by
    cases entered
    decide
  obtain ⟨-, -, same⟩ := (ofSignature Frame.relay).convert_extends_strict passing none
    [.primitive (.signed .bits32 5), .handle (.object 0)] Frame.oneNode call body
  exact ⟨same, by decide⟩

end Function

end CallingConvention
