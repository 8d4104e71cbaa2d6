import CallingConvention.Proofs.Refusal

/-!
# Exceptions and outcomes

How a call ends depends on all that its native code did. The messages that native code raised
(`Operation.raised`) settle whether it ends with an exception: if there is one, then the outcome is
an exception with the first of them. `exception_run` is the invariant behind this. An exception that
is pending is not replaced, and later ones are refused with the message of the first.

If nothing was raised, then a call that returns an instance has to have constructed it at some time
(`Frame.Constructs`), and every other call returns.

A frame that ends with an exception does nothing about its return slot. What is left is the teardown
of its arguments (`Frame.teardown`), which is the same for every outcome.
-/

namespace CallingConvention

/-! ## Exceptions -/

namespace Operation

/-- The message that an operation raises. -/
def message? : Operation → Option String
  | raise message => some message
  | _ => none

/-- The messages that operations raise, in order. -/
def raised (ops : List Operation) : List String := ops.filterMap message?

theorem message?_eq_some_iff {op : Operation} {message : String} :
    op.message? = some message ↔ op = .raise message := by
  cases op <;> simp [message?]

private theorem raised_ne_nil_iff {ops : List Operation} :
    raised ops ≠ [] ↔ ∃ message, .raise message ∈ ops := by
  rw [raised, ne_eq, List.filterMap_eq_nil_iff]
  constructor
  · intro present
    simp only [not_forall] at present
    obtain ⟨op, there, loud⟩ := present
    obtain ⟨message, raises⟩ := Option.ne_none_iff_exists'.mp loud
    exact ⟨message, message?_eq_some_iff.mp raises ▸ there⟩
  · rintro ⟨message, there⟩ silent
    cases silent _ there

end Operation

namespace Frame

theorem Change.exception {f g : Frame} {op : Operation} (change : f.Change op g)
    (silent : op.message? = none) : g.exception = f.exception := by
  cases change with
  | raise => cases silent
  | _ => rfl

theorem exception_perform (f : Frame) (op : Operation) :
    (f.perform op).frame.exception =
      f.exception.or (op.message?.map (ScriptException.mk f.signature.qualifiedName)) := by
  cases message : op.message? with
  | none => rw [(change_perform f op).exception message, Option.map_none, Option.or_none]
  | some m =>
    obtain rfl := Operation.message?_eq_some_iff.mp message
    rw [perform, Reaction.frame_map, setException]
    cases pending : f.exception with
    | none => rfl
    | some x => exact pending

/-- **The first exception stands.** -/
theorem exception_run (f : Frame) (ops : List Operation) :
    (f.run ops).frame.exception =
      f.exception.or
        ((Operation.raised ops).head?.map (ScriptException.mk f.signature.qualifiedName)) := by
  induction ops generalizing f with
  | nil => exact (Option.or_none).symm
  | cons op ops ih =>
    rw [frame_run_cons, ih, exception_perform, (change_perform f op).sameCall.signature,
      Option.or_assoc]
    cases message : op.message? with
    | none => simp [Operation.raised, message]
    | some m => simp [Operation.raised, message]

private theorem answer_raise {f : Frame} {x : ScriptException} (pending : f.exception = some x)
    (message : String) :
    (f.perform (.raise message)).answer = .error (.exceptionAlreadySet x.message) := by
  rw [perform, setException, pending]
  rfl

/-! ## The returned instance -/

/-- Whether native code has constructed the returned instance: some operation that does so was not
refused. -/
def Constructs (f : Frame) (ops : List Operation) : Prop :=
  ∃ op reply, (op, .ok reply) ∈ ops.zip (f.run ops).replies ∧ op.constructs = true

private theorem constructs_cons {f : Frame} {op : Operation} {ops : List Operation} :
    f.Constructs (op :: ops) ↔
      (op.constructs = true ∧ ∃ reply, (f.perform op).answer = .ok reply) ∨
        (f.perform op).frame.Constructs ops := by
  constructor
  · rintro ⟨op', reply, there, constructs⟩
    rw [run, List.zip_cons_cons, List.mem_cons] at there
    rcases there with here | later
    · obtain ⟨rfl, answer⟩ := Prod.mk.inj here
      exact .inl ⟨constructs, reply, answer.symm⟩
    · exact .inr ⟨op', reply, later, constructs⟩
  · rintro (⟨constructs, reply, answer⟩ | ⟨op', reply, later, constructs⟩)
    · refine ⟨op, reply, ?_, constructs⟩
      rw [run, List.zip_cons_cons, answer]
      exact List.mem_cons_self
    · exact ⟨op', reply, List.mem_cons_of_mem _ later, constructs⟩

private theorem WellTyped.result_of_constructs {f : Frame} (typed : f.WellTyped) {t : ScriptType}
    (returns : f.signature.returns = .value t) {op : Operation} (constructs : op.constructs = true)
    {reply : Reply} (taken : (f.perform op).answer = .ok reply) :
    (f.perform op).frame.result = .object true := by
  cases op with
  | setReturnObject a =>
    refine typed.setReturnObject_value returns ?_
    cases answer : (f.setReturnObject a).answer with
    | ok done => rfl
    | error e =>
      rw [Frame.perform, Reaction.map, answer] at taken
      cases taken
  | markConstructed =>
    obtain ⟨constructed, result⟩ := typed.exists_object returns
    rw [Frame.perform, markConstructed, result]
    rfl
  | _ => cases constructs

/-- One operation: there is an instance afterwards if there was one before, or if one was
constructed. -/
private theorem WellTyped.isOccupied_perform {f : Frame} (typed : f.WellTyped) {t : ScriptType}
    (returns : f.signature.returns = .value t) (op : Operation) :
    (f.perform op).frame.isOccupied = true ↔ f.isOccupied = true ∨
      op.constructs = true ∧ ∃ reply, (f.perform op).answer = .ok reply := by
  obtain ⟨constructed, result⟩ := typed.exists_object returns
  cases constructs : op.constructs with
  | false =>
    rw [isOccupied, result_perform result constructs, ← isOccupied]
    simp
  | true =>
    cases answer : (f.perform op).answer with
    | ok reply =>
      rw [isOccupied_of_result (typed.result_of_constructs returns constructs answer)]
      simp
    | error e =>
      rw [typed.atomic_perform op e answer]
      simp

/-- **The return storage holds an instance if and only if one was constructed.** -/
theorem WellTyped.isOccupied_run {f : Frame} (typed : f.WellTyped) {t : ScriptType}
    (returns : f.signature.returns = .value t) (ops : List Operation) :
    (f.run ops).frame.isOccupied = true ↔ f.isOccupied = true ∨ f.Constructs ops := by
  induction ops generalizing f with
  | nil => simp [Constructs]
  | cons op ops ih =>
    have same := (change_perform f op).sameCall
    rw [frame_run_cons, ih (typed.perform op) (same.signature ▸ returns),
      typed.isOccupied_perform returns, constructs_cons, or_assoc]

/-! ## The end of a call -/

/-- What happens when a frame ends on account of its arguments. -/
def teardown (f : Frame) : List Effect :=
  f.unreleased.flatMap (fun (t, a) ↦ t.release a)
    ++ [.tally .handlesReleased f.unreleased.length,
      .log (.frameTeardown f.signature.name f.unreleased.length)]
    ++ f.slots.flatMap Slot.discard

/-- Nothing else than the arguments counts for that. -/
private theorem teardown_with (f : Frame) (r : ReturnSlot) (x : Option ScriptException) :
    { f with result := r, exception := x }.teardown = f.teardown := by
  have same : { f with result := r, exception := x }.unreleased = f.unreleased := by
    rw [← unreleased_settled f, ← unreleased_settled { f with result := r, exception := x }]
  rw [teardown, teardown, same]

theorem finish_eq (f : Frame) : f.finish = (f.outcome.1, f.outcome.2 ++ f.teardown) := by
  have settled : { f with result := .void, exception := none }.abandon = f.teardown := by
    rw [abandon, unreleased_settled, teardown]
    exact congrArg (· ++ _ ++ _) (List.append_nil _)
  rw [finish, settled]

private theorem ends_of_exception {f : Frame} {x : ScriptException}
    (pending : f.exception = some x) :
    f.finish = (.ok (.raised x), f.teardown) ∧ f.abandon = f.teardown := by
  constructor
  · rw [finish_eq, outcome, pending]
    rfl
  · rw [abandon, discardResult, hasException, pending, Option.isSome_some, if_pos rfl,
      List.append_nil, teardown]

theorem WellTyped.finish_eq_raised_iff {f : Frame} (typed : f.WellTyped) {x : ScriptException} :
    f.finish.1 = .ok (.raised x) ↔ f.exception = some x := by
  constructor
  · intro raised
    have ends : f.Ends f.finish.1 := typed.ends_outcome
    rw [raised] at ends
    cases ends with
    | raised pending => exact pending
  · intro pending
    rw [(ends_of_exception pending).1]

theorem WellTyped.finish_eq_error_iff {f : Frame} (typed : f.WellTyped) :
    f.finish.1 = .error (.returnNotConstructed f.signature.qualifiedName) ↔
      f.exception = none ∧ f.result = .object false := by
  have ends : f.Ends f.finish.1 := typed.ends_outcome
  constructor
  · intro failed
    rw [failed] at ends
    cases ends with
    | unconstructed quiet missing => exact ⟨quiet, missing⟩
  · rintro ⟨quiet, missing⟩
    generalize f.finish.1 = outcome at ends
    cases ends with
    | raised pending => cases quiet.symm.trans pending
    | unconstructed => rfl
    | returned _ there => exact absurd missing there

private theorem WellTyped.result_run_iff {f : Frame} (typed : f.WellTyped)
    (vacant : f.isOccupied = false) (ops : List Operation) :
    (f.run ops).frame.result = .object false ↔
      (∃ t, f.signature.returns = .value t) ∧ ¬f.Constructs ops := by
  have same := (sameCall_run f ops).signature
  constructor
  · intro missing
    obtain ⟨t, returns⟩ := (typed.run ops).returns_value missing
    rw [same] at returns
    refine ⟨⟨t, returns⟩, fun constructs ↦ ?_⟩
    have there := (typed.isOccupied_run returns ops).mpr (.inr constructs)
    rw [isOccupied_of_result missing] at there
    cases there
  · rintro ⟨⟨t, returns⟩, none⟩
    obtain ⟨constructed, result⟩ := (typed.run ops).exists_object (same ▸ returns)
    cases constructed with
    | false => exact result
    | true =>
      rcases (typed.isOccupied_run returns ops).mp (isOccupied_of_result result) with there | here
      · rw [vacant] at there
        cases there
      · exact absurd here none

theorem signature_exception_of_construct {number : Nat} {sig : Signature}
    {receiver : Option Address} {args : List Argument} {policy : Policy} {f : Frame}
    (h : (construct number sig receiver args policy).1 = .ok f) :
    f.signature = sig ∧ f.exception = none := by
  obtain ⟨slots, effects, -, rfl, -⟩ := exists_filledAll_of_construct h
  exact ⟨rfl, rfl⟩

/-- **Exceptions decide.** A call ends with an exception if and only if native code raised one, and
then with the first one. Otherwise an instance is missing if and only if none was constructed. -/
theorem exceptions_decide {number : Nat} {sig : Signature} {receiver : Option Address}
    {args : List Argument} {policy : Policy} {f g : Frame} {ops : List Operation}
    (built : (construct number sig receiver args policy).1 = .ok f)
    (done : (f.run ops).frame = g) :
    ((∃ x, g.finish.1 = .ok (.raised x)) ↔ ∃ message, .raise message ∈ ops) ∧
      (∀ first, (Operation.raised ops).head? = some first →
        g.finish = (.ok (.raised ⟨sig.qualifiedName, first⟩), g.teardown) ∧
        g.abandon = g.teardown ∧ Outcome.discard g.finish.1 = [] ∧
        ∀ later, (g.perform (.raise later)).answer = .error (.exceptionAlreadySet first)) ∧
      (∀ r x, { g with result := r, exception := x }.teardown = g.teardown) ∧
      g.finish.2 = g.outcome.2 ++ g.teardown ∧
      ((∀ message, .raise message ∉ ops) →
        (g.finish.1 = .error (.returnNotConstructed sig.qualifiedName) ↔
          (∃ t, sig.returns = .value t) ∧ ¬f.Constructs ops) ∧
        (g.finish.1 = .error (.returnNotConstructed sig.qualifiedName) ∨
          ∃ v : ReturnValue, v.Matches sig.returns ∧ g.finish.1 = .ok (.returned v))) := by
  subst done
  obtain ⟨declared, quiet⟩ := signature_exception_of_construct built
  have typed := (wellTyped_of_construct built).run ops
  have signature : (f.run ops).frame.signature = sig :=
    (sameCall_run f ops).signature.trans declared
  have pending : (f.run ops).frame.exception =
      (Operation.raised ops).head?.map (ScriptException.mk sig.qualifiedName) := by
    rw [exception_run, quiet, declared, Option.none_or]
  have missing := (wellTyped_of_construct built).result_run_iff (isOccupied_of_construct built) ops
  rw [declared] at missing
  generalize (f.run ops).frame = g at typed signature pending missing ⊢
  refine ⟨?_, fun first head ↦ ?_, g.teardown_with, by rw [finish_eq], fun silent ↦ ?_⟩
  · simp only [typed.finish_eq_raised_iff, pending, ← Operation.raised_ne_nil_iff]
    cases Operation.raised ops <;> simp
  · rw [head] at pending
    obtain ⟨finished, abandoned⟩ := ends_of_exception pending
    refine ⟨finished, abandoned, ?_, answer_raise pending⟩
    rw [finished]
    rfl
  · have none : Operation.raised ops = [] := by
      by_contra present
      obtain ⟨message, there⟩ := Operation.raised_ne_nil_iff.mp present
      exact silent message there
    rw [none] at pending
    have failed := typed.finish_eq_error_iff
    rw [signature] at failed
    refine ⟨by rw [failed, ← missing]; exact and_iff_right pending, ?_⟩
    have ends : g.Ends g.finish.1 := typed.ends_outcome
    generalize g.finish.1 = outcome at ends
    cases ends with
    | raised thrown => cases pending.symm.trans thrown
    | unconstructed => exact .inl (by rw [signature])
    | returned _ _ matched => exact .inr ⟨_, signature ▸ matched, rfl⟩

/-- Two calls of `join`: one builds its result between two exceptions, the other does nothing. -/
theorem exceptions_decide_joining :
    ((joining.run [.raise "early", .markConstructed, .raise "late"]).frame.finish.1 =
        .ok (.raised ⟨"join", "early"⟩) ∧
      ((joining.run [.raise "early", .markConstructed, .raise "late"]).frame.perform
        (.raise "too late")).answer = .error (.exceptionAlreadySet "early")) ∧
      joining.finish.1 = .error (.returnNotConstructed "join") := by
  have built : (construct 0 join none
      [.object (.region 0), .primitive (.signed .bits32 7), .object (.region 0)] .strict).1 =
      .ok joining := rfl
  have ran : (joining.run [.raise "early", .markConstructed, .raise "late"]).frame =
      (joining.run [.raise "early", .markConstructed, .raise "late"]).frame := rfl
  have idle : (joining.run []).frame = joining := rfl
  have nothing : ¬joining.Constructs [] := by
    rintro ⟨op, reply, there, -⟩
    cases there
  obtain ⟨-, raised, -⟩ := exceptions_decide built ran
  obtain ⟨finished, -, -, refused⟩ := raised "early" rfl
  obtain ⟨-, -, -, -, silent⟩ := exceptions_decide built idle
  obtain ⟨missing, -⟩ := silent fun message ↦ List.not_mem_nil
  exact ⟨⟨congrArg Prod.fst finished, refused "too late"⟩, missing.mpr ⟨⟨label, rfl⟩, nothing⟩⟩

end Frame

end CallingConvention
