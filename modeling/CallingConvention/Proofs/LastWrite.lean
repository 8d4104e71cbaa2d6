import CallingConvention.Proofs.Exception

/-!
# Two ways to the same storage

Native code reaches the arguments and the return of a call in two ways: through operations that know
the types, and through the addresses of the storage. Both ways lead to the same storage, so that
what was written last in either way is what is read, in either way.

This is said of native code that keeps to the types where it writes through an address of the call's
own (`Operation.WritesDeclared`). Operations may be mixed in any order (`last`), and one that is
refused leaves what was written before.
-/

namespace CallingConvention

/-! ## The last write -/

namespace Operation

/-- The last thing that operations do of what `does` tells, or what there is at first. -/
def last {α : Type} (does : Operation → Option α) (first : α) (ops : List Operation) : α :=
  (ops.filterMap does).getLast?.getD first

@[simp] theorem last_nil {α : Type} (does : Operation → Option α) (first : α) :
    last does first [] = first :=
  rfl

private theorem last_cons {α : Type} (does : Operation → Option α) (first : α) (op : Operation)
    (ops : List Operation) :
    last does first (op :: ops) = last does ((does op).getD first) ops := by
  unfold last
  cases done : does op with
  | none => rw [List.filterMap_cons_none done, Option.getD_none]
  | some a =>
    rw [List.filterMap_cons_some done, List.getLast?_cons, Option.getD_some, Option.getD_some]

/-- The value that an operation writes to the storage of an argument. -/
def stores? (number i : Nat) : Operation → Option Value
  | write a (.value v) => if a = .argument number i then some v else none
  | _ => none

/-- The primitive value that an operation returns from a call that returns a kind. -/
def returnsValue? (number : Nat) (policy : Policy) (k : Kind) : Operation → Option Value
  | setReturnValue v => policy.coerce k v
  | write a (.value v) => if a = .result number then some v else none
  | _ => none

/-- The address that an operation returns from a call that returns a reference. -/
def returnsAddress? (number : Nat) : Operation → Option Address
  | setReturnAddress a => some a
  | setReturnObject a => some a
  | write a (.address b) => if a = .result number then some b else none
  | _ => none

/-- Whether an operation, if it writes to the storage of a call through an address, writes what is
declared there: a value of the kind of a primitive argument or return, or the address of a reference
return. -/
def WritesDeclared (number : Nat) (sig : Signature) : Operation → Prop
  | write (.argument frame i) p => frame = number →
    ∃ q v, sig.params[i]? = some q ∧ q.slotKind = .primitive v.kind ∧ p = .value v
  | write (.result frame) p => frame = number →
    (∃ v, sig.returns = .primitive v.kind ∧ p = .value v) ∨
      ∃ t a, sig.returns = .reference t ∧ p = .address a
  | _ => True

end Operation

namespace Frame

/-! ## Writes through addresses -/

variable {f : Frame} {i : Nat} {a : Address} {p : Payload}

private theorem slots_writeRaw_of_ne (elsewhere : a ≠ .argument f.number i) :
    (f.writeRaw a p).1.slots[i]? = f.slots[i]? := by
  have set (slot : Slot) (j : Nat) (h : a = .argument f.number j) :
      (f.setSlot j slot).slots[i]? = f.slots[i]? :=
    List.getElem?_set_ne fun same ↦ elsewhere (h.trans (congrArg (Address.argument f.number) same))
  unfold writeRaw
  split
  · next number j =>
    split
    · next own =>
      subst own
      split
      · exact set _ j rfl
      · exact set _ j rfl
      · rfl
      · rfl
    · rfl
  · split
    · split <;> rfl
    · rfl
  · rfl
  · rfl

private theorem result_writeRaw_of_ne (elsewhere : a ≠ .result f.number) :
    (f.writeRaw a p).1.result = f.result := by
  unfold writeRaw
  split
  · split
    · split <;> rfl
    · rfl
  · next number =>
    split
    · next own => exact absurd (congrArg Address.result own) elsewhere
    · rfl
  · rfl
  · rfl

private theorem writeRaw_argument {u v : Value} (there : f.slots[i]? = some (.primitive u))
    (kind : v.kind = u.kind) :
    f.writeRaw (.argument f.number i) (.value v) = (f.setSlot i (.primitive v), []) := by
  simp only [writeRaw, there, if_true, Payload.bytes, Value.overwrite_of_kind_eq kind]

private theorem writeRaw_result_primitive {u v : Value} (result : f.result = .primitive u)
    (kind : v.kind = u.kind) :
    f.writeRaw (.result f.number) (.value v) = ({ f with result := .primitive v }, []) := by
  simp only [writeRaw, result, if_true, Payload.bytes, Value.overwrite_of_kind_eq kind]

private theorem writeRaw_result_reference {b c : Address} (result : f.result = .reference b) :
    f.writeRaw (.result f.number) (.address c) = ({ f with result := .reference c }, []) := by
  simp only [writeRaw, result, if_true, Payload.bytes, Address.overwrite_bytes]

/-! ## One operation -/

/-- A slot that is not about a handle stays as it is if it is not written to. -/
private theorem Change.slots_of_not_write {g : Frame} {op : Operation} (change : f.Change op g)
    (other : ∀ a p, op ≠ .write a p) {slot : Slot} (there : f.slots[i]? = some slot)
    (unclaimable : slot.slotKind ≠ .handle) : g.slots[i]? = some slot := by
  cases change with
  | nothing => exact there
  | @claim j b old =>
    -- only handles are claimed
    have different : j ≠ i := by
      rintro rfl
      exact unclaimable (Option.some.inj (there.symm.trans old) ▸ rfl)
    exact (List.getElem?_set_ne different).trans there
  | raise => exact there
  | result => exact there
  | value => exact absurd rfl (other _ _)
  | target => exact absurd rfl (other _ _)

private theorem WellTyped.slotKind_of_primitive (typed : f.WellTyped) {u : Value} {q : Param}
    (there : f.slots[i]? = some (.primitive u)) (declared : f.signature.params[i]? = some q) :
    q.slotKind = .primitive u.kind :=
  (typed.slots i q _ declared there).symm

theorem WellTyped.slots_perform (typed : f.WellTyped) {op : Operation}
    (declared : op.WritesDeclared f.number f.signature) {u : Value}
    (there : f.slots[i]? = some (.primitive u)) :
    (f.perform op).frame.slots[i]? = some (.primitive ((op.stores? f.number i).getD u)) := by
  cases op with
  | write a p =>
    by_cases own : a = .argument f.number i
    · subst own
      obtain ⟨q, v, found, kind, rfl⟩ := declared rfl
      -- the value has the declared kind, and so has what is stored
      have same : v.kind = u.kind :=
        SlotKind.primitive.inj (kind.symm.trans (typed.slotKind_of_primitive there found))
      have stored : Operation.stores? f.number i
          (.write (.argument f.number i) (.value v)) = some v := if_pos rfl
      rw [Frame.perform, writeRaw_argument there same, stored]
      exact List.getElem?_set_self (List.getElem?_eq_some_iff.mp there).1
    · have elsewhere : Operation.stores? f.number i (.write a p) = none := by
        cases p with
        | value v => exact if_neg own
        | _ => rfl
      rw [elsewhere]
      exact (slots_writeRaw_of_ne own).trans there
  | _ =>
    exact (change_perform f _).slots_of_not_write (fun _ _ ↦ Operation.noConfusion) there
      SlotKind.noConfusion

/-- An operation leaves in a primitive return what it returns, or else what was there. -/
private theorem WellTyped.result_perform_of_primitive (typed : f.WellTyped) {op : Operation}
    (declared : op.WritesDeclared f.number f.signature) {k : Kind}
    (returns : f.signature.returns = .primitive k) {u : Value} (result : f.result = .primitive u) :
    (f.perform op).frame.result =
      .primitive ((op.returnsValue? f.number f.policy k).getD u) := by
  have kind : u.kind = k := by
    have shape := typed.result
    rw [result, returns] at shape
    exact SlotKind.primitive.inj (Option.some.inj shape)
  cases op with
  | setReturnValue v =>
    rw [Frame.perform, Reaction.frame_map, setReturnValue, result]
    simp only [kind, Operation.returnsValue?]
    cases f.policy.coerce k v with
    | none => exact result
    | some w => rfl
  | setReturnAddress a =>
    rw [Frame.perform, setReturnAddress, result]
    exact result
  | setReturnHandle h =>
    rw [Frame.perform, setReturnHandle, result]
    exact result
  | setReturnObject a =>
    rw [Frame.perform, setReturnObject, returns]
    exact result
  | markConstructed =>
    rw [Frame.perform, markConstructed, result]
    exact result
  | write a p =>
    by_cases own : a = .result f.number
    · subst own
      obtain ⟨v, same, rfl⟩ | ⟨t, b, other, -⟩ := declared rfl
      · have stored : Operation.returnsValue? f.number f.policy k
            (.write (.result f.number) (.value v)) = some v := if_pos rfl
        have fits : v.kind = u.kind :=
          (Returns.primitive.inj (same.symm.trans returns)).trans kind.symm
        rw [Frame.perform, writeRaw_result_primitive result fits, stored]
        rfl
      · exact absurd (returns.symm.trans other) Returns.noConfusion
    · have elsewhere : Operation.returnsValue? f.number f.policy k (.write a p) = none := by
        cases p with
        | value v => exact if_neg own
        | _ => rfl
      rw [elsewhere]
      exact (result_writeRaw_of_ne own).trans result
  | take j => exact (result_takeHandle f j).trans result
  | raise message => exact (result_setException f message).trans result
  | _ => exact result

private theorem result_perform_of_reference {op : Operation}
    (declared : op.WritesDeclared f.number f.signature) {t : ScriptType}
    (returns : f.signature.returns = .reference t) {b : Address}
    (result : f.result = .reference b) :
    (f.perform op).frame.result = .reference ((op.returnsAddress? f.number).getD b) := by
  cases op with
  | setReturnValue v =>
    rw [perform, setReturnValue, result]
    exact result
  | setReturnAddress a =>
    rw [perform, setReturnAddress, result]
    rfl
  | setReturnHandle h =>
    rw [perform, setReturnHandle, result]
    exact result
  | setReturnObject a =>
    rw [perform, setReturnObject, returns]
    simp only [setReturnAddress, result]
    rfl
  | markConstructed =>
    rw [perform, markConstructed, result]
    exact result
  | write a p =>
    by_cases own : a = .result f.number
    · subst own
      obtain ⟨v, other, -⟩ | ⟨s, c, -, rfl⟩ := declared rfl
      · exact absurd (returns.symm.trans other) Returns.noConfusion
      · have stored : Operation.returnsAddress? f.number
            (.write (.result f.number) (.address c)) = some c := if_pos rfl
        rw [perform, writeRaw_result_reference result, stored]
        rfl
    · have elsewhere : Operation.returnsAddress? f.number (.write a p) = none := by
        cases p with
        | address c => exact if_neg own
        | _ => rfl
      rw [elsewhere]
      exact (result_writeRaw_of_ne own).trans result
  | take j => exact (result_takeHandle f j).trans result
  | raise message => exact (result_setException f message).trans result
  | _ => exact result

/-- Whether an argument carries an address: as a reference, or as a handle, claimed or not. -/
def Carries (f : Frame) (i : Nat) (a : Address) : Prop :=
  f.slots[i]? = some (.reference a) ∨ ∃ claimed, f.slots[i]? = some (.handle a claimed)

theorem Carries.argumentAddress (carried : f.Carries i a) : f.argumentAddress i = .ok a := by
  rcases carried with there | ⟨claimed, there⟩ <;>
    rw [Frame.argumentAddress, slotAt_eq_ok_iff.mpr there]

private theorem Change.carries {g : Frame} {op : Operation} (change : f.Change op g)
    (typed : f.WellTyped) (declared : op.WritesDeclared f.number f.signature)
    (carried : f.Carries i a) : g.Carries i a := by
  have apart {j : Nat} (different : j ≠ i) (new : Slot) : (f.setSlot j new).Carries i a := by
    rw [Carries, setSlot, List.getElem?_set_ne different]
    exact carried
  cases change with
  | nothing => exact carried
  | @claim j b old =>
    by_cases same : j = i
    · subst same
      rcases carried with there | ⟨claimed, there⟩
      · cases there.symm.trans old
      · obtain ⟨rfl, -⟩ := Slot.handle.inj (Option.some.inj (there.symm.trans old))
        exact .inr ⟨true, List.getElem?_set_self (List.getElem?_eq_some_iff.mp old).1⟩
    · exact apart same _
  | raise => exact carried
  | result => exact carried
  | @value j v u p old =>
    refine apart ?_ _
    rintro rfl
    rcases carried with there | ⟨claimed, there⟩ <;> cases there.symm.trans old
  | @target j b c claimed p old =>
    -- a write that keeps to the types does not reach a handle
    obtain ⟨q, v, found, kind, -⟩ := declared rfl
    have suits := (typed.slots j q _ found old).slotKind_eq
    exact absurd (suits.trans kind) SlotKind.noConfusion

/-! ## Sequences of operations -/

/-- What a frame shows is the last thing that operations write of it, if each leaves there what it
writes or else what was there. -/
theorem run_last {α : Type} (shows : Frame → α → Prop) (does : Operation → Option α)
    (step : ∀ g op x, f.SameCall g → g.WellTyped → op.WritesDeclared f.number f.signature →
      shows g x → shows (g.perform op).frame ((does op).getD x))
    {g : Frame} (same : f.SameCall g) (typed : g.WellTyped) {x : α} (first : shows g x)
    {ops : List Operation} (declared : ∀ op ∈ ops, op.WritesDeclared f.number f.signature) :
    shows (g.run ops).frame (Operation.last does x ops) := by
  induction ops generalizing g x with
  | nil => exact first
  | cons op ops ih =>
    obtain ⟨now, later⟩ := List.forall_mem_cons.mp declared
    rw [frame_run_cons, Operation.last_cons]
    exact ih (same.trans (change_perform g op).sameCall) (typed.perform op)
      (step g op x same typed now first) later

variable {ops : List Operation}

/-- A primitive argument is what was last written to its storage. -/
theorem WellTyped.slots_run (typed : f.WellTyped)
    (declared : ∀ op ∈ ops, op.WritesDeclared f.number f.signature) {u : Value}
    (there : f.slots[i]? = some (.primitive u)) :
    (f.run ops).frame.slots[i]? =
      some (.primitive (Operation.last (Operation.stores? f.number i) u ops)) := by
  refine run_last (fun g x ↦ g.slots[i]? = some (.primitive x)) _ ?_ (.refl f) typed there declared
  intro g op x same typed now there
  rw [← same.number, ← same.signature] at now
  have stored := typed.slots_perform now there
  rwa [same.number] at stored

/-- A primitive return is what was last returned, in whatever way, and zero before. -/
theorem WellTyped.result_run_of_primitive (typed : f.WellTyped)
    (declared : ∀ op ∈ ops, op.WritesDeclared f.number f.signature) {k : Kind}
    (returns : f.signature.returns = .primitive k) {u : Value} (result : f.result = .primitive u) :
    (f.run ops).frame.result =
      .primitive (Operation.last (Operation.returnsValue? f.number f.policy k) u ops) := by
  refine run_last (fun g x ↦ g.result = .primitive x) _ ?_ (.refl f) typed result declared
  -- the frame of the step has the number, the signature and the policy of the first one
  intro g op x same typed now there
  rw [← same.number, ← same.signature] at now
  rw [← same.signature] at returns
  have stored := typed.result_perform_of_primitive now returns there
  rwa [same.number, same.policy] at stored

theorem WellTyped.result_run_of_reference (typed : f.WellTyped)
    (declared : ∀ op ∈ ops, op.WritesDeclared f.number f.signature) {t : ScriptType}
    (returns : f.signature.returns = .reference t) {b : Address}
    (result : f.result = .reference b) :
    (f.run ops).frame.result =
      .reference (Operation.last (Operation.returnsAddress? f.number) b ops) := by
  refine run_last (fun g x ↦ g.result = .reference x) _ ?_ (.refl f) typed result declared
  intro g op x same typed now there
  rw [← same.number, ← same.signature] at now
  rw [← same.signature] at returns
  have stored := result_perform_of_reference now returns there
  rwa [same.number] at stored

theorem WellTyped.carries_run (typed : f.WellTyped)
    (declared : ∀ op ∈ ops, op.WritesDeclared f.number f.signature) (carried : f.Carries i a) :
    (f.run ops).frame.Carries i a := by
  refine run_last (fun g (_ : Unit) ↦ g.Carries i a) (fun _ ↦ none) ?_ (.refl f) typed (x := ())
    carried declared
  intro g op x same typed now carried
  rw [← same.number, ← same.signature] at now
  exact (change_perform g op).carries typed now carried

/-! ## Reading -/

theorem argument_of_primitive {u : Value} (there : f.slots[i]? = some (.primitive u)) (k : Kind) :
    f.argument i k =
      match f.policy.coerce k u with
      | some v => .ok v
      | none => .error (slotMismatch i (.primitive u) k.scriptName) := by
  have slot := slotAt_eq_ok_iff.mpr there
  cases coerced : f.policy.coerce k u with
  | some v => simp only [argument, slot, coerced]
  | none => simp only [argument, slot, coerced]

theorem finish_of_primitive {v : Value} (result : f.result = .primitive v)
    (unraised : f.exception = none) : f.finish.1 = .ok (.returned (.primitive v)) := by
  simp only [finish, outcome, unraised, result]

private theorem finish_of_reference (result : f.result = .reference a)
    (unraised : f.exception = none) : f.finish.1 = .ok (.returned (.reference a)) := by
  simp only [finish, outcome, unraised, result]

/-! ## What was written last -/

end Frame

private theorem Slot.FilledAll.exists_filled {policy : Policy} {frame index : Nat} {ps : List Param}
    {args : List Argument} {slots : List Slot} {effects : List Effect}
    (h : FilledAll policy frame index ps args slots effects) {i : Nat} {arg : Argument}
    (harg : args[i]? = some arg) :
    ∃ q slot es, ps[i]? = some q ∧ slots[i]? = some slot ∧
      Filled policy frame (index + i) q arg slot es := by
  induction h generalizing i with
  | nil => cases harg
  | cons head tail ih =>
    cases i with
    | zero =>
      obtain rfl := Option.some.inj harg
      exact ⟨_, _, _, rfl, rfl, head⟩
    | succ i =>
      obtain ⟨q, slot, es, hq, hslot, filled⟩ := ih harg
      rw [Nat.add_assoc, Nat.add_comm 1 i] at filled
      exact ⟨q, slot, es, hq, hslot, filled⟩

namespace Frame

variable {f : Frame} {i : Nat} {a : Address}

private theorem WellTyped.exists_primitive (typed : f.WellTyped) {q : Param} {k : Kind}
    (declared : f.signature.params[i]? = some q) (kind : q.slotKind = .primitive k) :
    ∃ u, f.slots[i]? = some (.primitive u) ∧ u.kind = k := by
  have inside : i < f.slots.length :=
    typed.arity ▸ (List.getElem?_eq_some_iff.mp declared).1
  have there := List.getElem?_eq_getElem inside
  have suits := (typed.slots i q _ declared there).slotKind_eq.trans kind
  generalize f.slots[i] = slot at there suits
  cases slot with
  | primitive u => exact ⟨u, there, SlotKind.primitive.inj suits⟩
  | _ => cases suits

/-- What a call shows of a primitive argument that holds a value. -/
structure Shows (f : Frame) (i : Nat) (u : Value) : Prop where
  /-- Its address is that of its slot. -/
  address : f.addressOfArgument i = .ok (.argument f.number i)
  /-- It is read there. -/
  stored : f.readRaw? (.argument f.number i) = some (.value u)
  /-- It is read as a value, converted if the policy does that. -/
  read : ∀ k, f.argument i k =
    match f.policy.coerce k u with
    | some v => .ok v
    | none => .error (slotMismatch i (.primitive u) k.scriptName)
  /-- The typed reading is the same. -/
  typed : ∀ k, f.typedArgument i k = f.argument i k
  /-- In its own kind it is read as it is. -/
  plain : f.typedArgument i u.kind = .ok u
  /-- The converting policy converts it to any kind. -/
  converted : f.policy = .convert → ∀ k, f.typedArgument i k = .ok (u.convert k)

theorem shows_of_primitive {u : Value} (there : f.slots[i]? = some (.primitive u)) :
    f.Shows i u := by
  have read := argument_of_primitive there
  have typed := typedArgument_eq_argument f i
  refine ⟨?_, ?_, read, typed, ?_, fun converts k ↦ ?_⟩
  · rw [addressOfArgument, slotAt_eq_ok_iff.mpr there]
    rfl
  · simp only [readRaw?, if_true, there]
  · rw [typed, read, Policy.coerce_of_kind_eq _ rfl]
  · rw [typed, read, converts, Policy.coerce_convert]

/-- **Last write wins.** A primitive argument is the last value that was written to its storage, and
a call returns the last value or address that was set or written as its return. -/
theorem last_write_wins {number : Nat} {sig : Signature} {receiver : Option Address}
    {args : List Argument} {policy : Policy} {f : Frame} {ops : List Operation}
    (built : (construct number sig receiver args policy).1 = .ok f)
    (declared : ∀ op ∈ ops, op.WritesDeclared number sig) :
    (∀ i q v, sig.params[i]? = some q → args[i]? = some (.primitive v) →
      ∃ k u, q.slotKind = .primitive k ∧ policy.coerce k v = some u ∧
        (f.run ops).frame.Shows i (Operation.last (Operation.stores? number i) u ops)) ∧
    (∀ i a, args[i]? = some (.handle a) ∨ args[i]? = some (.reference a) →
      (f.run ops).frame.argumentAddress i = .ok a) ∧
    (∀ i q v, sig.params[i]? = some q → q.slotKind = .primitive v.kind →
      ((f.run ops).frame.writeRaw (.argument number i) (.value v)).2 = [] ∧
        ((f.run ops).frame.writeRaw (.argument number i) (.value v)).1.result =
          (f.run ops).frame.result ∧
        ((f.run ops).frame.writeRaw (.argument number i) (.value v)).1.Shows i v ∧
        ∀ j, j ≠ i → ((f.run ops).frame.writeRaw (.argument number i) (.value v)).1.slots[j]? =
          (f.run ops).frame.slots[j]?) ∧
    (∀ k, sig.returns = .primitive k →
      (f.run ops).frame.returnLocation = .result number ∧
        ((f.run ops).frame.exception = none → (f.run ops).frame.finish.1 =
          .ok (.returned (.primitive
            (Operation.last (Operation.returnsValue? number policy k) (Value.zero k) ops))))) ∧
    ∀ t, sig.returns = .reference t →
      (f.run ops).frame.returnLocation = .result number ∧
        ((f.run ops).frame.exception = none → (f.run ops).frame.finish.1 =
          .ok (.returned (.reference
            (Operation.last (Operation.returnsAddress? number) .null ops)))) := by
  have typed := wellTyped_of_construct built
  have same := sameCall_run f ops
  obtain ⟨slots, effects, filled, rfl, -⟩ := exists_filledAll_of_construct built
  obtain ⟨called, signed, -, -, -⟩ := same
  simp only at called signed
  refine ⟨fun i q v hq hv ↦ ?_, fun i a given ↦ ?_, fun i q v hq kind ↦ ?_, fun k returns ↦ ?_,
    fun t returns ↦ ?_⟩
  · obtain ⟨q', slot, es, hq', hslot, one⟩ := filled.exists_filled hv
    obtain rfl := Option.some.inj (hq.symm.trans hq')
    cases one with
    | @primitive k _ u kind coerced =>
      exact ⟨k, u, kind, coerced, shows_of_primitive (typed.slots_run declared hslot)⟩
  · refine (typed.carries_run declared ?_).argumentAddress
    rcases given with handle | reference
    · obtain ⟨q, slot, es, -, hslot, one⟩ := filled.exists_filled handle
      cases one
      exact .inr ⟨false, hslot⟩
    · obtain ⟨q, slot, es, -, hslot, one⟩ := filled.exists_filled reference
      cases one
      exact .inl hslot
  · rw [← signed] at hq
    obtain ⟨u, there, stored⟩ := (typed.run ops).exists_primitive hq kind
    have written := writeRaw_argument there stored.symm
    rw [called] at written
    rw [written]
    refine ⟨rfl, rfl, shows_of_primitive ?_, fun j other ↦ List.getElem?_set_ne other.symm⟩
    exact List.getElem?_set_self (List.getElem?_eq_some_iff.mp there).1
  · have first := congrArg ReturnSlot.initial returns
    have result := typed.result_run_of_primitive declared returns first
    refine ⟨?_, finish_of_primitive result⟩
    rw [returnLocation, result, resultAddress, signed, called, returns]
  · have first := congrArg ReturnSlot.initial returns
    have result := typed.result_run_of_reference declared returns first
    refine ⟨?_, finish_of_reference result⟩
    rw [returnLocation, result, resultAddress, signed, called, returns]

/-- `int64 widen(int)`. -/
def widen : Signature where
  name := "widen"
  object := none
  params := [.primitive (.signed .bits32)]
  returns := .primitive (.signed .bits64)

/-- A call of `widen` with a 64-bit integer, which is converted. -/
def widening : Frame where
  number := 0
  signature := widen
  receiver := .null
  slots := [.primitive (.signed .bits32 5)]
  result := .primitive (.signed .bits64 0)
  policy := .convert
  exception := none

/-- An argument is overwritten, the return is set as a value and then through its address, and an
address that is returned in between is refused. -/
def rewriting : List Operation :=
  [.write (.argument 0 0) (.value (.signed .bits32 7)), .setReturnValue (.signed .bits32 7),
    .setReturnAddress (.object 0), .write (.result 0) (.value (.signed .bits64 9))]

/-- What the call then shows and returns. -/
theorem last_write_wins_widening :
    (widening.run rewriting).frame.Shows 0 (.signed .bits32 7) ∧
      (widening.run rewriting).frame.finish.1 =
        .ok (.returned (.primitive (.signed .bits64 9))) := by
  have built : (construct 0 widen none [.primitive (.signed .bits64 5)] .convert).1 =
      .ok widening := rfl
  have declared : ∀ op ∈ rewriting, op.WritesDeclared 0 widen := by
    intro op there
    simp only [rewriting, List.mem_cons, List.not_mem_nil, or_false] at there
    rcases there with rfl | rfl | rfl | rfl
    · exact fun _ ↦ ⟨_, _, rfl, rfl, rfl⟩
    · trivial
    · trivial
    · exact fun _ ↦ .inl ⟨_, rfl, rfl⟩
  obtain ⟨read, -, -, returned, -⟩ := last_write_wins built declared
  obtain ⟨k, u, -, -, shown⟩ := read 0 _ _ rfl rfl
  exact ⟨shown, (returned _ rfl).2 rfl⟩

end Frame

end CallingConvention
