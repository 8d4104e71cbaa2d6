import CallingConvention.Proofs.Acceptance

/-!
# Typing of frames

A frame is well typed if every slot suits its parameter and the return slot has the shape of the
declared return (`Frame.WellTyped`). New frames are, and every operation of native code keeps them
so, whether it is refused or not.

For this reason several fallbacks never come into play: an argument is never stored without having
been coerced, a typed read never finds a value of another kind than it asked for, a handle return
never refuses an object for which a reference has been taken, and a value return always has a place
for an instance. What a finished call returns is exactly what its signature declares.
-/

namespace CallingConvention

/-! ## Well-typed frames -/

/-- Whether a slot is the kind of slot that a parameter asks for, with a value of the declared kind
or an instance of the declared type. -/
def Slot.Suits (p : Param) : Slot → Prop
  | object i => p.slotKind = .object ∧ i.type = p.type
  | slot => slot.slotKind = p.slotKind

theorem Slot.Suits.slotKind_eq {p : Param} {slot : Slot} (h : slot.Suits p) :
    slot.slotKind = p.slotKind := by
  cases slot with
  | object i => exact h.1.symm
  | _ => exact h

namespace Frame

/-- The typing invariant of frames. -/
structure WellTyped (f : Frame) : Prop where
  /-- There is a slot for every parameter. -/
  arity : f.slots.length = f.signature.arity
  /-- Every slot suits its parameter. -/
  slots : ∀ (i : Nat) (p : Param) (slot : Slot), f.signature.params[i]? = some p →
    f.slots[i]? = some slot → slot.Suits p
  /-- The return slot suits what is returned. -/
  result : f.result.slotKind? = f.signature.returns.slotKind?

/-- The frames that native code can make of a frame. -/
def Reaches (f g : Frame) : Prop := ∃ ops, (f.run ops).frame = g

end Frame

/-! ## New frames -/

namespace Slot

theorem Filled.suits {policy : Policy} {frame index : Nat} {p : Param} {arg : Argument}
    {slot : Slot} {effects : List Effect} (h : Filled policy frame index p arg slot effects) :
    slot.Suits p := by
  cases h with
  | object kind => exact ⟨kind, rfl⟩
  | primitive kind coerced =>
    have same := Policy.kind_of_coerce_eq_some coerced
    exact (congrArg SlotKind.primitive same).trans kind.symm
  | handle kind => exact kind.symm
  | reference kind => exact kind.symm

theorem FilledAll.length_eq {policy : Policy} {frame index : Nat} {ps : List Param}
    {args : List Argument} {slots : List Slot} {effects : List Effect}
    (h : FilledAll policy frame index ps args slots effects) : slots.length = ps.length := by
  induction h with
  | nil => rfl
  | cons head tail ih => rw [List.length_cons, List.length_cons, ih]

theorem FilledAll.filled {policy : Policy} {frame index : Nat} {ps : List Param}
    {args : List Argument} {slots : List Slot} {effects : List Effect}
    (h : FilledAll policy frame index ps args slots effects) {i : Nat} {p : Param} {slot : Slot}
    (hp : ps[i]? = some p) (hslot : slots[i]? = some slot) :
    ∃ arg es, args[i]? = some arg ∧ Filled policy frame (index + i) p arg slot es := by
  induction h generalizing i with
  | nil => exact absurd hp (by simp)
  | cons head tail ih =>
    cases i with
    | zero =>
      obtain rfl := Option.some.inj hp
      obtain rfl := Option.some.inj hslot
      exact ⟨_, _, rfl, head⟩
    | succ i =>
      obtain ⟨arg, es, harg, filled⟩ := ih hp hslot
      rw [Nat.add_assoc, Nat.add_comm 1 i] at filled
      exact ⟨arg, es, harg, filled⟩

theorem FilledAll.coerced {policy : Policy} {frame index : Nat} {ps : List Param}
    {args : List Argument} {slots : List Slot} {effects : List Effect}
    (h : FilledAll policy frame index ps args slots effects) {i : Nat} {p : Param} {k : Kind}
    {v : Value} (hp : ps[i]? = some p) (kind : p.slotKind = .primitive k)
    (harg : args[i]? = some (.primitive v)) :
    ∃ u, policy.coerce k v = some u ∧ slots[i]? = some (.primitive u) := by
  induction h generalizing i with
  | nil => exact absurd hp (by simp)
  | cons head tail ih =>
    cases i with
    | succ i => exact ih hp harg
    | zero =>
      obtain rfl := Option.some.inj hp
      obtain rfl := Option.some.inj harg
      cases head with
      | primitive kind' coerced =>
        obtain rfl := SlotKind.primitive.inj (kind'.symm.trans kind)
        exact ⟨_, coerced, rfl⟩

end Slot

namespace Frame

theorem wellTyped_of_construct {number : Nat} {sig : Signature} {receiver : Option Address}
    {args : List Argument} {policy : Policy} {f : Frame}
    (h : (construct number sig receiver args policy).1 = .ok f) : f.WellTyped := by
  obtain ⟨slots, effects, filled, rfl, -⟩ := exists_filledAll_of_construct h
  refine ⟨filled.length_eq, fun i p slot hp hslot ↦ ?_, ReturnSlot.slotKind?_initial _⟩
  obtain ⟨arg, es, -, one⟩ := filled.filled hp hslot
  exact one.suits

/-! ## Every operation keeps the typing -/

theorem WellTyped.setSlot {f : Frame} (h : f.WellTyped) {i : Nat} {old new : Slot}
    (hold : f.slots[i]? = some old) (suits : ∀ p, old.Suits p → new.Suits p) :
    (f.setSlot i new).WellTyped := by
  refine ⟨List.length_set.trans h.arity, fun j p slot hp hslot ↦ ?_, h.result⟩
  rw [Frame.setSlot, List.getElem?_set] at hslot
  split at hslot
  · next same =>
    subst same
    split at hslot
    · obtain rfl := Option.some.inj hslot
      exact suits p (h.slots i p old hp hold)
    · cases hslot
  · exact h.slots j p slot hp hslot

theorem Change.wellTyped {f g : Frame} {op : Operation} (change : f.Change op g)
    (h : f.WellTyped) : g.WellTyped := by
  cases change with
  | nothing => exact h
  | claim old => exact h.setSlot old fun p suits ↦ suits
  | raise => exact ⟨h.arity, h.slots, h.result⟩
  | result _ same => exact ⟨h.arity, h.slots, same.trans h.result⟩
  | value old kind =>
    refine h.setSlot old fun p suits ↦ (?_ : SlotKind.primitive _ = p.slotKind)
    rw [kind]
    exact suits
  | target old => exact h.setSlot old fun p suits ↦ suits

theorem WellTyped.perform {f : Frame} (h : f.WellTyped) (op : Operation) :
    (f.perform op).frame.WellTyped :=
  (change_perform f op).wellTyped h

theorem WellTyped.run {f : Frame} (h : f.WellTyped) (ops : List Operation) :
    (f.run ops).frame.WellTyped :=
  run_induction (fun _ op typed ↦ typed.perform op) h ops

/-! ## What typing rules out -/

/-- A typed read finds a value of the kind that it asked for, if it finds one at all. -/
theorem typedArgument_eq_argument (f : Frame) (i : Nat) (k : Kind) :
    f.typedArgument i k = f.argument i k := by
  unfold typedArgument
  split
  · next e refused => exact refused.symm
  · next v read =>
    have kind : v.kind = k := by
      unfold argument at read
      split at read
      · cases read
      · split at read
        · next coerced =>
          obtain rfl := Except.ok.inj read
          exact Policy.kind_of_coerce_eq_some coerced
        · cases read
      · cases read
    simp [Value.ofKind?, kind, read]

theorem WellTyped.exists_handle {f : Frame} (h : f.WellTyped) {t : ScriptType} {auto : Bool}
    (returns : f.signature.returns = .handle t auto) : ∃ a, f.result = .handle a := by
  have shape := h.result
  rw [returns] at shape
  cases result : f.result <;> simp [result, ReturnSlot.slotKind?, Returns.slotKind?] at shape ⊢

theorem WellTyped.exists_object {f : Frame} (h : f.WellTyped) {t : ScriptType}
    (returns : f.signature.returns = .value t) : ∃ constructed, f.result = .object constructed := by
  have shape := h.result
  rw [returns] at shape
  cases result : f.result <;> simp [result, ReturnSlot.slotKind?, Returns.slotKind?] at shape ⊢

theorem WellTyped.exists_reference {f : Frame} (h : f.WellTyped) {t : ScriptType}
    (returns : f.signature.returns = .reference t) : ∃ a, f.result = .reference a := by
  have shape := h.result
  rw [returns] at shape
  cases result : f.result <;> simp [result, ReturnSlot.slotKind?, Returns.slotKind?] at shape ⊢

theorem WellTyped.returns_handle {f : Frame} (h : f.WellTyped) {a : Address}
    (result : f.result = .handle a) : ∃ t auto, f.signature.returns = .handle t auto := by
  have shape := h.result
  rw [result] at shape
  cases returns : f.signature.returns <;>
    simp [returns, ReturnSlot.slotKind?, Returns.slotKind?] at shape ⊢

theorem WellTyped.returns_value {f : Frame} (h : f.WellTyped) {constructed : Bool}
    (result : f.result = .object constructed) : ∃ t, f.signature.returns = .value t := by
  have shape := h.result
  rw [result] at shape
  cases returns : f.signature.returns <;>
    simp [returns, ReturnSlot.slotKind?, Returns.slotKind?] at shape ⊢

theorem WellTyped.setReturnObject_handle {f : Frame} (h : f.WellTyped) {t : ScriptType}
    {auto : Bool} (returns : f.signature.returns = .handle t auto) (a : Address) :
    (f.setReturnObject a).answer = .ok () ∧ (f.setReturnObject a).frame.result = .handle a := by
  obtain ⟨previous, result⟩ := h.exists_handle returns
  by_cases same : f.result = .handle a
  · simp only [setReturnObject, returns, if_pos same]
    exact ⟨rfl, same⟩
  · have stored : (f.setReturnAddress a).answer = .ok () ∧
        (f.setReturnAddress a).frame.result = .handle a := by
      rw [setReturnAddress, result, returns]
      exact ⟨rfl, rfl⟩
    simp only [setReturnObject, returns, if_neg same]
    exact stored

theorem WellTyped.setReturnObject_value {f : Frame} (h : f.WellTyped) {t : ScriptType}
    (returns : f.signature.returns = .value t) {a : Address}
    (taken : (f.setReturnObject a).answer = .ok ()) :
    (f.setReturnObject a).frame.result = .object true := by
  obtain ⟨constructed, result⟩ := h.exists_object returns
  unfold setReturnObject at taken ⊢
  rw [returns] at taken ⊢
  by_cases null : a.isNull = true
  · simp [null, Reaction.refused] at taken
  · cases copied : t.copy f.resultAddress a with
    | error e => simp [null, copied, Reaction.refused] at taken
    | ok effects => simp [null, copied, result, Reaction.done]

end Frame

/-- The index of the argument that an operation is about. -/
def Operation.index? : Operation → Option Nat
  | argumentType i => some i
  | argument i _ => some i
  | typedArgument i _ => some i
  | addressOfArgument i => some i
  | argumentAddress i => some i
  | argumentObject i => some i
  | take i => some i
  | _ => none

namespace Frame

private theorem map_ne_error {α : Type} {r : Except CallError α} (g : α → Reply) {e : CallError}
    (h : r ≠ .error e) : r.map g ≠ .error e := by
  cases r with
  | error e' => exact fun same ↦ h (congrArg Except.error (Except.error.inj same))
  | ok a => simp [Except.map]

private theorem slotAt_of_le {f : Frame} {i : Nat} (h : f.slots.length ≤ i) :
    f.slotAt i = .error (.invalidArgumentIndex i f.slots.length) := by
  rw [slotAt, List.getElem?_eq_none h]

/-- Operations on an argument that there is not are refused for its index. -/
theorem answer_of_le {f : Frame} {op : Operation} {i : Nat} (about : op.index? = some i)
    (h : f.slots.length ≤ i) :
    (f.perform op).answer = .error (.invalidArgumentIndex i f.slots.length) := by
  have absent := slotAt_of_le h
  cases op <;> simp only [Operation.index?, Option.some.injEq, reduceCtorEq] at about <;>
    subst about <;>
    simp [perform, reading, Reaction.map, Reaction.refused, argumentType, argument, typedArgument,
      addressOfArgument, argumentAddress, argumentObject, takeHandle, absent, Except.map]

theorem WellTyped.answer_of_lt {f : Frame} (typed : f.WellTyped) {op : Operation} {i : Nat}
    (about : op.index? = some i) (h : i < f.signature.arity) (j n : Nat) :
    (f.perform op).answer ≠ .error (.invalidArgumentIndex j n) := by
  have declared : f.signature.params[i]? = some f.signature.params[i] := List.getElem?_eq_getElem h
  have inside : i < f.slots.length := typed.arity ▸ h
  have present : f.slotAt i = .ok f.slots[i] :=
    slotAt_eq_ok_iff.mpr (List.getElem?_eq_getElem inside)
  have type : f.argumentType i = .ok f.signature.params[i] := by
    rw [argumentType, present, declared]
  generalize f.slots[i] = slot at present
  -- what can still be wrong is the kind of slot, or that the handle was claimed
  have read (k : Kind) : f.argument i k ≠ .error (.invalidArgumentIndex j n) := by
    rw [argument, present]
    cases slot with
    | primitive v => cases coerced : f.policy.coerce k v <;> simp [coerced, slotMismatch]
    | _ => simp [slotMismatch]
  have claim : (f.takeHandle i).answer ≠ .error (.invalidArgumentIndex j n) := by
    rw [takeHandle, present, type]
    cases slot with
    | handle a claimed => cases claimed <;> simp [Reaction.done, Reaction.refused]
    | _ => simp [Reaction.refused, slotMismatch]
  cases op <;> simp only [Operation.index?, Option.some.injEq, reduceCtorEq] at about <;>
    subst about
  case argumentType => simp [Frame.perform, reading, type, Except.map]
  case argument => exact map_ne_error _ (read _)
  case typedArgument => exact map_ne_error _ (typedArgument_eq_argument f _ _ ▸ read _)
  case take => exact map_ne_error _ claim
  all_goals
    cases slot <;> simp [Frame.perform, reading, addressOfArgument, argumentAddress,
      argumentObject, present, Except.map, slotMismatch]

end Frame

/-! ## What a finished call returns -/

/-- Whether a returned value is what a signature declares. -/
def ReturnValue.Matches : ReturnValue → Returns → Prop
  | void, .void => True
  | primitive v, .primitive k => v.kind = k
  | object i, .value t => i.type = t
  | handle h, .handle t _ => ∀ g, h = some g → g.type = t
  | reference _, .reference _ => True
  | _, _ => False

theorem Handle.type_of_adopt? {t : ScriptType} {a : Address} {h : Handle}
    (adopted : adopt? t a = some h) : h.type = t := by
  unfold adopt? at adopted
  split at adopted
  · cases adopted
  · rw [← Option.some.inj adopted]

namespace Frame

/-- How a frame ends: with its exception, without the instance that it should have returned, or with
a value of the declared return. -/
inductive Ends (f : Frame) : Except CallError Outcome → Prop
  | raised {e : ScriptException} (pending : f.exception = some e) : Ends f (.ok (.raised e))
  | unconstructed (quiet : f.exception = none) (missing : f.result = .object false) :
      Ends f (.error (.returnNotConstructed f.signature.qualifiedName))
  | returned (quiet : f.exception = none) (there : f.result ≠ .object false) {v : ReturnValue}
      (declared : v.Matches f.signature.returns) : Ends f (.ok (.returned v))

/-- A well-typed frame hands over what its signature declares, or says why it does not. -/
theorem WellTyped.ends_outcome {f : Frame} (h : f.WellTyped) : f.Ends f.outcome.1 := by
  have shape := h.result
  unfold outcome
  cases pending : f.exception with
  | some e => exact .raised pending
  | none =>
    -- the shape of the return slot leaves one pair for each kind of return
    cases returns : f.signature.returns <;> cases result : f.result <;>
      simp only [returns, result, ReturnSlot.slotKind?, Returns.slotKind?, Option.some.injEq,
        SlotKind.primitive.injEq, reduceCtorEq] at shape
    case void => exact .returned pending (by simp [result]) (returns ▸ trivial)
    case primitive => exact .returned pending (by simp [result]) (returns ▸ shape)
    case reference => exact .returned pending (by simp [result]) (returns ▸ trivial)
    case handle =>
      refine .returned pending (by simp [result]) ?_
      rw [returns]
      exact fun g adopted ↦ Handle.type_of_adopt? adopted
    case object constructed =>
      cases constructed with
      | false => exact .unconstructed pending result
      | true => exact .returned pending (by simp [result]) (returns ▸ rfl)

/-- **Frame typing.** In every state that native code can bring a frame to, its slots suit the
signature. Hence reading, claiming and returning never meet a slot of another kind, and a call ends
with a value of exactly the declared return, with an exception or without its instance. -/
theorem wellTyped_of_reaches {number : Nat} {sig : Signature} {receiver : Option Address}
    {args : List Argument} {policy : Policy} {f g : Frame}
    (built : (construct number sig receiver args policy).1 = .ok f) (reaches : f.Reaches g) :
    g.signature = sig ∧ g.policy = policy ∧ g.WellTyped ∧
      (∀ (i : Nat) (p : Param) (k : Kind) (v : Value), sig.params[i]? = some p →
        p.slotKind = .primitive k → args[i]? = some (.primitive v) →
          ∃ u, policy.coerce k v = some u ∧ f.slots[i]? = some (.primitive u)) ∧
      (∀ i k, g.typedArgument i k = g.argument i k) ∧
      (∀ t auto a, sig.returns = .handle t auto →
        (g.setReturnObject a).answer = .ok () ∧ (g.setReturnObject a).frame.result = .handle a) ∧
      (∀ t a, sig.returns = .value t → (g.setReturnObject a).answer = .ok () →
        (g.setReturnObject a).frame.result = .object true) ∧
      (∀ op i, op.index? = some i → ∀ j n,
        (g.perform op).answer = .error (.invalidArgumentIndex j n) ↔
          sig.arity ≤ i ∧ j = i ∧ n = sig.arity) ∧
      g.Ends g.finish.1 := by
  have new := wellTyped_of_construct built
  obtain ⟨slots, effects, filled, rfl, -⟩ := exists_filledAll_of_construct built
  obtain ⟨ops, rfl⟩ := reaches
  generalize hf : (⟨number, sig, receiver.getD .null, slots, .initial sig.returns, policy, none⟩ :
    Frame) = f at new
  have same := sameCall_run f ops
  have typed := new.run ops
  have signature : (f.run ops).frame.signature = sig := by rw [same.signature, ← hf]
  have arity : (f.run ops).frame.slots.length = sig.arity := by rw [typed.arity, signature]
  refine ⟨signature, by rw [same.policy, ← hf], typed, fun i p k v hp kind harg ↦ ?_,
    typedArgument_eq_argument _, fun t auto a returns ↦ ?_, fun t a returns ↦ ?_,
    fun op i about j n ↦ ⟨fun refused ↦ ?_, ?_⟩, typed.ends_outcome⟩
  · obtain ⟨u, coerced, stored⟩ := filled.coerced hp kind harg
    exact ⟨u, coerced, by rw [← hf]; exact stored⟩
  · exact typed.setReturnObject_handle (signature ▸ returns) a
  · exact typed.setReturnObject_value (signature ▸ returns)
  · by_cases inside : i < sig.arity
    · exact absurd refused (typed.answer_of_lt about (signature ▸ inside) j n)
    · have absent : sig.arity ≤ i := Nat.le_of_not_lt inside
      rw [answer_of_le about (arity ▸ absent), arity] at refused
      cases refused
      exact ⟨absent, rfl, rfl⟩
  · rintro ⟨absent, rfl, rfl⟩
    rw [answer_of_le about (arity ▸ absent), arity]

/-- `Node@ relay(int, Node@+)`, called with a wider integer than it declares. -/
def relay : Signature where
  name := "relay"
  object := none
  params := [.primitive (.signed .bits32), ⟨.counted "Node", .handle true⟩]
  returns := .handle (.counted "Node") false

/-- The state of a call of `relay` that has claimed its handle, returned another object and written
to its first argument. -/
def relayed : Frame where
  number := 0
  signature := relay
  receiver := .null
  slots := [.primitive (.signed .bits32 9), .handle (.object 0) true]
  result := .handle (.object 1)
  policy := .convert
  exception := none

/-- The typing of frames for a call whose integer is converted. -/
theorem wellTyped_relayed :
    relayed.WellTyped ∧ relayed.Ends relayed.finish.1 ∧
      ∃ u, Policy.convert.coerce (.signed .bits32) (.signed .bits64 (-1)) = some u ∧
        (construct 0 relay none [.primitive (.signed .bits64 (-1)), .handle (.object 0)]
          .convert).1 =
        .ok { relayed with slots := [.primitive u, .handle (.object 0) false]
                           result := .handle .null } := by
  have built : (construct 0 relay none [.primitive (.signed .bits64 (-1)), .handle (.object 0)]
      .convert).1 =
      .ok { relayed with slots := [.primitive (.signed .bits32 (-1)), .handle (.object 0) false]
                         result := .handle .null } := rfl
  have reaches : Reaches { relayed with
      slots := [.primitive (.signed .bits32 (-1)), .handle (.object 0) false]
      result := .handle .null } relayed :=
    ⟨[.take 1, .write (.argument 0 0) (.value (.signed .bits32 9)), .setReturnObject (.object 1)],
      rfl⟩
  obtain ⟨-, -, typed, coerced, -, -, -, -, ends⟩ := wellTyped_of_reaches built reaches
  obtain ⟨u, converted, stored⟩ := coerced 0 _ _ (.signed .bits64 (-1)) rfl rfl rfl
  refine ⟨typed, ends, u, converted, ?_⟩
  obtain rfl := Slot.primitive.inj (Option.some.inj stored)
  exact built

end Frame

end CallingConvention
