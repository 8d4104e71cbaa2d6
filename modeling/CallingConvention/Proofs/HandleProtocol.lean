import CallingConvention.Proofs.Typing
import Mathlib.Data.List.Basic

/-!
# Handle arguments

Who counts what for the handles that are given to a call. The frame takes a reference for every
automatic one when it is built, native code may claim each of them once, and the frame releases what
was not claimed when it ends. It ends in one of two ways, and after an exception as well as after a
success: the same handles are released in the same order.

`HandleArgument.ofArguments` lists the handles of a call, and everything here is said in terms of
that list. The invariant is `Frame.Holds`: the slot of a handle still has the address that was
given, and is marked as claimed exactly if native code tried to claim it. It takes for granted that
native code does not write to such a slot through its address (`Operation.SparesHandles`); reading
it is fine.
-/

namespace CallingConvention

/-! ## The handles of a call -/

/-- A handle that is given to a call. -/
structure HandleArgument where
  /-- Its place among the arguments. -/
  index : Nat
  /-- The parameter that it is given for. -/
  param : Param
  /-- The object, or null. -/
  address : Address
  deriving DecidableEq

namespace HandleArgument

/-- Take a reference of its own. -/
def retain (x : HandleArgument) : Effect := .addRef x.param.type x.address

/-- Give up the reference. -/
def release (x : HandleArgument) : Effect := .release x.param.type x.address

/-- The handles for parameters from a first index on, in order and without the null ones. -/
def ofArguments : Nat → List Param → List Argument → List HandleArgument
  | index, p :: ps, arg :: args =>
    match arg with
    | .handle a =>
      if a.isNull then ofArguments (index + 1) ps args
      else ⟨index, p, a⟩ :: ofArguments (index + 1) ps args
    | _ => ofArguments (index + 1) ps args
  | _, _, _ => []

/-- The handles of a call that a sequence of operations does not claim. -/
def unclaimed (sig : Signature) (args : List Argument) (ops : List Operation) :
    List HandleArgument :=
  (ofArguments 0 sig.params args).filter fun x ↦ .take x.index ∉ ops

theorem of_mem_ofArguments {index : Nat} {ps : List Param} {args : List Argument}
    {x : HandleArgument} (h : x ∈ ofArguments index ps args) :
    x.address ≠ .null ∧ ∃ i, x.index = index + i ∧ ps[i]? = some x.param ∧
      args[i]? = some (.handle x.address) := by
  induction ps generalizing args index with
  | nil => simp [ofArguments] at h
  | cons p ps ih =>
    have later {args : List Argument} {arg : Argument} (h : x ∈ ofArguments (index + 1) ps args) :
        x.address ≠ .null ∧ ∃ i, x.index = index + i ∧ (p :: ps)[i]? = some x.param ∧
          (arg :: args)[i]? = some (.handle x.address) := by
      obtain ⟨there, i, hi, hp, harg⟩ := ih h
      exact ⟨there, i + 1, by omega, hp, harg⟩
    cases args with
    | nil => simp [ofArguments] at h
    | cons arg args =>
      unfold ofArguments at h
      split at h
      · next a =>
        split at h
        · exact later h
        · next there =>
          rcases List.mem_cons.mp h with rfl | h
          · exact ⟨fun null ↦ there (Address.isNull_iff.mpr null), 0, rfl, rfl, rfl⟩
          · exact later h
      · exact later h

end HandleArgument

/-! ## Building the frame -/

namespace ScriptType

theorem addRef_eq {t : ScriptType} {a : Address} (counted : t.isCounted = true)
    (there : a.isNull = false) : t.addRef a = [.addRef t a] := by
  rw [isCounted, Bool.and_eq_true] at counted
  rw [addRef, there, ← Option.not_isSome, counted.1]
  rfl

theorem release_eq {t : ScriptType} {a : Address} (counted : t.isCounted = true)
    (there : a.isNull = false) : t.release a = [.release t a] := by
  rw [isCounted, Bool.and_eq_true] at counted
  rw [release, there, ← Option.not_isSome, counted.2]
  rfl

@[simp] theorem filter_addRef (t : ScriptType) (a : Address) :
    (t.addRef a).filter Effect.isCounting = t.addRef a := by
  unfold addRef
  split <;> rfl

@[simp] theorem filter_release (t : ScriptType) (a : Address) :
    (t.release a).filter Effect.isCounting = t.release a := by
  unfold release
  split <;> rfl

@[simp] theorem filter_destruct (t : ScriptType) (a : Address) :
    (t.destruct a).filter Effect.isCounting = [] := by
  unfold destruct
  split <;> rfl

end ScriptType

theorem Slot.FilledAll.filter_effects {policy : Policy} {frame index : Nat} {ps : List Param}
    {args : List Argument} {slots : List Slot} {effects : List Effect}
    (h : FilledAll policy frame index ps args slots effects)
    (counted : ∀ p ∈ ps, p.slotKind = .handle → p.type.isCounted = true) :
    effects.filter Effect.isCounting =
      ((HandleArgument.ofArguments index ps args).filter (·.param.isAuto)).map
        HandleArgument.retain := by
  induction h with
  | nil => rfl
  | @cons index p arg slot effects ps args slots more head tail ih =>
    have rest := ih fun q hq ↦ counted q (List.mem_cons_of_mem p hq)
    rw [List.filter_append, rest]
    cases head with
    | primitive => rfl
    | object => rfl
    | reference => rfl
    | @handle a kind =>
      have type := counted p List.mem_cons_self kind
      cases null : a.isNull with
      | true =>
        obtain rfl := Address.isNull_iff.mp null
        simp [HandleArgument.ofArguments]
      | false =>
        cases auto : p.isAuto with
        | false => simp [HandleArgument.ofArguments, null, auto]
        | true =>
          rw [if_pos rfl, ScriptType.addRef_eq type null]
          simp [HandleArgument.ofArguments, null, auto, HandleArgument.retain]
          rfl

/-! ## What becomes of the slots -/

/-- Whether a slot still holds the handle that was given for it, claimed or not. Other arguments are
never in a handle slot. -/
def Slot.Keeps (claimed : Bool) : Argument → Slot → Prop
  | .handle a, slot => slot = .handle a claimed
  | _, slot => slot.slotKind ≠ .handle

/-- Whether an operation keeps its hands off the storage of the handles of a call. -/
def Operation.SparesHandles (number : Nat) (args : List Argument) (op : Operation) : Prop :=
  ∀ (i : Nat) (a : Address) (p : Payload), args[i]? = some (.handle a) →
    op ≠ .write (.argument number i) p

namespace Frame

/-- Whether every slot still holds the handle that was given for it, where `claimed` says which of
them have been claimed. -/
def Holds (f : Frame) (args : List Argument) (claimed : Nat → Bool) : Prop :=
  ∀ (i : Nat) (arg : Argument) (slot : Slot), args[i]? = some arg → f.slots[i]? = some slot →
    slot.Keeps (claimed i) arg

theorem holds_of_construct {number : Nat} {sig : Signature} {receiver : Option Address}
    {args : List Argument} {policy : Policy} {f : Frame}
    (h : (construct number sig receiver args policy).1 = .ok f) : f.Holds args fun _ ↦ false := by
  obtain ⟨slots, effects, filled, rfl, -⟩ := exists_filledAll_of_construct h
  intro i arg slot harg hslot
  have inside : i < sig.params.length :=
    filled.length_eq ▸ (List.getElem?_eq_some_iff.mp hslot).1
  obtain ⟨arg', es, harg', one⟩ := filled.filled (List.getElem?_eq_getElem inside) hslot
  rw [harg] at harg'
  obtain rfl := Option.some.inj harg'
  cases one with
  | handle => rfl
  | _ => exact SlotKind.noConfusion

variable {f : Frame} {args : List Argument} {claimed : Nat → Bool}

theorem Holds.setSlot (h : f.Holds args claimed) {i : Nat} {new : Slot} {now : Nat → Bool}
    (others : ∀ j, j ≠ i → now j = claimed j)
    (keeps : ∀ arg, args[i]? = some arg → new.Keeps (now i) arg) :
    (f.setSlot i new).Holds args now := by
  intro j arg slot harg hslot
  rw [Frame.setSlot, List.getElem?_set] at hslot
  split at hslot
  · next same =>
    subst same
    split at hslot
    · obtain rfl := Option.some.inj hslot
      exact keeps arg harg
    · cases hslot
  · next apart =>
    rw [others j (Ne.symm apart)]
    exact h j arg slot harg hslot

theorem Holds.takeHandle (h : f.Holds args claimed) (typed : f.WellTyped) {i : Nat} {a : Address}
    {p : Param} (hp : f.signature.params[i]? = some p) (harg : args[i]? = some (.handle a)) :
    f.takeHandle i =
      if claimed i then .refused (.handleAlreadyClaimed i) f
      else .done (Handle.adopt? p.type a) (f.setSlot i (.handle a true)) [] := by
  have inside : i < f.slots.length := typed.arity ▸ (List.getElem?_eq_some_iff.mp hp).1
  have stored : f.slots[i]? = some (.handle a (claimed i)) := by
    rw [List.getElem?_eq_getElem inside]
    exact congrArg some (h i _ _ harg (List.getElem?_eq_getElem inside))
  have slot : f.slotAt i = .ok (.handle a (claimed i)) := slotAt_eq_ok_iff.mpr stored
  have type : f.argumentType i = .ok p := by rw [argumentType, slot, hp]
  rw [Frame.takeHandle, slot, type]

private theorem Holds.frame_takeHandle (h : f.Holds args claimed) {i : Nat}
    (other : ∀ a, args[i]? ≠ some (.handle a)) (given : args.length = f.slots.length) :
    (f.takeHandle i).frame = f := by
  unfold Frame.takeHandle
  split
  · next a c p slot _ =>
    have hslot := slotAt_eq_ok_iff.mp slot
    have inside : i < args.length := given ▸ (List.getElem?_eq_some_iff.mp hslot).1
    have kept := h i _ _ (List.getElem?_eq_getElem inside) hslot
    have unlike := other
    rw [List.getElem?_eq_getElem inside] at unlike
    cases arg : args[i] with
    | handle b => exact absurd (congrArg some arg) (unlike b)
    | _ =>
      rw [arg] at kept
      exact absurd rfl kept
  · rfl
  · rfl

theorem Holds.take (h : f.Holds args claimed) (typed : f.WellTyped)
    (given : args.length = f.signature.arity) {i : Nat} {now : Nat → Bool}
    (self : now i = true) (others : ∀ j, j ≠ i → now j = claimed j) :
    (f.takeHandle i).frame.Holds args now := by
  by_cases handle : ∃ a, args[i]? = some (.handle a)
  · obtain ⟨a, harg⟩ := handle
    have inside : i < f.signature.params.length :=
      Nat.lt_of_lt_of_eq (List.getElem?_eq_some_iff.mp harg).1 given
    rw [h.takeHandle typed (List.getElem?_eq_getElem inside) harg]
    cases already : claimed i with
    | true =>
      -- a refused claim leaves the frame alone, and the mark is there already
      intro j arg slot hj hslot
      by_cases same : j = i
      · subst same
        rw [self, ← already]
        exact h j arg slot hj hslot
      · rw [others j same]
        exact h j arg slot hj hslot
    | false =>
      refine h.setSlot others fun arg hi ↦ ?_
      rw [harg] at hi
      obtain rfl := Option.some.inj hi
      rw [self]
      rfl
  · have other (a : Address) : args[i]? ≠ some (.handle a) := fun harg ↦ handle ⟨a, harg⟩
    rw [frame_takeHandle h other (given.trans typed.arity.symm)]
    intro j arg slot hj hslot
    have kept := h j arg slot hj hslot
    by_cases same : j = i
    · subst same
      cases arg with
      | handle a => exact absurd hj (other a)
      | _ => exact kept
    · rw [others j same]
      exact kept

theorem Change.holds {g : Frame} {op : Operation} (change : f.Change op g)
    (h : f.Holds args claimed) (other : ∀ i, op ≠ .take i)
    (spares : op.SparesHandles f.number args) : g.Holds args claimed := by
  cases change with
  | nothing => exact h
  | claim => exact absurd rfl (other _)
  | raise => exact h
  | result => exact h
  | @value i v u p old kind =>
    refine h.setSlot (fun _ _ ↦ rfl) fun arg harg ↦ ?_
    have kept := h i arg _ harg old
    cases arg with
    | handle a => cases kept
    | _ => exact SlotKind.noConfusion
  | @target i a b c p old =>
    refine h.setSlot (fun _ _ ↦ rfl) fun arg harg ↦ ?_
    cases arg with
    | handle a => exact absurd rfl (spares i a p harg)
    | _ => exact absurd rfl (h i _ _ harg old)

theorem Holds.perform (h : f.Holds args claimed) (typed : f.WellTyped)
    (given : args.length = f.signature.arity) {op : Operation}
    (spares : op.SparesHandles f.number args) :
    (f.perform op).frame.Holds args fun i ↦ claimed i || decide (op = .take i) := by
  by_cases take : ∃ i, op = .take i
  · obtain ⟨i, rfl⟩ := take
    exact h.take typed given (by simp) fun j apart ↦ by simp [Ne.symm apart]
  · have other (i : Nat) : op ≠ .take i := fun taken ↦ take ⟨i, taken⟩
    have same : (fun i ↦ claimed i || decide (op = .take i)) = claimed := by
      funext i
      rw [decide_eq_false (other i), Bool.or_false]
    rw [same]
    exact (change_perform f op).holds h other spares

/-- After a sequence of operations the handles are where they were, and those are claimed that
native code tried to claim. -/
theorem Holds.run (h : f.Holds args claimed) (typed : f.WellTyped)
    (given : args.length = f.signature.arity) {ops : List Operation}
    (spares : ∀ op ∈ ops, op.SparesHandles f.number args) :
    (f.run ops).frame.Holds args fun i ↦ claimed i || decide (.take i ∈ ops) := by
  induction ops generalizing f claimed with
  | nil => simpa using h
  | cons op ops ih =>
    -- the call stays the same, so that the next frame is spared as this one is
    have same := (change_perform f op).sameCall
    have first := h.perform typed given (spares op List.mem_cons_self)
    have given' : args.length = (f.perform op).frame.signature.arity := by
      rw [same.signature, given]
    have marks : (fun i ↦ claimed i || decide (.take i ∈ op :: ops)) =
        fun i ↦ (claimed i || decide (op = .take i)) || decide (.take i ∈ ops) := by
      funext i
      simp [Bool.or_assoc, eq_comm]
    rw [frame_run_cons, marks]
    exact ih first (typed.perform op) given' fun op' later ↦
      same.number ▸ spares op' (List.mem_cons_of_mem op later)

/-! ## Claims -/

/-- How often native code is handed the reference in a slot. -/
def claims (f : Frame) (i : Nat) : List Operation → Nat
  | [] => 0
  | op :: ops =>
    (if op = .take i ∧ (f.perform op).answer.isOk = true then 1 else 0)
      + (f.perform op).frame.claims i ops

theorem Holds.answer_take (h : f.Holds args claimed) (typed : f.WellTyped) {i : Nat} {a : Address}
    {p : Param} (hp : f.signature.params[i]? = some p) (harg : args[i]? = some (.handle a)) :
    (f.perform (.take i)).answer =
      if claimed i then .error (.handleAlreadyClaimed i)
      else .ok (.handle (Handle.adopt? p.type a)) := by
  have taken := h.takeHandle typed hp harg
  cases already : claimed i with
  | true =>
    rw [already, if_pos rfl] at taken
    rw [Frame.perform, taken]
    rfl
  | false =>
    rw [already, if_neg Bool.false_ne_true] at taken
    rw [Frame.perform, taken]
    rfl

/-- A reference is handed out when native code first asks for it, and never again. -/
theorem Holds.claims_eq (h : f.Holds args claimed) (typed : f.WellTyped)
    (given : args.length = f.signature.arity) {ops : List Operation}
    (spares : ∀ op ∈ ops, op.SparesHandles f.number args) {i : Nat} {a : Address}
    (harg : args[i]? = some (.handle a)) :
    f.claims i ops = if claimed i = false ∧ .take i ∈ ops then 1 else 0 := by
  induction ops generalizing f claimed with
  | nil => simp [claims]
  | cons op ops ih =>
    have inside : i < f.signature.params.length :=
      Nat.lt_of_lt_of_eq (List.getElem?_eq_some_iff.mp harg).1 given
    have same := (change_perform f op).sameCall
    have first := h.perform typed given (spares op List.mem_cons_self)
    have given' : args.length = (f.perform op).frame.signature.arity := by
      rw [same.signature, given]
    have rest := ih first (typed.perform op) given' fun op' later ↦
      same.number ▸ spares op' (List.mem_cons_of_mem op later)
    rw [claims, rest]
    by_cases take : op = .take i
    · subst take
      rw [h.answer_take typed (List.getElem?_eq_getElem inside) harg]
      cases claimed i <;> simp [Except.isOk, Except.toBool]
    · simp [take, Ne.symm take]

end Frame

/-! ## The end of the frame -/

/-- An argument is treated alike after a success and after an exception. -/
@[simp] theorem exit_argument (auto exception : Bool) :
    (ownershipRule .argument auto).exit exception = .releaseUnclaimed := by
  cases auto <;> cases exception <;> rfl

/-- What is released at the end are the handles that were not claimed, whether an exception is
pending or not. -/
private theorem HandleArgument.filterMap_unreleased {index : Nat} {ps : List Param}
    {args : List Argument} {slots : List Slot} {claimed : Nat → Bool} (exception : Bool)
    (given : args.length = ps.length) (stored : slots.length = ps.length)
    (h : ∀ (i : Nat) (arg : Argument) (slot : Slot), args[i]? = some arg → slots[i]? = some slot →
      slot.Keeps (claimed (index + i)) arg) :
    ((ps.zip slots).filterMap fun (p, slot) ↦
        (slot.unreleased? p exception).map (p.type, ·)) =
      ((ofArguments index ps args).filter fun x ↦ !claimed x.index).map fun x ↦
        (x.param.type, x.address) := by
  induction ps generalizing index args slots with
  | nil => simp [ofArguments]
  | cons p ps ih =>
    obtain ⟨arg, args, rfl⟩ := List.exists_cons_of_length_eq_add_one given
    obtain ⟨slot, slots, rfl⟩ := List.exists_cons_of_length_eq_add_one stored
    have head : slot.Keeps (claimed index) arg := h 0 arg slot rfl rfl
    have later (i : Nat) (b : Argument) (t : Slot) (hb : args[i]? = some b)
        (ht : slots[i]? = some t) : t.Keeps (claimed (index + 1 + i)) b := by
      rw [Nat.add_assoc, Nat.add_comm 1 i]
      exact h (i + 1) b t hb ht
    have rest := ih (Nat.succ.inj given) (Nat.succ.inj stored) later
    rw [List.zip_cons_cons, List.filterMap_cons, rest]
    cases arg with
    | handle a =>
      obtain rfl : slot = .handle a (claimed index) := head
      cases already : claimed index <;> cases null : a.isNull <;>
        simp [Slot.unreleased?, ofArguments, already, null]
    | _ =>
      have nothing : slot.unreleased? p exception = none := by
        cases slot with
        | handle => exact absurd rfl head
        | _ => rfl
      simp [nothing, ofArguments]

namespace Frame

theorem Holds.unreleased_eq {f : Frame} {args : List Argument} {claimed : Nat → Bool}
    (h : f.Holds args claimed) (typed : f.WellTyped) (given : args.length = f.signature.arity) :
    f.unreleased =
      ((HandleArgument.ofArguments 0 f.signature.params args).filter
        fun x ↦ !claimed x.index).map fun x ↦ (x.param.type, x.address) := by
  refine HandleArgument.filterMap_unreleased _ given typed.arity fun i arg slot harg hslot ↦ ?_
  rw [Nat.zero_add]
  exact h i arg slot harg hslot

theorem unreleased_settled (f : Frame) :
    { f with result := .void, exception := none }.unreleased = f.unreleased := by
  have alike (p : Param) (slot : Slot) (exception : Bool) :
      slot.unreleased? p exception = slot.unreleased? p false := by
    unfold Slot.unreleased?
    split
    · rw [exit_argument, exit_argument]
    · rfl
  simp only [unreleased, alike _ _ (hasException _)]

theorem filter_abandon (f : Frame) :
    f.abandon.filter Effect.isCounting =
      f.unreleased.flatMap (fun (t, a) ↦ t.release a)
        ++ f.discardResult.filter Effect.isCounting := by
  have discard (slot : Slot) : slot.discard.filter Effect.isCounting = [] := by
    cases slot with
    | object i => exact ScriptType.filter_destruct _ _
    | _ => rfl
  simp only [abandon, List.filter_append, List.filter_flatMap, ScriptType.filter_release, discard]
  simp [Effect.isCounting]

private theorem Holds.flatMap_unreleased {f : Frame} {args : List Argument} {claimed : Nat → Bool}
    (h : f.Holds args claimed) (typed : f.WellTyped) (given : args.length = f.signature.arity)
    (counted : ∀ p ∈ f.signature.params, p.slotKind = .handle → p.type.isCounted = true) :
    f.unreleased.flatMap (fun (t, a) ↦ t.release a) =
      ((HandleArgument.ofArguments 0 f.signature.params args).filter
        fun x ↦ !claimed x.index).map HandleArgument.release := by
  have released (x : HandleArgument)
      (there : x ∈ HandleArgument.ofArguments 0 f.signature.params args) :
      x.param.type.release x.address = [x.release] := by
    obtain ⟨address, i, -, hp, harg⟩ := HandleArgument.of_mem_ofArguments there
    have inside : i < f.slots.length := typed.arity ▸ (List.getElem?_eq_some_iff.mp hp).1
    have slot := List.getElem?_eq_getElem inside
    have kept : f.slots[i] = .handle x.address (claimed i) := h i _ _ harg slot
    have kind := (typed.slots i _ _ hp slot).slotKind_eq
    rw [kept] at kind
    exact ScriptType.release_eq (counted _ (List.mem_of_getElem? hp) kind.symm)
      (Bool.eq_false_iff.mpr fun null ↦ address (Address.isNull_iff.mp null))
  rw [h.unreleased_eq typed given, List.flatMap_map, List.map_eq_flatMap]
  exact List.flatMap_congr fun x hx ↦ released x (List.mem_of_mem_filter hx)

/-- Whether effects count nothing but a handle that is returned. -/
def CountsResult (f : Frame) (effects : List Effect) : Prop :=
  effects = [] ∨ ∃ t auto a, f.signature.returns = .handle t auto ∧ f.result = .handle a ∧
    (effects = t.addRef a ∨ effects = t.release a)

theorem countsResult_outcome (f : Frame) : f.CountsResult f.outcome.2 := by
  unfold outcome
  split
  · exact .inl rfl
  · split
    · exact .inl rfl
    · split <;> exact .inl rfl
    · next a t auto result returns =>
      split
      · exact .inr ⟨t, auto, a, returns, result, .inl rfl⟩
      · exact .inl rfl
    · exact .inl rfl
    · exact .inl rfl

private theorem CountsResult.filter_eq {f : Frame} {effects : List Effect}
    (h : f.CountsResult effects) : effects.filter Effect.isCounting = effects := by
  rcases h with rfl | ⟨t, auto, a, -, -, rfl | rfl⟩
  · rfl
  · exact ScriptType.filter_addRef t a
  · exact ScriptType.filter_release t a

theorem countsResult_discardResult (f : Frame) :
    f.CountsResult (f.discardResult.filter Effect.isCounting) := by
  unfold discardResult
  split
  · exact .inl rfl
  · split
    · exact .inl (ScriptType.filter_destruct _ _)
    · next a t auto result returns =>
      rw [ScriptType.filter_release]
      exact .inr ⟨t, auto, a, returns, result, .inr rfl⟩
    · exact .inl rfl

/-! ## What operations count -/

/-- The release of the handle in the return slot, if another address replaces it. -/
def replaced (f : Frame) (a : Address) : List Effect :=
  match f.result, f.signature.returns with
  | .handle previous, .handle t _ => if previous = a then [] else t.release previous
  | _, _ => []

/-- All that an operation counts. It is about the object that is set, the one that is replaced and
the one of a handle that is refused. -/
def counts (f : Frame) : Operation → List Effect
  | .setReturnAddress a => f.replaced a
  | .setReturnHandle h =>
    if f.result.slotKind? = some .handle then f.replaced (Handle.addressOf h) else dropHandle? h
  | .setReturnObject a =>
    match f.signature.returns with
    | .handle t _ => if f.result = .handle a then [] else t.addRef a ++ f.replaced a
    | _ => []
  | _ => []

private theorem filter_setReturnAddress (f : Frame) (a : Address) :
    (f.setReturnAddress a).effects.filter Effect.isCounting = f.replaced a := by
  unfold setReturnAddress
  split
  · next previous t auto result returns =>
    simp only [Reaction.done, replaced, result, returns]
    by_cases same : previous = a
    · simp [same]
    · cases null : previous.isNull with
      | true => simp [Address.isNull_iff.mp null]
      | false => simp [same, Effect.isCounting]
  · next result => simp [Reaction.done, replaced, result]
  · next unlike =>
    rw [replaced]
    split
    · next result returns => exact absurd returns (unlike _ _ _ result)
    · rfl

private theorem filter_setReturnHandle (f : Frame) (h : Option Handle) :
    (f.setReturnHandle h).effects.filter Effect.isCounting = f.counts (.setReturnHandle h) := by
  unfold setReturnHandle
  split
  · next result =>
    rw [filter_setReturnAddress, counts, if_pos (by simp [result, ReturnSlot.slotKind?])]
  · next unlike =>
    have other : f.result.slotKind? ≠ some .handle := by
      cases result : f.result with
      | handle a => exact absurd result (unlike a)
      | _ => simp [ReturnSlot.slotKind?]
    rw [counts, if_neg other, Reaction.after, Reaction.refused, List.append_nil]
    cases h with
    | none => rfl
    | some g => exact ScriptType.filter_release g.type g.address

private theorem filter_setReturnObject (f : Frame) (a : Address) :
    (f.setReturnObject a).effects.filter Effect.isCounting = f.counts (.setReturnObject a) := by
  unfold setReturnObject
  split
  · next t auto returns =>
    simp only [counts, returns]
    split
    · rfl
    · simp [Reaction.after, filter_setReturnAddress]
  · next t returns =>
    simp only [counts, returns]
    split
    · rfl
    · split
      · rfl
      · next effects copied =>
        obtain rfl := ScriptType.eq_of_copy_eq_ok copied
        split
        · next constructed _ => cases constructed <;> simp [Reaction.done, Effect.isCounting]
        · rfl
  · next t returns => simp [filter_setReturnAddress, counts, replaced, returns]
  · next no_handle _ _ =>
    rw [counts]
    split
    · next returns => exact absurd returns (no_handle _ _)
    · rfl

theorem counts_of_idle (f : Frame) {op : Operation} (idle : op.setsReturn = false) :
    f.counts op = [] := by
  cases op with
  | setReturnAddress | setReturnHandle | setReturnObject => cases idle
  | _ => rfl

/-- An operation counts what `counts` lists, in that order, and nothing else. -/
theorem filter_effects_perform (f : Frame) (op : Operation) :
    (f.perform op).effects.filter Effect.isCounting = f.counts op := by
  cases idle : op.setsReturn with
  | false =>
    rw [counts_of_idle f idle]
    refine List.filter_eq_nil_iff.mpr fun e there ↦ ?_
    cases emits_perform f op e there with
    | counting _ sets => exact absurd (idle.symm.trans sets) Bool.false_ne_true
    | _ => exact Bool.false_ne_true
  | true =>
    cases op with
    | setReturnAddress a => exact filter_setReturnAddress f a
    | setReturnHandle h => exact filter_setReturnHandle f h
    | setReturnObject a => exact filter_setReturnObject f a
    | _ => cases idle

/-- **The protocol of handle arguments.** A frame takes one reference for every automatic handle
when it is built, and gives one up for every handle that was not claimed when it ends, in whatever
way. Nothing else is counted but for the handle that is returned. -/
theorem handles_settled {number : Nat} {sig : Signature} {receiver : Option Address}
    {args : List Argument} {policy : Policy} {f : Frame} {ops : List Operation}
    (counted : ∀ p ∈ sig.params, p.slotKind = .handle → p.type.isCounted = true)
    (built : (construct number sig receiver args policy).1 = .ok f)
    (spares : ∀ op ∈ ops, op.SparesHandles number args) :
    (construct number sig receiver args policy).2.filter Effect.isCounting =
        ((HandleArgument.ofArguments 0 sig.params args).filter (·.param.isAuto)).map
          HandleArgument.retain ∧
      (f.run ops).frame.finish.2.filter Effect.isCounting =
        (f.run ops).frame.outcome.2
          ++ (HandleArgument.unclaimed sig args ops).map HandleArgument.release ∧
      (f.run ops).frame.abandon.filter Effect.isCounting =
        (HandleArgument.unclaimed sig args ops).map HandleArgument.release
          ++ (f.run ops).frame.discardResult.filter Effect.isCounting ∧
      (f.run ops).frame.CountsResult (f.run ops).frame.outcome.2 ∧
      (f.run ops).frame.CountsResult
        ((f.run ops).frame.discardResult.filter Effect.isCounting) ∧
      (∀ op, ((f.run ops).frame.perform op).effects.filter Effect.isCounting =
        (f.run ops).frame.counts op) ∧
      ∀ i a p, args[i]? = some (.handle a) → sig.params[i]? = some p →
        ((f.run ops).frame.perform (.take i)).answer =
            (if .take i ∈ ops then .error (.handleAlreadyClaimed i)
            else .ok (.handle (Handle.adopt? p.type a))) ∧
          f.claims i ops = if .take i ∈ ops then 1 else 0 := by
  have given := (accepts_of_construct built).arity
  have typed := wellTyped_of_construct built
  have holds := holds_of_construct built
  obtain ⟨slots, effects, filled, rfl, entry⟩ := exists_filledAll_of_construct built
  -- from here on only what holds of the new frame is used, and not how it was built
  generalize hf : (⟨number, sig, receiver.getD .null, slots, .initial sig.returns, policy, none⟩ :
    Frame) = f at typed holds
  have declared : f.signature = sig := by rw [← hf]
  have spares' : ∀ op ∈ ops, op.SparesHandles f.number args := by
    rw [← hf]
    exact spares
  have same := sameCall_run f ops
  generalize hg : (f.run ops).frame = g at same
  have signature : g.signature = sig := by rw [same.signature, declared]
  have typed' : g.WellTyped := hg ▸ typed.run ops
  have given' : args.length = g.signature.arity := by rw [signature, given]
  have after : g.Holds args fun i ↦ false || decide (.take i ∈ ops) :=
    hg ▸ holds.run typed (by rw [declared, given]) spares'
  have released : g.unreleased.flatMap (fun (t, a) ↦ t.release a) =
      (HandleArgument.unclaimed sig args ops).map HandleArgument.release := by
    rw [after.flatMap_unreleased typed' given' (signature ▸ counted), signature]
    simp [HandleArgument.unclaimed]
  refine ⟨?_, ?_, ?_, countsResult_outcome g, countsResult_discardResult g,
    filter_effects_perform g, fun i a p harg hp ↦ ⟨?_, ?_⟩⟩
  · rw [entry, List.filter_append, filled.filter_effects counted]
    exact List.append_nil _
  · rw [finish, List.filter_append, (countsResult_outcome g).filter_eq, filter_abandon,
      unreleased_settled, released]
    exact congrArg _ (List.append_nil _)
  · rw [filter_abandon, released]
  · rw [after.answer_take typed' (signature ▸ hp) harg]
    simp
  · rw [holds.claims_eq typed (by rw [declared, given]) spares' harg]
    simp

/-- `Node@+ exchange(Node@, Node@+, Node@)`. -/
def exchange : Signature where
  name := "exchange"
  object := none
  params := [⟨.counted "Node", .handle false⟩, ⟨.counted "Node", .handle true⟩,
    ⟨.counted "Node", .handle false⟩]
  returns := .handle (.counted "Node") true

/-- A call of `exchange` with one object twice and no third one. -/
def exchanging : Frame where
  number := 0
  signature := exchange
  receiver := .null
  slots := [.handle (.object 0) false, .handle (.object 0) false, .handle .null false]
  result := .handle .null
  policy := .strict
  exception := none

/-- The protocol for a call that claims its first handle twice and returns it. -/
theorem handles_settled_exchanging :
    (exchanging.run [.take 0, .take 0, .setReturnAddress (.object 0)]).frame.finish.2.filter
        Effect.isCounting =
      [.addRef (.counted "Node") (.object 0), .release (.counted "Node") (.object 0)] ∧
      exchanging.claims 0 [.take 0, .take 0, .setReturnAddress (.object 0)] = 1 := by
  have built : (construct 0 exchange none
      [.handle (.object 0), .handle (.object 0), .handle .null] .strict).1 = .ok exchanging := rfl
  have counted : ∀ p ∈ exchange.params, p.slotKind = .handle → p.type.isCounted = true := by
    decide
  have spares : ∀ op ∈ [Operation.take 0, .take 0, .setReturnAddress (.object 0)],
      op.SparesHandles 0 [.handle (.object 0), .handle (.object 0), .handle .null] := by
    intro op there i a p _ write
    subst write
    simp at there
  obtain ⟨-, finished, -, -, -, -, claim⟩ := handles_settled counted built spares
  refine ⟨finished.trans ?_, ?_⟩
  · decide
  · exact (claim 0 _ _ rfl rfl).2

end Frame

end CallingConvention
