import CallingConvention.Frame.Context
import CallingConvention.Frame.Basic

/-!
# Operations of native code

Native code does one operation on its call after another. Here an operation is a value, so that
statements can range over everything that native code may do: `Frame.perform` does one operation and
`Frame.run` a sequence of them. Between two operations native code may do anything else, make calls
of its own included. None of that reaches the frame, so a sequence of operations is all that a
frame sees of its native code.

## What an operation can change

`Frame.Change` lists the ways in which an operation can change a frame, and `change_perform` says
that there are no others. What operations leave alone is read off from this list, and the
operations themselves are not opened again for it. `Frame.Emits` and `emits_perform` do the same for
the effects of operations.
-/

namespace CallingConvention

/-! ## Operations and replies -/

/-- One operation of native code on its call. The last one writes through an address. -/
inductive Operation where
  | argumentCount
  | signature
  | policy
  | receiver
  | hasException
  | argumentType (index : Nat)
  | argument (index : Nat) (k : Kind)
  | typedArgument (index : Nat) (k : Kind)
  | addressOfArgument (index : Nat)
  | argumentAddress (index : Nat)
  | argumentObject (index : Nat)
  | returnLocation
  | take (index : Nat)
  | setReturnValue (v : Value)
  | setReturnAddress (a : Address)
  | setReturnHandle (h : Option Handle)
  | setReturnObject (a : Address)
  | markConstructed
  | raise (message : String)
  | write (a : Address) (p : Payload)
  deriving DecidableEq

/-- What native code gets from an operation that is not refused. -/
inductive Reply where
  | done
  | count (n : Nat)
  | signature (s : Signature)
  | policy (p : Policy)
  | truth (b : Bool)
  | param (p : Param)
  | value (v : Value)
  | address (a : Address)
  | handle (h : Option Handle)
  deriving DecidableEq

namespace Reaction

variable {α β : Type}

/-- A reaction with its answer put in another form. -/
def map (g : α → β) (r : Reaction α) : Reaction β := ⟨r.answer.map g, r.frame, r.effects⟩

@[simp] theorem frame_map (g : α → β) (r : Reaction α) : (r.map g).frame = r.frame := rfl

@[simp] theorem effects_map (g : α → β) (r : Reaction α) : (r.map g).effects = r.effects := rfl

@[simp] theorem frame_after (effects : List Effect) (r : Reaction α) :
    (r.after effects).frame = r.frame := rfl

@[simp] theorem frame_done (a : α) (f : Frame) (effects : List Effect) :
    (done a f effects).frame = f := rfl

@[simp] theorem frame_refused (e : CallError) (f : Frame) :
    (refused e f : Reaction α).frame = f := rfl

end Reaction

namespace Frame

/-- Reading changes nothing. -/
def reading (f : Frame) (answer : Except CallError Reply) : Reaction Reply := ⟨answer, f, []⟩

/-- Do one operation. -/
def perform (f : Frame) : Operation → Reaction Reply
  | .argumentCount => f.reading (.ok (.count f.slots.length))
  | .signature => f.reading (.ok (.signature f.signature))
  | .policy => f.reading (.ok (.policy f.policy))
  | .receiver => f.reading (f.objectPointer.map .address)
  | .hasException => f.reading (.ok (.truth f.hasException))
  | .argumentType index => f.reading ((f.argumentType index).map .param)
  | .argument index k => f.reading ((f.argument index k).map .value)
  | .typedArgument index k => f.reading ((f.typedArgument index k).map .value)
  | .addressOfArgument index => f.reading ((f.addressOfArgument index).map .address)
  | .argumentAddress index => f.reading ((f.argumentAddress index).map .address)
  | .argumentObject index => f.reading ((f.argumentObject index).map .address)
  | .returnLocation => f.reading (.ok (.address f.returnLocation))
  | .take index => (f.takeHandle index).map .handle
  | .setReturnValue v => (f.setReturnValue v).map fun _ ↦ .done
  | .setReturnAddress a => (f.setReturnAddress a).map fun _ ↦ .done
  | .setReturnHandle h => (f.setReturnHandle h).map fun _ ↦ .done
  | .setReturnObject a => (f.setReturnObject a).map fun _ ↦ .done
  | .markConstructed => f.markConstructed.map fun _ ↦ .done
  | .raise message => (f.setException message).map fun _ ↦ .done
  | .write a p => .done .done (f.writeRaw a p).1 (f.writeRaw a p).2

end Frame

/-! ## Sequences of operations -/

/-- What came of a sequence of operations. -/
structure Course where
  /-- The replies, in order. -/
  replies : List (Except CallError Reply)
  /-- The frame in the end. -/
  frame : Frame
  /-- What else happened, in order. -/
  effects : List Effect

namespace Frame

/-- Do operations in order. One that is refused does not keep native code from going on. -/
def run (f : Frame) : List Operation → Course
  | [] => ⟨[], f, []⟩
  | op :: ops =>
    let r := f.perform op
    let rest := r.frame.run ops
    ⟨r.answer :: rest.replies, rest.frame, r.effects ++ rest.effects⟩

@[simp] theorem frame_run_nil (f : Frame) : (f.run []).frame = f := rfl

@[simp] theorem frame_run_cons (f : Frame) (op : Operation) (ops : List Operation) :
    (f.run (op :: ops)).frame = ((f.perform op).frame.run ops).frame := rfl

theorem frame_run_append (f : Frame) (ops more : List Operation) :
    (f.run (ops ++ more)).frame = ((f.run ops).frame.run more).frame := by
  induction ops generalizing f with
  | nil => rfl
  | cons op ops ih => exact ih (f.perform op).frame

theorem effects_run_append (f : Frame) (ops more : List Operation) :
    (f.run (ops ++ more)).effects =
      (f.run ops).effects ++ ((f.run ops).frame.run more).effects := by
  induction ops generalizing f with
  | nil => rfl
  | cons op ops ih => rw [List.cons_append, run, run, ih, List.append_assoc]

/-- What every operation keeps, every sequence of operations keeps. -/
theorem run_induction {P : Frame → Prop} (step : ∀ f op, P f → P (f.perform op).frame)
    {f : Frame} (h : P f) (ops : List Operation) : P (f.run ops).frame := by
  induction ops generalizing f with
  | nil => exact h
  | cons op ops ih => exact ih (step f op h)

end Frame

/-! ## Shapes -/

/-- The kind of slot that a stored argument is in, with the kind of the value there. -/
def Slot.slotKind : Slot → SlotKind
  | primitive v => .primitive v.kind
  | handle _ _ => .handle
  | object _ => .object
  | reference _ => .reference

/-- The kind of slot that a return is kept in, with the kind of the value there. -/
def ReturnSlot.slotKind? : ReturnSlot → Option SlotKind
  | void => none
  | primitive v => some (.primitive v.kind)
  | object _ => some .object
  | handle _ => some .handle
  | reference _ => some .reference

/-- The kind of slot that a declared return asks for. -/
def Returns.slotKind? : Returns → Option SlotKind
  | void => none
  | primitive k => some (.primitive k)
  | value _ => some .object
  | handle _ _ => some .handle
  | reference _ => some .reference

@[simp] theorem ReturnSlot.slotKind?_initial (r : Returns) :
    (ReturnSlot.initial r).slotKind? = r.slotKind? := by
  cases r <;> simp [initial, ReturnSlot.slotKind?, Returns.slotKind?]

/-! ## What an operation can change -/

namespace Frame

/-- The ways in which an operation can change a frame. -/
inductive Change (f : Frame) : Operation → Frame → Prop
  | nothing (op : Operation) : Change f op f
  | claim {i : Nat} {a : Address} (h : f.slots[i]? = some (.handle a false)) :
      Change f (.take i) (f.setSlot i (.handle a true))
  | raise {message : String} (h : f.exception = none) :
      Change f (.raise message)
        { f with exception := some ⟨f.signature.qualifiedName, message⟩ }
  | result (op : Operation) {r : ReturnSlot} (h : r.slotKind? = f.result.slotKind?) :
      Change f op { f with result := r }
  | value {i : Nat} {v u : Value} {p : Payload} (h : f.slots[i]? = some (.primitive v))
      (hk : u.kind = v.kind) :
      Change f (.write (f.slotAddress i) p) (f.setSlot i (.primitive u))
  | target {i : Nat} {a b : Address} {claimed : Bool} {p : Payload}
      (h : f.slots[i]? = some (.handle a claimed)) :
      Change f (.write (f.slotAddress i) p) (f.setSlot i (.handle b claimed))

/-! The operations that can change a frame, one by one. -/

theorem slotAt_eq_ok_iff {f : Frame} {i : Nat} {slot : Slot} :
    f.slotAt i = .ok slot ↔ f.slots[i]? = some slot := by
  unfold slotAt
  split <;> simp_all

private theorem change_takeHandle (f : Frame) (i : Nat) :
    f.Change (.take i) (f.takeHandle i).frame := by
  unfold takeHandle
  split
  · next a claimed _ hs _ =>
    cases claimed with
    | false => exact .claim (slotAt_eq_ok_iff.mp hs)
    | true => exact .nothing _
  · exact .nothing _
  · exact .nothing _

private theorem change_setReturnValue (f : Frame) (v : Value) :
    f.Change (.setReturnValue v) (f.setReturnValue v).frame := by
  unfold setReturnValue
  split
  · next stored hr =>
    split
    · next u hu =>
      refine .result _ ?_
      rw [hr, ReturnSlot.slotKind?, ReturnSlot.slotKind?, Policy.kind_of_coerce_eq_some hu]
    · exact .nothing _
  · exact .nothing _

private theorem change_setReturnAddress (f : Frame) (op : Operation) (a : Address) :
    f.Change op (f.setReturnAddress a).frame := by
  unfold setReturnAddress
  split
  · next hr _ => exact .result _ (by rw [hr]; rfl)
  · next hr => exact .result _ (by rw [hr]; rfl)
  · exact .nothing _

private theorem change_setReturnHandle (f : Frame) (h : Option Handle) :
    f.Change (.setReturnHandle h) (f.setReturnHandle h).frame := by
  unfold setReturnHandle
  split
  · exact change_setReturnAddress f _ _
  · exact .nothing _

private theorem change_setReturnObject (f : Frame) (a : Address) :
    f.Change (.setReturnObject a) (f.setReturnObject a).frame := by
  unfold setReturnObject
  split
  · split
    · exact .nothing _
    · exact change_setReturnAddress f _ _
  · split
    · exact .nothing _
    · split
      · exact .nothing _
      · split
        · next hr => exact .result _ (by rw [hr]; rfl)
        · exact .nothing _
  · exact change_setReturnAddress f _ _
  · exact .nothing _

private theorem change_markConstructed (f : Frame) :
    f.Change .markConstructed f.markConstructed.frame := by
  unfold markConstructed
  split
  · next hr => exact .result _ (by rw [hr]; rfl)
  · exact .nothing _

private theorem change_setException (f : Frame) (message : String) :
    f.Change (.raise message) (f.setException message).frame := by
  unfold setException
  split
  · next none_pending => exact .raise none_pending
  · exact .nothing _

private theorem change_writeRaw (f : Frame) (a : Address) (p : Payload) :
    f.Change (.write a p) (f.writeRaw a p).1 := by
  unfold writeRaw
  split
  · split
    · next number =>
      subst number
      split
      · next v hs => exact .value hs (Value.kind_overwrite v p.bytes)
      · next hs => exact .target hs
      · exact .nothing _
      · exact .nothing _
    · exact .nothing _
  · split
    · split
      · next v hr =>
        refine .result _ ?_
        rw [hr, ReturnSlot.slotKind?, ReturnSlot.slotKind?, Value.kind_overwrite]
      · next hr => exact .result _ (by rw [hr]; rfl)
      · next hr => exact .result _ (by rw [hr]; rfl)
      · exact .nothing _
      · exact .nothing _
    · exact .nothing _
  · exact .nothing _
  · exact .nothing _

/-- Operations change frames in no other ways. -/
theorem change_perform (f : Frame) (op : Operation) : f.Change op (f.perform op).frame := by
  cases op with
  | take i => exact change_takeHandle f i
  | setReturnValue v => exact change_setReturnValue f v
  | setReturnAddress a => exact change_setReturnAddress f _ a
  | setReturnHandle h => exact change_setReturnHandle f h
  | setReturnObject a => exact change_setReturnObject f a
  | markConstructed => exact change_markConstructed f
  | raise message => exact change_setException f message
  | write a p => exact change_writeRaw f a p
  | _ => exact .nothing _

end Frame

/-! ## What effects an operation can have -/

namespace Effect

/-- Whether an effect takes or gives up a reference. -/
def isCounting : Effect → Bool
  | addRef _ _ => true
  | release _ _ => true
  | _ => false

/-- Whether an effect takes or gives up a reference or ends the life of an instance. -/
def isUpkeep : Effect → Bool
  | addRef _ _ | release _ _ | destruct _ _ => true
  | _ => false

theorem isUpkeep_of_isCounting {e : Effect} (kind : e.isCounting = true) : e.isUpkeep = true := by
  cases e with
  | addRef | release => rfl
  | _ => cases kind

end Effect

namespace ScriptType

private theorem isCounting_addRef (t : ScriptType) (a : Address) :
    ∀ e ∈ t.addRef a, e.isCounting = true := by
  unfold addRef
  split
  · exact List.forall_mem_nil _
  · exact List.forall_mem_singleton.mpr rfl

private theorem isCounting_release (t : ScriptType) (a : Address) :
    ∀ e ∈ t.release a, e.isCounting = true := by
  unfold release
  split
  · exact List.forall_mem_nil _
  · exact List.forall_mem_singleton.mpr rfl

theorem isUpkeep_addRef (t : ScriptType) (a : Address) : ∀ e ∈ t.addRef a, e.isUpkeep = true :=
  fun e there ↦ Effect.isUpkeep_of_isCounting (t.isCounting_addRef a e there)

theorem isUpkeep_release (t : ScriptType) (a : Address) : ∀ e ∈ t.release a, e.isUpkeep = true :=
  fun e there ↦ Effect.isUpkeep_of_isCounting (t.isCounting_release a e there)

theorem isUpkeep_destruct (t : ScriptType) (a : Address) :
    ∀ e ∈ t.destruct a, e.isUpkeep = true := by
  unfold destruct
  split
  · exact List.forall_mem_nil _
  · exact List.forall_mem_singleton.mpr rfl

end ScriptType

/-- Whether an operation is about a return that may be a handle. -/
def Operation.setsReturn : Operation → Bool
  | setReturnAddress _ => true
  | setReturnHandle _ => true
  | setReturnObject _ => true
  | _ => false

namespace Frame

/-- The effects that an operation can have. Setting the return counts, and an object that is set is
copied to the return storage, where another may end. Besides there are entries in the log and what
native code writes to storage. -/
inductive Emits (f : Frame) (op : Operation) : Effect → Prop
  | counting {e : Effect} (kind : e.isCounting = true) (sets : op.setsReturn = true) : Emits f op e
  | ending (t : ScriptType) {a : Address} (asked : op = .setReturnObject a) (given : a ≠ .null) :
      Emits f op (.destruct t f.resultAddress)
  | copy (t : ScriptType) {a : Address} (asked : op = .setReturnObject a) (given : a ≠ .null) :
      Emits f op (.copy t f.resultAddress a)
  | warning (function message : String) : Emits f op (.log (.protocolWarning function message))
  | exception (function message : String) : Emits f op (.log (.scriptException function message))
  | write {a : Address} {p : Payload} (writes : op = .write a p) : Emits f op (.write a p)

private theorem emits_setReturnAddress (f : Frame) {op : Operation} (sets : op.setsReturn = true)
    (a : Address) : ∀ e ∈ (f.setReturnAddress a).effects, f.Emits op e := by
  have released (t : ScriptType) (b : Address) : ∀ e ∈ t.release b, f.Emits op e :=
    fun e there ↦ .counting (t.isCounting_release b e there) sets
  unfold setReturnAddress
  split
  · simp only [Reaction.done]
    split
    · exact List.forall_mem_cons.mpr ⟨.warning _ _, released _ _⟩
    · exact List.forall_mem_nil _
  · exact List.forall_mem_nil _
  · exact List.forall_mem_nil _

private theorem emits_setReturnHandle (f : Frame) (h : Option Handle) :
    ∀ e ∈ (f.setReturnHandle h).effects, f.Emits (.setReturnHandle h) e := by
  unfold setReturnHandle
  split
  · exact emits_setReturnAddress f rfl _
  · simp only [Reaction.after, Reaction.refused, List.append_nil]
    cases h with
    | none => exact List.forall_mem_nil _
    | some g => exact fun e there ↦ .counting (g.type.isCounting_release g.address e there) rfl

private theorem emits_setReturnObject (f : Frame) (a : Address) :
    ∀ e ∈ (f.setReturnObject a).effects, f.Emits (.setReturnObject a) e := by
  have nothing : ∀ e ∈ ([] : List Effect), f.Emits (.setReturnObject a) e := List.forall_mem_nil _
  unfold setReturnObject
  split
  · split
    · exact nothing
    · exact List.forall_mem_append.mpr
        ⟨fun e there ↦ .counting (ScriptType.isCounting_addRef _ a e there) rfl,
          emits_setReturnAddress f rfl a⟩
  · next t returns =>
    split
    · exact nothing
    · next there =>
      have given : a ≠ .null := fun null ↦ there (Address.isNull_iff.mpr null)
      split
      · exact nothing
      · next effects copied =>
        obtain rfl := ScriptType.eq_of_copy_eq_ok copied
        split
        · next constructed result =>
          refine List.forall_mem_append.mpr
            ⟨?_, List.forall_mem_singleton.mpr (.copy t rfl given)⟩
          cases constructed
          · exact nothing
          · simp only [if_true, ScriptType.destruct]
            split
            · exact nothing
            · exact List.forall_mem_singleton.mpr (.ending t rfl given)
        · exact nothing
  · exact emits_setReturnAddress f rfl a
  · exact nothing

private theorem emits_writeRaw (f : Frame) (a : Address) (p : Payload) :
    ∀ e ∈ (f.writeRaw a p).2, f.Emits (.write a p) e := by
  have written : (f.writeRaw a p).2 = [] ∨ (f.writeRaw a p).2 = [.write a p] := by
    unfold writeRaw
    repeat' split
    all_goals first | exact .inl rfl | exact .inr rfl
  rcases written with none | one
  · rw [none]
    exact List.forall_mem_nil _
  · rw [one]
    exact List.forall_mem_singleton.mpr (.write rfl)

/-- Operations have no other effects. -/
theorem emits_perform (f : Frame) (op : Operation) :
    ∀ e ∈ (f.perform op).effects, f.Emits op e := by
  cases op with
  | take i =>
    rw [perform, Reaction.effects_map, takeHandle]
    split
    · split <;> exact List.forall_mem_nil _
    · exact List.forall_mem_nil _
    · exact List.forall_mem_nil _
  | setReturnValue v =>
    rw [perform, Reaction.effects_map, setReturnValue]
    split
    · split <;> exact List.forall_mem_nil _
    · exact List.forall_mem_nil _
  | setReturnAddress a => exact emits_setReturnAddress f rfl a
  | setReturnHandle h => exact emits_setReturnHandle f h
  | setReturnObject a => exact emits_setReturnObject f a
  | markConstructed =>
    rw [perform, Reaction.effects_map, markConstructed]
    split <;> exact List.forall_mem_nil _
  | raise message =>
    rw [perform, Reaction.effects_map, setException]
    split
    · exact List.forall_mem_singleton.mpr (.exception _ _)
    · exact List.forall_mem_singleton.mpr (.warning _ _)
  | write a p => exact emits_writeRaw f a p
  | _ => exact List.forall_mem_nil _

theorem isUpkeep_unreleased (f : Frame) :
    ∀ e ∈ f.unreleased.flatMap fun (t, a) ↦ t.release a, e.isUpkeep = true := by
  intro e there
  obtain ⟨⟨t, a⟩, -, released⟩ := List.mem_flatMap.mp there
  exact t.isUpkeep_release a e released

theorem isUpkeep_discard (f : Frame) : ∀ e ∈ f.slots.flatMap Slot.discard, e.isUpkeep = true := by
  intro e there
  obtain ⟨slot, -, discarded⟩ := List.mem_flatMap.mp there
  cases slot with
  | object i => exact ScriptType.isUpkeep_destruct _ _ e discarded
  | _ => exact absurd discarded List.not_mem_nil

theorem isUpkeep_discardResult (f : Frame) : ∀ e ∈ f.discardResult, e.isUpkeep = true := by
  unfold discardResult
  split
  · exact List.forall_mem_nil _
  · split
    · exact ScriptType.isUpkeep_destruct _ _
    · exact ScriptType.isUpkeep_release _ _
    · exact List.forall_mem_nil _

theorem isUpkeep_outcome (f : Frame) : ∀ e ∈ f.outcome.2, e.isUpkeep = true := by
  unfold outcome
  split
  · exact List.forall_mem_nil _
  · split
    · exact List.forall_mem_nil _
    · split <;> exact List.forall_mem_nil _
    · split
      · exact ScriptType.isUpkeep_addRef _ _
      · exact List.forall_mem_nil _
    · exact List.forall_mem_nil _
    · exact List.forall_mem_nil _

/-! ## What operations leave alone -/

/-- Two states of one call. -/
structure SameCall (f g : Frame) : Prop where
  /-- The frame keeps its number, -/
  number : g.number = f.number
  /-- its signature, -/
  signature : g.signature = f.signature
  /-- its receiver, -/
  receiver : g.receiver = f.receiver
  /-- its policy -/
  policy : g.policy = f.policy
  /-- and the number of its slots. -/
  arguments : g.slots.length = f.slots.length

theorem SameCall.refl (f : Frame) : f.SameCall f := ⟨rfl, rfl, rfl, rfl, rfl⟩

theorem SameCall.trans {f g h : Frame} (fg : f.SameCall g) (gh : g.SameCall h) : f.SameCall h where
  number := gh.number.trans fg.number
  signature := gh.signature.trans fg.signature
  receiver := gh.receiver.trans fg.receiver
  policy := gh.policy.trans fg.policy
  arguments := gh.arguments.trans fg.arguments

private theorem sameCall_setSlot (f : Frame) (i : Nat) (slot : Slot) :
    f.SameCall (f.setSlot i slot) :=
  ⟨rfl, rfl, rfl, rfl, List.length_set⟩

theorem Change.sameCall {f g : Frame} {op : Operation} (h : f.Change op g) : f.SameCall g := by
  cases h with
  | nothing => exact .refl f
  | claim => exact sameCall_setSlot f _ _
  | raise => exact ⟨rfl, rfl, rfl, rfl, rfl⟩
  | result => exact ⟨rfl, rfl, rfl, rfl, rfl⟩
  | value => exact sameCall_setSlot f _ _
  | target => exact sameCall_setSlot f _ _

/-- Native code stays within its call. -/
theorem sameCall_run (f : Frame) (ops : List Operation) : f.SameCall (f.run ops).frame :=
  run_induction (fun g op h ↦ h.trans (change_perform g op).sameCall) (.refl f) ops

end Frame

end CallingConvention
