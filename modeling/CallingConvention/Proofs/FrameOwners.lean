import CallingConvention.Proofs.Counting
import CallingConvention.Proofs.HandleProtocol

/-!
# References that a frame owns

A frame owns the references in its handle slots that were not claimed yet, and the one in a return
slot for handles (`Frame.owned`). Building a frame, every operation of native code and both ways to
end a frame are changes of hands: the frame gets the references from the caller or from native code,
or it counts them, and what it no longer owns somebody else does or it has given up.

All of this is for counted objects, so the types of the handles in a signature are types of such
(`Signature.CountsHandles`). Then every handle slot is for one of these types, and every reference
that is taken or given up shows in the count of the object.
-/

namespace CallingConvention

/-! ## Effects of counted types -/

namespace ScriptType

/-- Whether a type is a type of counted objects. -/
def CountsObjects (t : ScriptType) : Prop := ∃ name, t = counted name

@[simp] theorem gained_release (t : ScriptType) (a : Address) (n : Nat) :
    Effect.gained n (t.release a) = 0 := by
  unfold release
  split <;> rfl

@[simp] theorem lost_addRef (t : ScriptType) (a : Address) (n : Nat) :
    Effect.lost n (t.addRef a) = 0 := by
  unfold addRef
  split <;> rfl

@[simp] theorem gained_destruct (t : ScriptType) (a : Address) (n : Nat) :
    Effect.gained n (t.destruct a) = 0 := by
  unfold destruct
  split <;> rfl

@[simp] theorem lost_destruct (t : ScriptType) (a : Address) (n : Nat) :
    Effect.lost n (t.destruct a) = 0 := by
  unfold destruct
  split <;> rfl

theorem CountsObjects.gained_addRef {t : ScriptType} (h : t.CountsObjects) (a : Address) (n : Nat) :
    Effect.gained n (t.addRef a) = [a].count (.object n) := by
  obtain ⟨name, rfl⟩ := h
  cases a <;> simp [addRef, counted, reference, Effect.gains, Address.isNull, List.count_cons]

theorem CountsObjects.lost_release {t : ScriptType} (h : t.CountsObjects) (a : Address) (n : Nat) :
    Effect.lost n (t.release a) = [a].count (.object n) := by
  obtain ⟨name, rfl⟩ := h
  cases a <;> simp [release, counted, reference, Effect.losses, Address.isNull, List.count_cons]

theorem CountsObjects.references_addRef {t : ScriptType} (h : t.CountsObjects) {s : Store}
    {a : Address} {n : Nat} (live : a = .object n → ∃ k, s.tenure? n = some (.counted k)) :
    (s.applyAll (t.addRef a)).references (.object n) =
      s.references (.object n) + [a].count (.object n) := by
  by_cases same : a = .object n
  · obtain ⟨k, counted⟩ := live same
    obtain ⟨name, rfl⟩ := h
    subst same
    have once : ((ScriptType.counted name).addRef (.object n)) =
        [.addRef (ScriptType.counted name) (.object n)] := rfl
    rw [once, Store.applyAll_cons, Store.applyAll_nil, Store.references_eq_of_counted counted,
      Store.references_eq_of_counted (Store.tenure?_apply counted _), List.count_singleton_self]
    simp [Effect.gains, Effect.losses, ScriptType.counted, reference]
  · have none : [a].count (.object n) = 0 := List.count_eq_zero.mpr (by simpa using Ne.symm same)
    rw [Store.references_applyAll_of_gained_eq_zero ((h.gained_addRef a n).trans none), lost_addRef,
      none]
    rfl

theorem CountsObjects.isCounted {t : ScriptType} (h : t.CountsObjects) : t.isCounted = true := by
  obtain ⟨name, rfl⟩ := h
  rfl

end ScriptType

namespace Effect

private theorem gained_filter (n : Nat) (es : List Effect) :
    gained n (es.filter isCounting) = gained n es := by
  induction es with
  | nil => rfl
  | cons e es ih => cases e <;> simp [List.filter_cons, isCounting, gains, ih]

private theorem lost_filter (n : Nat) (es : List Effect) :
    lost n (es.filter isCounting) = lost n es := by
  induction es with
  | nil => rfl
  | cons e es ih => cases e <;> simp [List.filter_cons, isCounting, losses, ih]

theorem gained_of_filter_eq_nil {es : List Effect} (h : es.filter isCounting = []) (n : Nat) :
    gained n es = 0 := by
  rw [← gained_filter, h, gained_nil]

theorem lost_of_filter_eq_nil {es : List Effect} (h : es.filter isCounting = []) (n : Nat) :
    lost n es = 0 := by
  rw [← lost_filter, h, lost_nil]

end Effect

theorem Handle.countsObjects_adopt? {t : ScriptType} (h : t.CountsObjects) (a : Address) :
    ∀ g ∈ (adopt? t a).toList, g.type.CountsObjects := by
  intro g there
  rw [type_of_adopt? (Option.mem_toList.mp there)]
  exact h

theorem Address.count_null {b : Address} (given : b ≠ .null) : [Address.null].count b = 0 :=
  List.count_eq_zero.mpr (mt List.mem_singleton.mp given)

theorem Handle.count_adopt?_of_ne_null (t : ScriptType) (a : Address) {b : Address}
    (given : b ≠ .null) : ((adopt? t a).toList.map address).count b = [a].count b := by
  unfold adopt?
  split
  · next null =>
    rw [Address.isNull_iff.mp null, Address.count_null given]
    rfl
  · rfl

theorem Handle.count_adopt? (t : ScriptType) (a : Address) (n : Nat) :
    ((adopt? t a).toList.map address).count (.object n) = [a].count (.object n) :=
  count_adopt?_of_ne_null t a Address.noConfusion

/-! ## What a frame owns -/

/-- The reference in a slot, if it is that of a handle that was not claimed. -/
def Slot.owned : Slot → List Address
  | handle a false => [a]
  | _ => []

/-- The reference in a return slot. -/
def ReturnSlot.owned : ReturnSlot → List Address
  | handle a => [a]
  | _ => []

/-- The references that a frame owns. -/
def Frame.owned (f : Frame) : List Address := f.slots.flatMap Slot.owned ++ f.result.owned

/-- Whether all handles in a signature are handles of counted objects. -/
structure Signature.CountsHandles (sig : Signature) : Prop where
  /-- Handles that are given are to counted objects, -/
  params : ∀ p ∈ sig.params, p.slotKind = .handle → p.type.CountsObjects
  /-- and so is the handle that is returned. -/
  returns : ∀ t auto, sig.returns = .handle t auto → t.CountsObjects

theorem Frame.countsHandles_exchange : exchange.CountsHandles := by
  have counted : (ScriptType.counted "Node").CountsObjects := ⟨"Node", rfl⟩
  refine ⟨fun p there _ ↦ ?_, fun t auto returns ↦ ?_⟩
  · simp only [exchange, List.mem_cons, List.not_mem_nil, or_false] at there
    rcases there with rfl | rfl | rfl <;> exact counted
  · cases returns
    exact counted

namespace HandleArgument

/-- The references that a caller gives away in a call. -/
def given (sig : Signature) (args : List Argument) : List Address :=
  ((ofArguments 0 sig.params args).filter (!·.param.isAuto)).map address

/-- The references that a caller keeps in a call: the frame takes references of its own. -/
def lent (sig : Signature) (args : List Argument) : List Address :=
  ((ofArguments 0 sig.params args).filter (·.param.isAuto)).map address

private theorem count_owned {policy : Policy} {frame index : Nat} {ps : List Param}
    {args : List Argument} {slots : List Slot} {effects : List Effect}
    (h : Slot.FilledAll policy frame index ps args slots effects) (n : Nat) :
    (slots.flatMap Slot.owned).count (.object n) =
      ((ofArguments index ps args).map address).count (.object n) := by
  induction h with
  | nil => rfl
  | cons head tail ih =>
    rw [List.flatMap_cons, List.count_append, ih]
    cases head with
    | @handle a kind =>
      cases a <;>
        simp [Slot.owned, ofArguments, Address.isNull, List.count_cons, Nat.add_comm]
    | _ => simp [Slot.owned, ofArguments]

private theorem slotKind_of_mem_ofArguments {policy : Policy} {frame : Nat} {ps : List Param}
    {args : List Argument} {slots : List Slot} {effects : List Effect}
    (h : Slot.FilledAll policy frame 0 ps args slots effects) {x : HandleArgument}
    (hx : x ∈ ofArguments 0 ps args) : x.param ∈ ps ∧ x.param.slotKind = .handle := by
  obtain ⟨-, i, -, hp, harg⟩ := of_mem_ofArguments hx
  have inside : i < slots.length := h.length_eq ▸ (List.getElem?_eq_some_iff.mp hp).1
  obtain ⟨arg, es, harg', filled⟩ := h.filled hp (List.getElem?_eq_getElem inside)
  rw [harg] at harg'
  obtain rfl := Option.some.inj harg'
  refine ⟨List.mem_of_getElem? hp, ?_⟩
  generalize slots[i] = slot at filled
  cases filled with
  | handle kind => exact kind

private theorem gained_map_retain {xs : List HandleArgument}
    (h : ∀ x ∈ xs, x.param.type.CountsObjects) (n : Nat) :
    Effect.gained n (xs.map retain) = (xs.map address).count (.object n) := by
  induction xs with
  | nil => rfl
  | cons x xs ih =>
    obtain ⟨name, type⟩ := h x List.mem_cons_self
    rw [List.map_cons, List.map_cons, Effect.gained_cons, List.count_cons,
      ih fun y hy ↦ h y (List.mem_cons_of_mem x hy)]
    simp [retain, Effect.gains, type, ScriptType.counted, ScriptType.reference, Nat.add_comm]

private theorem lost_map_retain (xs : List HandleArgument) (n : Nat) :
    Effect.lost n (xs.map retain) = 0 := by
  induction xs with
  | nil => rfl
  | cons x xs ih => rw [List.map_cons, Effect.lost_cons, ih]; rfl

private theorem count_given_add_lent (sig : Signature) (args : List Argument) (n : Nat) :
    (given sig args).count (.object n) + (lent sig args).count (.object n) =
      ((ofArguments 0 sig.params args).map address).count (.object n) := by
  unfold given lent
  induction ofArguments 0 sig.params args with
  | nil => rfl
  | cons x xs ih =>
    rw [List.map_cons, List.count_cons, ← ih]
    cases auto : x.param.isAuto <;> simp [auto, List.count_cons] <;> omega

end HandleArgument

namespace Frame

/-! ## Building a frame -/

theorem counts_construct {number : Nat} {sig : Signature} {receiver : Option Address}
    {args : List Argument} {policy : Policy} {f : Frame} (counts : sig.CountsHandles)
    (h : (construct number sig receiver args policy).1 = .ok f) (n : Nat) :
    Effect.gained n (construct number sig receiver args policy).2 =
        (HandleArgument.lent sig args).count (.object n) ∧
      Effect.lost n (construct number sig receiver args policy).2 = 0 := by
  obtain ⟨slots, effects, filled, rfl, entry⟩ := exists_filledAll_of_construct h
  have entered := filled.filter_effects fun p hp kind ↦ (counts.params p hp kind).isCounted
  have lost : Effect.lost n effects = 0 := by
    rw [← Effect.lost_filter, entered, HandleArgument.lost_map_retain]
  have gained : Effect.gained n effects = (HandleArgument.lent sig args).count (.object n) := by
    rw [← Effect.gained_filter, entered, HandleArgument.gained_map_retain, HandleArgument.lent]
    intro x hx
    obtain ⟨there, kind⟩ :=
      HandleArgument.slotKind_of_mem_ofArguments filled (List.mem_of_mem_filter hx)
    exact counts.params _ there kind
  rw [entry, Effect.gained_append, Effect.lost_append, gained, lost]
  exact ⟨rfl, rfl⟩

theorem count_owned_construct {number : Nat} {sig : Signature} {receiver : Option Address}
    {args : List Argument} {policy : Policy} {f : Frame}
    (h : (construct number sig receiver args policy).1 = .ok f) (n : Nat) :
    (f.slots.flatMap Slot.owned).count (.object n) =
      (HandleArgument.given sig args).count (.object n)
        + (HandleArgument.lent sig args).count (.object n) := by
  obtain ⟨slots, effects, filled, rfl, -⟩ := exists_filledAll_of_construct h
  rw [HandleArgument.count_owned filled, HandleArgument.count_given_add_lent]

/-- A new frame owns what the caller gave away and what was counted for it. -/
theorem exchange_construct {number : Nat} {sig : Signature} {receiver : Option Address}
    {args : List Argument} {policy : Policy} {f : Frame} (counts : sig.CountsHandles)
    (h : (construct number sig receiver args policy).1 = .ok f) :
    Exchange (HandleArgument.given sig args) f.owned (HandleArgument.lent sig args)
      (construct number sig receiver args policy).2 := by
  have entered := counts_construct counts h
  have slots := count_owned_construct h
  have initial (n : Nat) : f.result.owned.count (.object n) = 0 := by
    obtain ⟨_, _, -, rfl, -⟩ := exists_filledAll_of_construct h
    cases sig.returns <;> simp [ReturnSlot.initial, ReturnSlot.owned]
  refine .of_lost_eq_zero (fun n ↦ (entered n).2) (fun n ↦ ?_) fun n taken ↦ ?_
  · rw [owned, List.count_append, slots, initial, (entered n).1]
    exact Nat.le_refl _
  · rw [(entered n).1] at taken
    exact .inr (List.count_pos_iff.mp taken)

/-! ## Operations -/

end Frame

/-- The handles that native code hands over in an operation. -/
def Operation.handed : Operation → List Handle
  | setReturnHandle h => h.toList
  | _ => []

/-- The addresses that native code only lends in an operation: an object that is returned as a
handle without being given away. -/
def Frame.lent (f : Frame) (op : Operation) : List Address :=
  match op, f.signature.returns with
  | .setReturnObject a, .handle _ _ => [a]
  | _, _ => []

/-- The handles that native code gets from an operation. -/
def Reply.received : Except CallError Reply → List Handle
  | .ok (handle h) => h.toList
  | _ => []

/-- Whether an operation works on references only as counted references: it neither writes to
storage nor returns a bare address. -/
def Operation.IsCounted : Operation → Prop
  | setReturnAddress _ => False
  | write _ _ => False
  | _ => True

namespace Frame

private theorem count_owned_set {slots : List Slot} {i : Nat} {a : Address}
    (h : slots[i]? = some (.handle a false)) (b : Address) :
    (slots.flatMap Slot.owned).count b =
      ((slots.set i (.handle a true)).flatMap Slot.owned).count b + [a].count b := by
  induction slots generalizing i with
  | nil => simp at h
  | cons slot slots ih =>
    cases i with
    | zero =>
      obtain rfl := Option.some.inj h
      simp [Slot.owned, List.count_cons]
    | succ i =>
      have rest := ih h
      simp only [List.set_cons_succ, List.flatMap_cons, List.count_append] at rest ⊢
      omega

theorem exchange_takeHandle (f : Frame) (i : Nat) :
    Exchange f.owned
      ((f.takeHandle i).frame.owned
        ++ (Reply.received ((f.takeHandle i).answer.map .handle)).map Handle.address) []
      (f.takeHandle i).effects := by
  have refused (e : CallError) : Exchange f.owned (f.owned ++ []) [] [] :=
    .of_count_le (fun _ ↦ Nat.le_of_eq (congrArg _ (List.append_nil _))) (fun _ ↦ rfl) fun _ ↦ rfl
  unfold takeHandle
  split
  · next a claimed p slot type =>
    cases claimed with
    | true => exact refused (.handleAlreadyClaimed i)
    | false =>
      refine .of_count_le (fun n ↦ ?_) (fun _ ↦ rfl) fun _ ↦ rfl
      have moved := count_owned_set (slotAt_eq_ok_iff.mp slot) (.object n)
      have handle : ((Reply.received (.ok (.handle (Handle.adopt? p.type a)))).map
          Handle.address).count (.object n) = [a].count (.object n) := by
        cases a <;> rfl
      simp only [Bool.false_eq_true, if_false, Reaction.done, Except.map, owned, setSlot,
        List.count_append, handle]
      omega
  · next slot _ _ => exact refused (slotMismatch i slot "handle")
  · next e _ => exact refused e

theorem lost_setReturnAddress {f : Frame} {t : ScriptType} (counts : t.CountsObjects)
    {auto : Bool} {previous : Address} (returns : f.signature.returns = .handle t auto)
    (result : f.result = .handle previous) (a : Address) (n : Nat) :
    Effect.gained n (f.setReturnAddress a).effects = 0 ∧
      Effect.lost n (f.setReturnAddress a).effects =
        if previous = a then 0 else [previous].count (.object n) := by
  rw [setReturnAddress, result, returns]
  have release := counts.lost_release previous n
  by_cases same : previous = a
  · simp [Reaction.done, same]
  · cases null : previous.isNull with
    | true =>
      obtain rfl := Address.isNull_iff.mp null
      simp [Reaction.done, Address.isNull]
    | false => simp [Reaction.done, same, null, release, Effect.gains, Effect.losses]

private theorem owned_setReturnAddress {f : Frame} {t : ScriptType} {auto : Bool}
    {previous : Address} (returns : f.signature.returns = .handle t auto)
    (result : f.result = .handle previous) (a : Address) :
    (f.setReturnAddress a).frame.owned = f.slots.flatMap Slot.owned ++ [a] := by
  rw [setReturnAddress, result, returns]
  rfl

private theorem owned_of_handle {f : Frame} {previous : Address}
    (result : f.result = .handle previous) :
    f.owned = f.slots.flatMap Slot.owned ++ [previous] := by
  rw [owned, result]
  rfl

/-- A handle that is returned passes from native code to the frame, or is dropped if the return is
not one for handles. -/
theorem exchange_setReturnHandle {f : Frame} (typed : f.WellTyped)
    (counts : f.signature.CountsHandles) {h : Option Handle}
    (counted : ∀ g ∈ h.toList, g.type.CountsObjects) :
    Exchange (f.owned ++ h.toList.map Handle.address) (f.setReturnHandle h).frame.owned []
      (f.setReturnHandle h).effects := by
  have handed (n : Nat) : (h.toList.map Handle.address).count (.object n) =
      [Handle.addressOf h].count (.object n) := by
    cases h <;> rfl
  unfold setReturnHandle
  split
  · next previous result =>
    obtain ⟨t, auto, returns⟩ := typed.returns_handle result
    have effects := lost_setReturnAddress (counts.returns t auto returns) returns result
      (Handle.addressOf h)
    refine .of_gained_eq_zero (fun n ↦ (effects n).1) fun n ↦ ?_
    rw [(effects n).2, owned_setReturnAddress returns result, owned_of_handle result]
    simp only [List.count_append, handed]
    split <;> omega
  · have effects (n : Nat) : Effect.gained n (dropHandle? h) = 0 ∧
        Effect.lost n (dropHandle? h) = (h.toList.map Handle.address).count (.object n) := by
      cases h with
      | none => exact ⟨rfl, rfl⟩
      | some g =>
        exact ⟨ScriptType.gained_release _ _ n, (counted g (by simp)).lost_release g.address n⟩
    simp only [Reaction.after, Reaction.refused, List.append_nil]
    refine .of_gained_eq_zero (fun n ↦ (effects n).1) fun n ↦ Nat.le_of_eq ?_
    rw [(effects n).2, List.count_append]

/-- An object that is returned is not given away: a return for handles counts it. -/
theorem exchange_setReturnObject {f : Frame} (typed : f.WellTyped)
    (counts : f.signature.CountsHandles) (a : Address) :
    Exchange f.owned (f.setReturnObject a).frame.owned (f.lent (.setReturnObject a))
      (f.setReturnObject a).effects := by
  have unchanged {es : List Effect} {borrowed : List Address}
      (gained : ∀ n, Effect.gained n es = 0) (lost : ∀ n, Effect.lost n es = 0) :
      Exchange f.owned f.owned borrowed es :=
    .of_count_le (fun n ↦ Nat.le_refl _) gained lost
  cases returns : f.signature.returns with
  | handle t auto =>
    obtain ⟨previous, result⟩ := typed.exists_handle returns
    simp only [setReturnObject, returns]
    split
    · exact unchanged (fun _ ↦ rfl) fun _ ↦ rfl
    · next other =>
      have apart : previous ≠ a := fun same ↦ other (same ▸ result)
      have effects := lost_setReturnAddress (counts.returns t auto returns) returns result a
      have taken := (counts.returns t auto returns).gained_addRef a
      simp only [Reaction.after]
      refine ⟨fun n ↦ ?_, fun n ↦ ?_, fun n gains ↦ ?_⟩
      · rw [Effect.lost_append, Effect.gained_append, (effects n).1, (effects n).2, if_neg apart,
          ScriptType.lost_addRef, taken, owned_setReturnAddress returns result,
          owned_of_handle result]
        simp only [List.count_append]
        omega
      · rw [Effect.lost_append, (effects n).2, if_neg apart, ScriptType.lost_addRef,
          owned_of_handle result, List.count_append]
        omega
      · -- the one object that is counted is the returned one, which is lent and not given up here
        rw [Effect.gained_append, (effects n).1, taken] at gains
        obtain rfl : Address.object n = a := by simpa using gains
        rw [Effect.lost_append, (effects n).2, if_neg apart, ScriptType.lost_addRef]
        exact .inr ⟨by simp [apart], by simp [lent, returns]⟩
  | value t =>
    obtain ⟨constructed, result⟩ := typed.exists_object returns
    simp only [setReturnObject, returns]
    split
    · exact unchanged (fun _ ↦ rfl) fun _ ↦ rfl
    · split
      · exact unchanged (fun _ ↦ rfl) fun _ ↦ rfl
      · next effects copied =>
        obtain rfl := ScriptType.eq_of_copy_eq_ok copied
        have same : (f.slots.flatMap Slot.owned ++ (ReturnSlot.object true).owned) = f.owned := by
          rw [owned, result]
          rfl
        rw [result]
        simp only [Reaction.done]
        refine .of_count_le (fun n ↦ Nat.le_of_eq (congrArg _ same)) (fun n ↦ ?_) fun n ↦ ?_ <;>
          cases constructed <;> simp [Effect.gains, Effect.losses]
  | reference t =>
    obtain ⟨previous, result⟩ := typed.exists_reference returns
    have same : f.slots.flatMap Slot.owned ++ (ReturnSlot.reference a).owned = f.owned := by
      rw [owned, result]
      rfl
    simp only [setReturnObject, returns, setReturnAddress, result, Reaction.done]
    exact .of_count_le (fun n ↦ Nat.le_of_eq (congrArg _ same)) (fun _ ↦ rfl) fun _ ↦ rfl
  | void | primitive =>
    simp only [setReturnObject, returns]
    exact unchanged (fun _ ↦ rfl) fun _ ↦ rfl

/-- Other operations that are about the frame leave all references where they are. -/
theorem exchange_of_owned {f g : Frame} {es : List Effect} (same : g.owned = f.owned)
    (quiet : es.filter Effect.isCounting = []) : Exchange f.owned g.owned [] es :=
  .of_count_le (fun _ ↦ Nat.le_of_eq (congrArg _ same)) (Effect.gained_of_filter_eq_nil quiet)
    (Effect.lost_of_filter_eq_nil quiet)

private theorem received_map {α : Type} {r : Except CallError α} {g : α → Reply}
    (h : ∀ a, Reply.received (.ok (g a)) = []) : Reply.received (r.map g) = [] := by
  cases r with
  | error e => rfl
  | ok a => exact h a

private theorem received_of_ne_take (f : Frame) {op : Operation} (h : ∀ i, op ≠ .take i) :
    Reply.received (f.perform op).answer = [] := by
  cases op with
  | take i => exact absurd rfl (h i)
  | argumentCount | signature | policy | hasException | returnLocation | write => rfl
  | _ => exact received_map fun _ ↦ rfl

private theorem owned_setReturnValue (f : Frame) (v : Value) :
    (f.setReturnValue v).frame.owned = f.owned := by
  unfold setReturnValue
  split
  · next result =>
    split
    · rw [owned, owned, result]
      rfl
    · rfl
  · rfl

private theorem owned_markConstructed (f : Frame) : f.markConstructed.frame.owned = f.owned := by
  unfold markConstructed
  split
  · next result =>
    rw [owned, owned, result]
    rfl
  · rfl

private theorem owned_setException (f : Frame) (message : String) :
    (f.setException message).frame.owned = f.owned := by
  unfold setException
  split <;> rfl

/-- **References during a call.** Every operation that works on counted references is a change of
hands between the frame and native code. -/
theorem exchange_perform {f : Frame} (typed : f.WellTyped) (counts : f.signature.CountsHandles)
    {op : Operation} (counted : op.IsCounted) (handed : ∀ h ∈ op.handed, h.type.CountsObjects) :
    Exchange (f.owned ++ op.handed.map Handle.address)
      ((f.perform op).frame.owned
        ++ (Reply.received (f.perform op).answer).map Handle.address)
      (f.lent op) (f.perform op).effects := by
  -- claiming is the only operation that moves a reference from the frame to native code
  by_cases take : ∃ i, op = .take i
  · obtain ⟨i, rfl⟩ := take
    have claim := exchange_takeHandle f i
    rw [← List.append_nil f.owned] at claim
    exact claim
  · rw [received_of_ne_take f fun i same ↦ take ⟨i, same⟩, List.map_nil, List.append_nil]
    have settled (same : (f.perform op).frame.owned = f.owned)
        (quiet : (f.perform op).effects.filter Effect.isCounting = [])
        (nothing : op.handed = []) (unlent : f.lent op = []) :
        Exchange (f.owned ++ op.handed.map Handle.address) (f.perform op).frame.owned (f.lent op)
          (f.perform op).effects := by
      rw [nothing, unlent, List.map_nil, List.append_nil]
      exact exchange_of_owned same quiet
    cases op with
    | setReturnAddress | write => exact counted.elim
    | take i => exact absurd ⟨i, rfl⟩ take
    | setReturnHandle h => exact exchange_setReturnHandle typed counts handed
    | setReturnObject a =>
      have returned := exchange_setReturnObject typed counts a
      rw [← List.append_nil f.owned] at returned
      exact returned
    | setReturnValue v =>
      exact settled (owned_setReturnValue f v) (filter_effects_perform f _) rfl rfl
    | markConstructed =>
      exact settled (owned_markConstructed f) (filter_effects_perform f _) rfl rfl
    | raise message =>
      exact settled (owned_setException f message) (filter_effects_perform f _) rfl rfl
    | _ => exact settled rfl rfl rfl rfl

/-! ## The end of a frame -/

theorem lost_unreleased {ps : List Param} {slots : List Slot} {exception : Bool}
    (arity : slots.length = ps.length)
    (counts : ∀ (i : Nat) (p : Param) (slot : Slot), ps[i]? = some p → slots[i]? = some slot →
      slot.slotKind = .handle → p.type.CountsObjects) (n : Nat) :
    Effect.lost n (((ps.zip slots).filterMap fun (p, slot) ↦
        (slot.unreleased? p exception).map (p.type, ·)).flatMap fun (t, a) ↦ t.release a) =
      (slots.flatMap Slot.owned).count (.object n) := by
  induction ps generalizing slots with
  | nil =>
    obtain rfl : slots = [] := List.length_eq_zero_iff.mp arity
    rfl
  | cons p ps ih =>
    obtain ⟨slot, slots, rfl⟩ := List.exists_cons_of_length_eq_add_one arity
    have rest := ih (Nat.succ.inj arity) fun i q t hq ht ↦ counts (i + 1) q t hq ht
    rw [List.zip_cons_cons, List.filterMap_cons, List.flatMap_cons, List.count_append, ← rest]
    cases slot with
    | handle a claimed =>
      have type := counts 0 p _ rfl rfl rfl
      cases claimed with
      | true => simp [Slot.unreleased?, Slot.owned]
      | false =>
        cases null : a.isNull with
        | true =>
          obtain rfl := Address.isNull_iff.mp null
          simp [Slot.unreleased?, Slot.owned, Address.isNull]
        | false =>
          simp [Slot.unreleased?, Slot.owned, null, type.lost_release]
    | _ => simp [Slot.unreleased?, Slot.owned]

theorem WellTyped.lost_unreleased {f : Frame} (typed : f.WellTyped)
    (counts : f.signature.CountsHandles) (n : Nat) :
    Effect.lost n (f.unreleased.flatMap fun (t, a) ↦ t.release a) =
      (f.slots.flatMap Slot.owned).count (.object n) := by
  refine Frame.lost_unreleased typed.arity (fun i p slot hp hslot kind ↦ ?_) n
  have same := (typed.slots i p slot hp hslot).slotKind_eq
  exact counts.params p (List.mem_of_getElem? hp) (same.symm.trans kind)

private theorem gained_unreleased (f : Frame) (n : Nat) :
    Effect.gained n (f.unreleased.flatMap fun (t, a) ↦ t.release a) = 0 := by
  induction f.unreleased with
  | nil => rfl
  | cons x xs ih =>
    rw [List.flatMap_cons, Effect.gained_append, ih, ScriptType.gained_release]

theorem gained_discardResult (f : Frame) (n : Nat) : Effect.gained n f.discardResult = 0 := by
  unfold discardResult
  split
  · rfl
  · split
    · exact ScriptType.gained_destruct _ _ n
    · exact ScriptType.gained_release _ _ n
    · rfl

private theorem lost_discardResult_le {f : Frame} (counts : f.signature.CountsHandles) (n : Nat) :
    Effect.lost n f.discardResult ≤ f.result.owned.count (.object n) := by
  unfold discardResult
  split
  · exact Nat.zero_le _
  · split
    · rw [ScriptType.lost_destruct]
      exact Nat.zero_le _
    · next a t auto result returns =>
      rw [(counts.returns t auto returns).lost_release, result]
      exact Nat.le_refl _
    · exact Nat.zero_le _

theorem gained_abandon (f : Frame) (n : Nat) : Effect.gained n f.abandon = 0 := by
  rw [← Effect.gained_filter, filter_abandon, Effect.gained_append, gained_unreleased,
    Effect.gained_filter, gained_discardResult]

theorem lost_abandon (f : Frame) (n : Nat) :
    Effect.lost n f.abandon =
      Effect.lost n (f.unreleased.flatMap fun (t, a) ↦ t.release a)
        + Effect.lost n f.discardResult := by
  rw [← Effect.lost_filter, filter_abandon, Effect.lost_append, Effect.lost_filter]

theorem exchange_abandon {f : Frame} (typed : f.WellTyped) (counts : f.signature.CountsHandles) :
    Exchange f.owned [] [] f.abandon := by
  refine .of_gained_eq_zero (gained_abandon f) fun n ↦ ?_
  rw [lost_abandon, typed.lost_unreleased counts, owned, List.count_append, List.count_nil,
    Nat.zero_add]
  exact Nat.add_le_add_left (lost_discardResult_le counts n) _

end Frame

/-- The handles that come with the outcome of a call. -/
def Outcome.handles : Except CallError Outcome → List Handle
  | .ok (.returned (.handle h)) => h.toList
  | _ => []

namespace Frame

theorem lost_outcome (f : Frame) (n : Nat) : Effect.lost n f.outcome.2 = 0 := by
  unfold outcome
  split
  · rfl
  · split
    · rfl
    · split <;> rfl
    · split
      · exact ScriptType.lost_addRef _ _ n
      · rfl
    · rfl
    · rfl

private theorem counts_outcome {f : Frame} (counts : f.signature.CountsHandles) (n : Nat) :
    ((Outcome.handles f.outcome.1).map Handle.address).count (.object n) ≤
        f.result.owned.count (.object n) ∧
      Effect.gained n f.outcome.2 ≤ f.result.owned.count (.object n) := by
  have nothing : 0 ≤ f.result.owned.count (.object n) := Nat.zero_le _
  unfold outcome
  split
  · exact ⟨nothing, nothing⟩
  · split
    · exact ⟨nothing, nothing⟩
    · split <;> exact ⟨nothing, nothing⟩
    · next a t auto result returns =>
      have handle := Nat.le_of_eq (Handle.count_adopt? t a n)
      rw [result]
      split
      · rw [(counts.returns t auto returns).gained_addRef]
        exact ⟨handle, Nat.le_refl _⟩
      · exact ⟨handle, Nat.zero_le _⟩
    · exact ⟨nothing, nothing⟩
    · exact ⟨nothing, nothing⟩

theorem counts_finish (f : Frame) (n : Nat) :
    Effect.gained n f.finish.2 = Effect.gained n f.outcome.2 ∧
      Effect.lost n f.finish.2 =
        Effect.lost n (f.unreleased.flatMap fun (t, a) ↦ t.release a) := by
  -- the outcome is taken before the slots are released, and makes no difference to them
  rw [finish, Effect.gained_append, Effect.lost_append, lost_outcome, gained_abandon, lost_abandon,
    unreleased_settled]
  exact ⟨rfl, Nat.zero_add _⟩

/-- A frame that is finished hands over what it returns and gives up the rest. -/
theorem exchange_finish {f : Frame} (typed : f.WellTyped) (counts : f.signature.CountsHandles) :
    Exchange f.owned ((Outcome.handles f.finish.1).map Handle.address) [] f.finish.2 := by
  have effects (n : Nat) : Effect.gained n f.finish.2 = Effect.gained n f.outcome.2 ∧
      Effect.lost n f.finish.2 = (f.slots.flatMap Slot.owned).count (.object n) := by
    rw [← typed.lost_unreleased counts]
    exact counts_finish f n
  have handles (n : Nat) : ((Outcome.handles f.finish.1).map Handle.address).count (.object n) ≤
      f.result.owned.count (.object n) :=
    (counts_outcome counts n).1
  refine ⟨fun n ↦ ?_, fun n ↦ ?_, fun n taken ↦ .inl ?_⟩
  · have handed := handles n
    rw [(effects n).2, owned, List.count_append]
    omega
  · rw [(effects n).2, owned, List.count_append]
    exact Nat.le_add_right _ _
  · have given := (counts_outcome counts n).2
    rw [(effects n).1] at taken
    rw [(effects n).2, owned, List.count_append]
    omega

end Frame

/-! ## Out cells and the types of handles -/

theorem Effect.target?_of_isUpkeep {e : Effect} (kind : e.isUpkeep = true) : e.target? = none := by
  cases e with
  | addRef | release | destruct => rfl
  | _ => cases kind

private theorem Effect.sparesCells_of_isUpkeep {es : List Effect}
    (h : ∀ e ∈ es, e.isUpkeep = true) : ∀ e ∈ es, e.SparesCells :=
  fun e there ↦ sparesCells_of_target?_eq_none (target?_of_isUpkeep (h e there))

namespace ScriptType

theorem sparesCells_addRef (t : ScriptType) (a : Address) : ∀ e ∈ t.addRef a, e.SparesCells :=
  Effect.sparesCells_of_isUpkeep (t.isUpkeep_addRef a)

theorem sparesCells_release (t : ScriptType) (a : Address) : ∀ e ∈ t.release a, e.SparesCells :=
  Effect.sparesCells_of_isUpkeep (t.isUpkeep_release a)

theorem place_ne_cell (t : ScriptType) {storage : Address} {k : Nat} (h : storage ≠ .cell k) :
    t.place storage ≠ .cell k := by
  unfold place
  split
  · unfold Address.ofWord
    split <;> exact Address.noConfusion
  · exact h

end ScriptType

namespace Frame

theorem resultAddress_ne_cell (f : Frame) (k : Nat) : f.resultAddress ≠ .cell k := by
  unfold resultAddress
  split
  · exact ScriptType.place_ne_cell _ Address.noConfusion
  · exact Address.noConfusion

private theorem sparesCells_of_filledAll {policy : Policy} {frame index : Nat} {ps : List Param}
    {args : List Argument} {slots : List Slot} {effects : List Effect}
    (h : Slot.FilledAll policy frame index ps args slots effects) :
    ∀ e ∈ effects, e.SparesCells := by
  induction h with
  | nil => exact List.forall_mem_nil _
  | @cons index p _ _ _ _ _ _ _ head tail ih =>
    refine List.forall_mem_append.mpr ⟨?_, ih⟩
    cases head with
    | primitive => exact List.forall_mem_nil _
    | reference => exact List.forall_mem_nil _
    | handle =>
      split
      · exact ScriptType.sparesCells_addRef _ _
      · exact List.forall_mem_nil _
    | object =>
      refine List.forall_mem_singleton.mpr fun k same ↦ ?_
      exact ScriptType.place_ne_cell p.type (k := k) Address.noConfusion (Option.some.inj same)

theorem sparesCells_construct {number : Nat} {sig : Signature} {receiver : Option Address}
    {args : List Argument} {policy : Policy} {f : Frame}
    (h : (construct number sig receiver args policy).1 = .ok f) :
    ∀ e ∈ (construct number sig receiver args policy).2, e.SparesCells := by
  obtain ⟨slots, effects, filled, -, entry⟩ := exists_filledAll_of_construct h
  rw [entry]
  exact List.forall_mem_append.mpr
    ⟨sparesCells_of_filledAll filled, Effect.sparesCells_singleton rfl⟩

theorem sparesCells_perform (f : Frame) {op : Operation} (counted : op.IsCounted) :
    ∀ e ∈ (f.perform op).effects, e.SparesCells := by
  intro e there
  cases emits_perform f op e there with
  | counting kind =>
    exact Effect.sparesCells_of_target?_eq_none
      (Effect.target?_of_isUpkeep (Effect.isUpkeep_of_isCounting kind))
  | ending => exact Effect.sparesCells_of_target?_eq_none rfl
  -- the copy goes to the frame's own storage, wherever that is placed
  | copy => exact fun k same ↦ resultAddress_ne_cell f k (Option.some.inj same)
  | warning => exact Effect.sparesCells_of_target?_eq_none rfl
  | exception => exact Effect.sparesCells_of_target?_eq_none rfl
  | write writes =>
    subst writes
    exact counted.elim

private theorem target?_abandon (f : Frame) : ∀ e ∈ f.abandon, e.target? = none := by
  have released := fun e there ↦ Effect.target?_of_isUpkeep (f.isUpkeep_unreleased e there)
  have result := fun e there ↦ Effect.target?_of_isUpkeep (f.isUpkeep_discardResult e there)
  have discarded := fun e there ↦ Effect.target?_of_isUpkeep (f.isUpkeep_discard e there)
  refine List.forall_mem_append.mpr ⟨List.forall_mem_append.mpr
    ⟨List.forall_mem_append.mpr ⟨released, result⟩, ?_⟩, discarded⟩
  exact List.forall_mem_cons.mpr ⟨rfl, List.forall_mem_singleton.mpr rfl⟩

theorem target?_finish (f : Frame) : ∀ e ∈ f.finish.2, e.target? = none :=
  List.forall_mem_append.mpr
    ⟨fun e there ↦ Effect.target?_of_isUpkeep (f.isUpkeep_outcome e there), target?_abandon _⟩

theorem sparesCells_abandon (f : Frame) : ∀ e ∈ f.abandon, e.SparesCells :=
  fun e there ↦ Effect.sparesCells_of_target?_eq_none (f.target?_abandon e there)

theorem sparesCells_finish (f : Frame) : ∀ e ∈ f.finish.2, e.SparesCells :=
  fun e there ↦ Effect.sparesCells_of_target?_eq_none (f.target?_finish e there)

theorem WellTyped.countsObjects_received {f : Frame} (typed : f.WellTyped)
    (counts : f.signature.CountsHandles) (op : Operation) :
    ∀ h ∈ Reply.received (f.perform op).answer, h.type.CountsObjects := by
  by_cases take : ∃ i, op = .take i
  · obtain ⟨i, rfl⟩ := take
    intro h there
    simp only [Frame.perform, Reaction.map, takeHandle] at there
    split at there
    · next a claimed p slot type =>
      cases claimed with
      | true => exact absurd there List.not_mem_nil
      | false =>
        have declared : f.signature.params[i]? = some p := by
          unfold argumentType at type
          rw [slot] at type
          split at type
          · next found =>
            obtain rfl := Except.ok.inj type
            exact found
          · cases type
        have kind := (typed.slots i p _ declared (slotAt_eq_ok_iff.mp slot)).slotKind_eq
        have counted := counts.params p (List.mem_of_getElem? declared) kind.symm
        exact Handle.countsObjects_adopt? counted a h there
    · exact absurd there List.not_mem_nil
    · exact absurd there List.not_mem_nil
  · rw [received_of_ne_take f fun i same ↦ take ⟨i, same⟩]
    exact List.forall_mem_nil _

theorem countsObjects_handles {f : Frame} (counts : f.signature.CountsHandles) :
    ∀ h ∈ Outcome.handles f.finish.1, h.type.CountsObjects := by
  have nothing : ∀ h ∈ ([] : List Handle), h.type.CountsObjects :=
    List.forall_mem_nil _
  change ∀ h ∈ Outcome.handles f.outcome.1, h.type.CountsObjects
  unfold outcome
  split
  · exact nothing
  · split
    · exact nothing
    · split <;> exact nothing
    · next a t auto _ returns =>
      exact Handle.countsObjects_adopt? (counts.returns t auto returns) a
    · exact nothing
    · exact nothing

end Frame

end CallingConvention
