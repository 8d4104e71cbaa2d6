import CallingConvention.Proofs.Ending

/-!
# Operations that are refused

An operation of native code that is refused leaves its frame as it was (`Reaction.Atomic`). It has
no effects either, but for two: a handle that it was given is dropped, and a second exception is
warned of in the journal (`Frame.rejection`). So a call with such an operation goes on as if the
operation had not been there.

Several operations do something before they know that they will not be refused. That they never are
after that is where the typing of frames comes in: a handle return takes every handle and every
object.

The journal is only written. What a store does does not depend on it, and to compare stores but for
their journals, it is left out (`Store.unrecorded`).
-/

namespace CallingConvention

/-! ## Stores without their journals -/

namespace Store

/-- A store with nothing in its journal. -/
def unrecorded (s : Store) : Store := { s with journal := #[] }

private theorem unrecorded_addReference (s : Store) (a : Address) :
    (s.addReference a).unrecorded = s.unrecorded.addReference a := by
  cases a with
  | object n =>
    have same : s.unrecorded.tenure? n = s.tenure? n := rfl
    simp only [addReference, same]
    split <;> rfl
  | _ => rfl

private theorem unrecorded_releaseReference (s : Store) (a : Address) :
    (s.releaseReference a).unrecorded = (s.unrecorded.releaseReference a).unrecorded := by
  cases a with
  | object n =>
    have same : s.unrecorded.tenure? n = s.tenure? n := rfl
    simp only [releaseReference, same]
    split <;> rfl
  | _ => rfl

private theorem unrecorded_count (s : Store) (amount : Int) (a : Address) :
    (s.count amount a).unrecorded = s.unrecorded.count amount a := by
  cases a with
  | object n =>
    have same : s.unrecorded.tenure? n = s.tenure? n := rfl
    simp only [count, same]
    split <;> rfl
  | _ => rfl

theorem unrecorded_apply (s : Store) (e : Effect) :
    (s.apply e).unrecorded = (s.unrecorded.apply e).unrecorded := by
  cases e with
  | addRef t a =>
    simp only [apply]
    rcases t.behaviours.addRef with _ | (_ | _)
    · rfl
    · rw [unrecorded_addReference, unrecorded_addReference]
      rfl
    · rw [unrecorded_count, unrecorded_count]
      rfl
  | release t a =>
    simp only [apply]
    rcases t.behaviours.release with _ | (_ | _)
    · rfl
    · rw [unrecorded_releaseReference, unrecorded_releaseReference (s.unrecorded.report _)]
      rfl
    · rw [unrecorded_count, unrecorded_count]
      rfl
  | construct t a =>
    simp only [apply]
    cases t.behaviours.construct <;> rfl
  | copy t a source =>
    simp only [apply]
    cases t.behaviours.copy <;> rfl
  | destruct t a =>
    simp only [apply]
    cases t.behaviours.destruct <;> rfl
  | _ => rfl

private theorem unrecorded_applyAll (s : Store) (es : List Effect) :
    (s.applyAll es).unrecorded = (s.unrecorded.applyAll es).unrecorded := by
  induction es generalizing s with
  | nil => rfl
  | cons e es ih => rw [applyAll_cons, applyAll_cons, ih, unrecorded_apply, ← ih]

end Store

/-! ## Atomic reactions -/

namespace Reaction

variable {α β : Type} {f : Frame} {r : Reaction α} {trace : CallError → List Effect}

/-- Whether a reaction leaves a frame as it was if it refuses. Its effects then depend on the error
alone. -/
def Atomic (f : Frame) (trace : CallError → List Effect) (r : Reaction α) : Prop :=
  ∀ e, r.answer = .error e → r = ⟨.error e, f, trace e⟩

private theorem atomic_of_ok {a : α} (h : r.answer = .ok a) : r.Atomic f trace := by
  intro e refused
  rw [h] at refused
  cases refused

private theorem atomic_done (a : α) (g : Frame) (effects : List Effect) :
    (done a g effects).Atomic f trace :=
  atomic_of_ok rfl

private theorem atomic_refused (e : CallError) :
    (refused e f : Reaction α).Atomic f fun _ ↦ [] := by
  rintro - ⟨⟩
  rfl

theorem Atomic.map (h : r.Atomic f trace) (g : α → β) : (r.map g).Atomic f trace := by
  intro e refused
  cases answer : r.answer with
  | ok a =>
    rw [Reaction.map, answer] at refused
    cases refused
  | error e' =>
    rw [Reaction.map, answer] at refused
    cases refused
    rw [h e answer]
    rfl

end Reaction

namespace Frame

variable {f : Frame}

open Reaction

/-- The effects of an operation that is refused with an error. -/
def rejection (f : Frame) : Operation → CallError → List Effect
  | .setReturnHandle h, _ => dropHandle? h
  | .raise _, e => [.log (.protocolWarning f.signature.qualifiedName e.message)]
  | _, _ => []

private theorem atomic_reading (answer : Except CallError Reply) :
    (f.reading answer).Atomic f fun _ ↦ [] := by
  rintro e rfl
  rfl

private theorem atomic_takeHandle (i : Nat) : (f.takeHandle i).Atomic f fun _ ↦ [] := by
  unfold takeHandle
  split
  · split
    · exact atomic_refused _
    · exact atomic_done _ _ _
  · exact atomic_refused _
  · exact atomic_refused _

private theorem atomic_setReturnValue (v : Value) : (f.setReturnValue v).Atomic f fun _ ↦ [] := by
  unfold setReturnValue
  split
  · split
    · exact atomic_done _ _ _
    · exact atomic_refused _
  · exact atomic_refused _

private theorem atomic_setReturnAddress (a : Address) :
    (f.setReturnAddress a).Atomic f fun _ ↦ [] := by
  unfold setReturnAddress
  split
  · exact atomic_done _ _ _
  · exact atomic_done _ _ _
  · exact atomic_refused _

private theorem WellTyped.setReturnHandle_handle (typed : f.WellTyped) {previous : Address}
    (result : f.result = .handle previous) (h : Option Handle) :
    (f.setReturnHandle h).answer = .ok () := by
  obtain ⟨t, auto, returns⟩ := typed.returns_handle result
  rw [setReturnHandle, result, setReturnAddress, result, returns]
  rfl

private theorem WellTyped.atomic_setReturnHandle (typed : f.WellTyped) (h : Option Handle) :
    (f.setReturnHandle h).Atomic f fun _ ↦ dropHandle? h := by
  cases result : f.result with
  | handle previous => exact atomic_of_ok (typed.setReturnHandle_handle result h)
  | _ =>
    rw [setReturnHandle, result]
    rintro - ⟨⟩
    rw [Reaction.after, refused, List.append_nil]

/-- A reference is taken to an object only if it is returned, and an instance is replaced only by
another one. -/
private theorem WellTyped.atomic_setReturnObject (typed : f.WellTyped) (a : Address) :
    (f.setReturnObject a).Atomic f fun _ ↦ [] := by
  cases returns : f.signature.returns with
  | handle t auto => exact atomic_of_ok (typed.setReturnObject_handle returns a).1
  | value t =>
    simp only [setReturnObject, returns]
    split
    · exact atomic_refused _
    · split
      · exact atomic_refused _
      · split
        · exact atomic_done _ _ _
        · exact atomic_done _ _ _
  | reference t =>
    simp only [setReturnObject, returns]
    exact atomic_setReturnAddress a
  | _ =>
    simp only [setReturnObject, returns]
    exact atomic_refused _

private theorem atomic_markConstructed : f.markConstructed.Atomic f fun _ ↦ [] := by
  unfold markConstructed
  split
  · exact atomic_done _ _ _
  · exact atomic_refused _

private theorem atomic_setException (message : String) :
    (f.setException message).Atomic f (f.rejection (.raise message)) := by
  unfold setException
  split
  · exact atomic_done _ _ _
  · rintro - ⟨⟩
    rfl

/-- **One step.** No operation that is refused changes the frame. -/
theorem WellTyped.atomic_perform (typed : f.WellTyped) (op : Operation) :
    (f.perform op).Atomic f (f.rejection op) := by
  cases op with
  | take i => exact (atomic_takeHandle i).map _
  | setReturnValue v => exact (atomic_setReturnValue v).map _
  | setReturnAddress a => exact (atomic_setReturnAddress a).map _
  | setReturnHandle h => exact (typed.atomic_setReturnHandle h).map _
  | setReturnObject a => exact (typed.atomic_setReturnObject a).map _
  | markConstructed => exact atomic_markConstructed.map _
  | raise message => exact (atomic_setException message).map _
  | write a p => exact atomic_done _ _ _
  | _ => exact atomic_reading _

/-! ## What a refusal leaves behind -/

theorem moments_rejection (f : Frame) (op : Operation) (e : CallError) :
    Effect.moments (f.rejection op e) = [] := by
  cases op with
  | setReturnHandle h =>
    cases h with
    | none => rfl
    | some g => exact ScriptType.moments_release _ _
  | _ => rfl

/-- A refusal is only recorded, unless a handle is dropped. -/
private theorem unrecorded_rejection (f : Frame) {op : Operation} (keeps : op.handed = [])
    (e : CallError) (s : Store) : (s.applyAll (f.rejection op e)).unrecorded = s.unrecorded := by
  cases op with
  | setReturnHandle h =>
    cases h with
    | none => rfl
    | some g => cases keeps
  | _ => rfl

private theorem rejection_of_mem_handed (f : Frame) {op : Operation} {h : Handle}
    (given : h ∈ op.handed) (e : CallError) : f.rejection op e = h.drop := by
  cases op with
  | setReturnHandle h' =>
    obtain rfl := Option.mem_toList.mp given
    rfl
  | _ => cases given

theorem references_drop {h : Handle} (counts : h.type.CountsObjects) (s : Store) (n : Nat) :
    (s.applyAll h.drop).references (.object n) =
      s.references (.object n) - [h.address].count (.object n) := by
  rw [Handle.drop, Store.references_applyAll_of_gained_eq_zero (ScriptType.gained_release _ _ n),
    counts.lost_release]

/-- **Refused operations change nothing.** The frame is as it was and goes on as it would have gone
on. At most a handle is dropped that the operation was given. -/
theorem refused_changes_nothing {number : Nat} {sig : Signature} {receiver : Option Address}
    {args : List Argument} {policy : Policy} {f g : Frame}
    (built : (construct number sig receiver args policy).1 = .ok f) (reaches : f.Reaches g)
    {op : Operation} {e : CallError} (refused : (g.perform op).answer = .error e) :
    (g.perform op).frame = g ∧
      Effect.moments (g.perform op).effects = [] ∧
      (op.handed = [] → ∀ s : Store,
        (s.applyAll (g.perform op).effects).unrecorded = s.unrecorded) ∧
      (∀ h ∈ op.handed, (g.perform op).effects = h.type.release h.address ∧
        (h.type.CountsObjects → ∀ (s : Store) n,
          (s.applyAll (g.perform op).effects).references (.object n) =
            s.references (.object n) - [h.address].count (.object n))) ∧
      ∀ after, g.run (op :: after) = ⟨.error e :: (g.run after).replies, (g.run after).frame,
          (g.perform op).effects ++ (g.run after).effects⟩ ∧
        (g.run (op :: after)).frame.finish = (g.run after).frame.finish ∧
        (g.run (op :: after)).frame.abandon = (g.run after).frame.abandon ∧
        (op.handed = [] → ∀ s : Store,
          (s.applyAll ((g.run (op :: after)).effects
            ++ (g.run (op :: after)).frame.finish.2)).unrecorded =
            (s.applyAll ((g.run after).effects ++ (g.run after).frame.finish.2)).unrecorded) := by
  obtain ⟨ops, rfl⟩ := reaches
  have typed := (wellTyped_of_construct built).run ops
  generalize (f.run ops).frame = g at typed refused
  have atomic := typed.atomic_perform op e refused
  have only (keeps : op.handed = []) (s : Store) :
      (s.applyAll (g.perform op).effects).unrecorded = s.unrecorded := by
    rw [atomic]
    exact unrecorded_rejection g keeps e s
  have goesOn (after : List Operation) : g.run (op :: after) = ⟨.error e :: (g.run after).replies,
      (g.run after).frame, (g.perform op).effects ++ (g.run after).effects⟩ := by
    rw [run, atomic]
  refine ⟨by rw [atomic], ?_, only, fun h given ↦ ?_, fun after ↦ ?_⟩
  · rw [atomic]
    exact moments_rejection g op e
  · have dropped : (g.perform op).effects = h.drop := by
      rw [atomic]
      exact rejection_of_mem_handed g given e
    refine ⟨dropped, fun counts s n ↦ ?_⟩
    rw [dropped]
    exact references_drop counts s n
  · refine ⟨goesOn after, by rw [goesOn], by rw [goesOn], fun keeps s ↦ ?_⟩
    rw [goesOn, List.append_assoc, Store.applyAll_append, Store.unrecorded_applyAll, only keeps,
      ← Store.unrecorded_applyAll]

/-- A handle to the first object. -/
def node : Handle := ⟨.counted "Node", .object 0⟩

/-- A call of `join` that tries to return a handle, which it may not: the handle is dropped. -/
theorem refused_changes_nothing_joining :
    (joining.perform (.setReturnHandle (some node))).frame = joining ∧
      (oneNode.applyAll (joining.perform (.setReturnHandle (some node))).effects).references
        (.object 0) = 1 ∧
      (joining.run [.setReturnHandle (some node), .setReturnObject (.region 0)]).frame.finish =
        (joining.run [.setReturnObject (.region 0)]).frame.finish := by
  have built : (construct 0 join none
      [.object (.region 0), .primitive (.signed .bits32 7), .object (.region 0)] .strict).1 =
      .ok joining := rfl
  have here : joining.Reaches joining := ⟨[], rfl⟩
  have refused : (joining.perform (.setReturnHandle (some node))).answer =
      .error (.returnTypeMismatch "Label" "handle") := rfl
  obtain ⟨same, -, -, dropped, later⟩ := refused_changes_nothing built here refused
  obtain ⟨-, counted⟩ := dropped node List.mem_cons_self
  refine ⟨same, ?_, (later [.setReturnObject (.region 0)]).2.1⟩
  rw [counted ⟨"Node", rfl⟩, references_oneNode]
  rfl

end Frame

end CallingConvention
