import CallingConvention.Proofs.HandleProtocol

/-!
# Lifetimes of instances

A frame owns instances of value types: its copies of the arguments that are passed by value, and
what is put into its return storage. The moments in which an instance begins and ends are read off
the effects (`Effect.moments`). Native code may also build the returned instance in place; that has
no effect of its own, and the moment is the one in which it says so (`Frame.moments`).

The copies begin when the frame is built and end when it ends, in whatever way. The return storage
holds one instance after another: each ends before the next one begins, and none ends twice
(`Alternates`). The last one ends with the value that the caller gets, or with the frame if nobody
finishes it. After an exception it does not end at all.

Native code is trusted in one respect: it says that it built the returned instance only if it just
did so, in storage that held none (`Frame.MarksVacant`).
-/

namespace CallingConvention

/-! ## Moments -/

/-- A moment in the life of an instance. -/
inductive Moment where
  | begins (i : Instance)
  | ends (i : Instance)
  deriving DecidableEq

/-- Whether ending the life of an instance takes a hook. -/
def ScriptType.isDestructed (t : ScriptType) : Bool := t.behaviours.destruct.isSome

/-- The end of an instance, for a type that has something to do then. -/
def Instance.endings (i : Instance) : List Moment := if i.type.isDestructed then [.ends i] else []

private theorem Instance.count_begins_endings (i j : Instance) :
    i.endings.count (.begins j) = 0 := by
  unfold endings
  split <;> simp

namespace Effect

/-- The moment that an effect is. -/
def moment? : Effect → Option Moment
  | construct t a => some (.begins ⟨t, a⟩)
  | copy t a _ => some (.begins ⟨t, a⟩)
  | destruct t a => some (.ends ⟨t, a⟩)
  | _ => none

/-- Whether an effect begins or ends the life of an instance. -/
def isLifetime (e : Effect) : Bool := e.moment?.isSome

/-- The moments that effects are, in order. -/
def moments (es : List Effect) : List Moment := es.filterMap moment?

@[simp] theorem moments_append (es fs : List Effect) :
    moments (es ++ fs) = moments es ++ moments fs :=
  List.filterMap_append

private theorem moments_flatMap {α : Type} (xs : List α) (g : α → List Effect) :
    moments (xs.flatMap g) = xs.flatMap fun x ↦ moments (g x) :=
  List.filterMap_flatMap

private theorem moments_eq_nil {es : List Effect} (h : ∀ e ∈ es, e.moment? = none) :
    moments es = [] :=
  List.filterMap_eq_nil_iff.mpr h

end Effect

namespace ScriptType

@[simp] theorem moments_addRef (t : ScriptType) (a : Address) :
    Effect.moments (t.addRef a) = [] := by
  unfold addRef
  split <;> rfl

@[simp] theorem moments_release (t : ScriptType) (a : Address) :
    Effect.moments (t.release a) = [] := by
  unfold release
  split <;> rfl

@[simp] theorem moments_destruct (t : ScriptType) (a : Address) :
    Effect.moments (t.destruct a) = Instance.endings ⟨t, a⟩ := by
  unfold destruct Instance.endings isDestructed
  cases t.behaviours.destruct <;> rfl

private theorem filter_isLifetime_addRef (t : ScriptType) (a : Address) :
    (t.addRef a).filter Effect.isLifetime = [] := by
  unfold addRef
  split <;> rfl

end ScriptType

/-! ## Copies of arguments -/

/-- An instance that is given to a call by value. -/
structure ValueArgument where
  /-- Its place among the arguments. -/
  index : Nat
  /-- The parameter that it is given for. -/
  param : Param
  /-- Where the instance is. -/
  source : Address
  deriving DecidableEq

namespace ValueArgument

/-- The frame's own instance. -/
def copied (number : Nat) (x : ValueArgument) : Instance :=
  ⟨x.param.type, x.param.type.place (.argument number x.index)⟩

/-- Make the frame's own instance. -/
def copy (number : Nat) (x : ValueArgument) : Effect :=
  .copy x.param.type (x.copied number).address x.source

/-- The end of the frame's own instance. -/
def endings (number : Nat) (x : ValueArgument) : List Moment := (x.copied number).endings

/-- The instances for parameters from a first index on, in order. -/
def ofArguments : Nat → List Param → List Argument → List ValueArgument
  | index, p :: ps, arg :: args =>
    match arg with
    | .object a => ⟨index, p, a⟩ :: ofArguments (index + 1) ps args
    | _ => ofArguments (index + 1) ps args
  | _, _, _ => []

end ValueArgument

namespace Slot

private theorem FilledAll.filter_isLifetime {policy : Policy} {frame index : Nat} {ps : List Param}
    {args : List Argument} {slots : List Slot} {effects : List Effect}
    (h : FilledAll policy frame index ps args slots effects) :
    effects.filter Effect.isLifetime =
      (ValueArgument.ofArguments index ps args).map (ValueArgument.copy frame) := by
  induction h with
  | nil => rfl
  | @cons index p arg slot effects ps args slots more head tail ih =>
    rw [List.filter_append, ih]
    cases head with
    | primitive => rfl
    | reference => rfl
    | object => rfl
    | handle =>
      rw [List.append_left_eq_self.mpr]
      · rfl
      · split
        · exact ScriptType.filter_isLifetime_addRef _ _
        · rfl

theorem FilledAll.endless {policy : Policy} {frame index : Nat} {ps : List Param}
    {args : List Argument} {slots : List Slot} {effects : List Effect}
    (h : FilledAll policy frame index ps args slots effects) :
    ∀ e ∈ effects, ∀ t a, e ≠ .destruct t a := by
  rintro _ there t a rfl
  have copied : .destruct t a ∈ effects.filter Effect.isLifetime := List.mem_filter.mpr ⟨there, rfl⟩
  rw [h.filter_isLifetime] at copied
  obtain ⟨x, -, same⟩ := List.mem_map.mp copied
  cases same

/-- What is discarded with the slots are these copies. -/
private theorem FilledAll.flatMap_discard {policy : Policy} {frame index : Nat} {ps : List Param}
    {args : List Argument} {slots : List Slot} {effects : List Effect}
    (h : FilledAll policy frame index ps args slots effects) :
    slots.flatMap discard =
      (ValueArgument.ofArguments index ps args).flatMap fun x ↦ (x.copied frame).drop := by
  induction h with
  | nil => rfl
  | cons head tail ih =>
    rw [List.flatMap_cons, ih]
    cases head <;> rfl

end Slot

namespace Frame

private theorem flatMap_discard_setSlot {f : Frame} {i : Nat} {old new : Slot}
    (hold : f.slots[i]? = some old) (same : new.discard = old.discard) :
    (f.setSlot i new).slots.flatMap Slot.discard = f.slots.flatMap Slot.discard := by
  obtain ⟨inside, rfl⟩ := List.getElem?_eq_some_iff.mp hold
  have unchanged : (f.slots.set i new).map Slot.discard = f.slots.map Slot.discard := by
    rw [List.map_set, same, ← List.getElem_map Slot.discard, List.set_getElem_self]
    rwa [List.length_map]
  rw [List.flatMap_def, List.flatMap_def, setSlot, unchanged]

private theorem Change.flatMap_discard {f g : Frame} {op : Operation} (change : f.Change op g) :
    g.slots.flatMap Slot.discard = f.slots.flatMap Slot.discard := by
  cases change with
  | nothing => rfl
  | claim old => exact flatMap_discard_setSlot old rfl
  | raise => rfl
  | result => rfl
  | value old => exact flatMap_discard_setSlot old rfl
  | target old => exact flatMap_discard_setSlot old rfl

/-- Native code leaves the copies of the arguments to the frame. -/
theorem flatMap_discard_run (f : Frame) (ops : List Operation) :
    (f.run ops).frame.slots.flatMap Slot.discard = f.slots.flatMap Slot.discard :=
  run_induction (P := fun g ↦ g.slots.flatMap Slot.discard = f.slots.flatMap Slot.discard)
    (fun g op h ↦ (change_perform g op).flatMap_discard.trans h) rfl ops

end Frame

/-! ## The returned instance -/

/-- Whether an operation is one that constructs the returned instance, if it is not refused. -/
def Operation.constructs : Operation → Bool
  | setReturnObject _ => true
  | markConstructed => true
  | _ => false

namespace Frame

/-- Whether the return storage holds an instance. -/
def isOccupied (f : Frame) : Bool := f.result == .object true

/-- The moment in which an operation says that native code built the returned instance. -/
def inPlace (f : Frame) : Operation → List Moment
  | .markConstructed =>
    match f.result, f.signature.returns with
    | .object _, .value t => [.begins ⟨t, f.resultAddress⟩]
    | _, _ => []
  | _ => []

/-- The moments of a sequence of operations, in order. -/
def moments (f : Frame) : List Operation → List Moment
  | [] => []
  | op :: ops =>
    f.inPlace op ++ Effect.moments (f.perform op).effects ++ (f.perform op).frame.moments ops

/-- Whether an operation puts an instance into the return storage, or says that one is there. -/
def places (f : Frame) (op : Operation) : Bool := op.constructs && (f.perform op).answer.isOk

/-- How often operations put an instance into the return storage. -/
def placements (f : Frame) : List Operation → Nat
  | [] => 0
  | op :: ops => (f.places op).toNat + (f.perform op).frame.placements ops

/-- Whether native code says that it built the returned instance only where none is yet. -/
def MarksVacant (f : Frame) : List Operation → Prop
  | [] => True
  | op :: ops =>
    (op = .markConstructed → f.isOccupied = false) ∧ (f.perform op).frame.MarksVacant ops

end Frame

/-- Moments of one storage, which holds instance `i` over and over: from being occupied or not, it
comes to be occupied or not. An instance begins only in storage that is vacant and ends only where
one is. -/
inductive Alternates (i : Instance) : Bool → List Moment → Bool → Prop
  | nil (occupied : Bool) : Alternates i occupied [] occupied
  | begins {ms : List Moment} {occupied : Bool} (rest : Alternates i true ms occupied) :
      Alternates i false (.begins i :: ms) occupied
  | ends {ms : List Moment} {occupied : Bool} (rest : Alternates i false ms occupied) :
      Alternates i true (.ends i :: ms) occupied

namespace Alternates

variable {i : Instance} {a b c : Bool} {ms more : List Moment}

theorem append (h : Alternates i a ms b) (next : Alternates i b more c) :
    Alternates i a (ms ++ more) c := by
  induction h with
  | nil => exact next
  | begins _ ih => exact .begins (ih next)
  | ends _ ih => exact .ends (ih next)

/-- An instance that begins, after the end of the one before if there is one. -/
theorem replaced (occupied : Bool) :
    Alternates i occupied ((if occupied then [.ends i] else []) ++ [.begins i]) true := by
  cases occupied with
  | false => exact .begins (.nil true)
  | true => exact .ends (.begins (.nil true))

/-- Every instance that began has ended, but for the one that is still there. -/
private theorem count_begins (h : Alternates i a ms b) :
    ms.count (.begins i) + a.toNat = ms.count (.ends i) + b.toNat := by
  induction h with
  | nil => rfl
  | begins _ ih =>
    rw [List.count_cons_self, List.count_cons_of_ne Moment.noConfusion, ← ih]
    rfl
  | ends _ ih =>
    rw [List.count_cons_self, List.count_cons_of_ne Moment.noConfusion, Nat.add_right_comm, ← ih]
    rfl

end Alternates

namespace Frame

theorem isOccupied_of_result {f : Frame} {constructed : Bool}
    (result : f.result = .object constructed) : f.isOccupied = constructed := by
  rw [isOccupied, result]
  cases constructed <;> rfl

/-- What an operation can do to the storage of the returned instance `i`: nothing, or it puts an
instance there, or native code says that it built one there. -/
inductive Turnover (f : Frame) (i : Instance) (op : Operation) : Prop
  | still (same : (f.perform op).frame.result = f.result) (quiet : f.inPlace op = [])
      (none : Effect.moments (f.perform op).effects = [])
      (idle : f.places op = false) : Turnover f i op
  | replaced (there : (f.perform op).frame.result = .object true) (quiet : f.inPlace op = [])
      (moved : Effect.moments (f.perform op).effects =
        (if f.isOccupied then i.endings else []) ++ [.begins i])
      (placed : f.places op = true) : Turnover f i op
  | built (mark : op = .markConstructed) (there : (f.perform op).frame.result = .object true)
      (new : f.inPlace op = [.begins i])
      (none : Effect.moments (f.perform op).effects = [])
      (placed : f.places op = true) : Turnover f i op

theorem moments_effects_perform (f : Frame) {op : Operation} (h : op.setsReturn = false) :
    Effect.moments (f.perform op).effects = [] := by
  refine Effect.moments_eq_nil fun e there ↦ ?_
  cases emits_perform f op e there with
  | counting _ sets => exact absurd (h.symm.trans sets) Bool.false_ne_true
  | ending _ asked _ | copy _ asked _ =>
    subst asked
    cases h
  | _ => rfl

theorem moments_setReturnAddress (f : Frame) (a : Address) :
    Effect.moments (f.setReturnAddress a).effects = [] := by
  unfold setReturnAddress
  split
  · simp only [Reaction.done]
    split
    · exact ScriptType.moments_release _ _
    · rfl
  · rfl
  · rfl

theorem moments_setReturnHandle (f : Frame) (h : Option Handle) :
    Effect.moments (f.setReturnHandle h).effects = [] := by
  unfold setReturnHandle
  split
  · exact moments_setReturnAddress f _
  · cases h with
    | none => rfl
    | some g =>
      rw [Reaction.after, Reaction.refused, List.append_nil]
      exact ScriptType.moments_release _ _

theorem result_takeHandle (f : Frame) (i : Nat) : (f.takeHandle i).frame.result = f.result := by
  unfold takeHandle
  split
  · split <;> rfl
  · rfl
  · rfl

theorem result_setException (f : Frame) (message : String) :
    (f.setException message).frame.result = f.result := by
  unfold setException
  split <;> rfl

private theorem result_writeRaw {f : Frame} {constructed : Bool}
    (result : f.result = .object constructed) (a : Address) (p : Payload) :
    (f.writeRaw a p).1.result = f.result := by
  unfold writeRaw
  split
  · split
    · split <;> rfl
    · rfl
  · rw [result]
    split <;> exact result
  · rfl
  · rfl

end Frame

namespace Frame

theorem result_perform {f : Frame} {constructed : Bool} (result : f.result = .object constructed)
    {op : Operation} (other : op.constructs = false) : (f.perform op).frame.result = f.result := by
  cases op with
  | setReturnObject a => cases other
  | markConstructed => cases other
  | setReturnAddress a =>
    rw [perform, setReturnAddress, result]
    exact result
  | setReturnHandle h =>
    rw [perform, setReturnHandle, result]
    exact result
  | setReturnValue v =>
    rw [perform, setReturnValue, result]
    exact result
  | take i => exact result_takeHandle f i
  | raise message => exact result_setException f message
  | write a p => exact result_writeRaw result a p
  | _ => rfl

private theorem turnover_setReturnObject {f : Frame} {t : ScriptType} {constructed : Bool}
    (returns : f.signature.returns = .value t) (result : f.result = .object constructed)
    (a : Address) : f.Turnover ⟨t, f.resultAddress⟩ (.setReturnObject a) := by
  have refused {e : CallError} (h : f.setReturnObject a = .refused e f) :
      f.Turnover ⟨t, f.resultAddress⟩ (.setReturnObject a) := by
    refine .still ?_ rfl ?_ ?_
    · rw [perform, h]
      rfl
    · rw [perform, h]
      rfl
    · rw [places, perform, h]
      rfl
  -- refused without an object and without a way to copy it, before anything ends
  cases null : a.isNull with
  | true =>
    refine refused (e := .nullAddress "return value") ?_
    rw [setReturnObject, returns]
    simp only [null, if_true]
  | false =>
    cases copied : t.copy f.resultAddress a with
    | error e =>
      refine refused (e := e) ?_
      rw [setReturnObject, returns]
      simp only [null, copied, Bool.false_eq_true, if_false]
    | ok effects =>
      obtain rfl := ScriptType.eq_of_copy_eq_ok copied
      have taken : f.setReturnObject a = .done () { f with result := .object true }
          ((if constructed then t.destruct f.resultAddress else []) ++
            [.copy t f.resultAddress a]) := by
        rw [setReturnObject, returns]
        simp only [null, copied, result, Bool.false_eq_true, if_false]
      refine .replaced ?_ rfl ?_ ?_
      · rw [perform, taken]
        rfl
      · rw [perform, taken, isOccupied_of_result result]
        cases constructed with
        | false => rfl
        | true =>
          rw [Reaction.effects_map, Reaction.done, if_pos rfl, Effect.moments_append,
            ScriptType.moments_destruct]
          rfl
      · rw [places, perform, taken]
        rfl

theorem turnover_perform {f : Frame} {t : ScriptType} {constructed : Bool}
    (returns : f.signature.returns = .value t) (result : f.result = .object constructed)
    (op : Operation) : f.Turnover ⟨t, f.resultAddress⟩ op := by
  cases op with
  | setReturnObject a => exact turnover_setReturnObject returns result a
  | markConstructed =>
    refine .built rfl ?_ ?_ (moments_effects_perform f rfl) ?_
    · rw [perform, markConstructed, result]
      rfl
    · rw [inPlace, result, returns]
    · rw [places, perform, markConstructed, result]
      rfl
  | setReturnAddress a =>
    exact .still (result_perform result rfl) rfl (moments_setReturnAddress f a) rfl
  | setReturnHandle h =>
    exact .still (result_perform result rfl) rfl (moments_setReturnHandle f h) rfl
  | _ => exact .still (result_perform result rfl) rfl (moments_effects_perform f rfl) rfl

/-! ## Sequences of operations -/

theorem SameCall.resultAddress {f g : Frame} (h : f.SameCall g) :
    g.resultAddress = f.resultAddress := by
  rw [Frame.resultAddress, Frame.resultAddress, h.signature, h.number]

theorem WellTyped.alternates_perform {f : Frame} (typed : f.WellTyped) {t : ScriptType}
    (returns : f.signature.returns = .value t) (destructed : t.isDestructed = true)
    {op : Operation} (vacant : op = .markConstructed → f.isOccupied = false) :
    Alternates ⟨t, f.resultAddress⟩ f.isOccupied
      (f.inPlace op ++ Effect.moments (f.perform op).effects) (f.perform op).frame.isOccupied := by
  obtain ⟨constructed, result⟩ := typed.exists_object returns
  cases turnover_perform returns result op with
  | still same quiet none =>
    rw [quiet, none, isOccupied, isOccupied, same]
    exact .nil _
  | replaced there quiet moved =>
    rw [quiet, moved, List.nil_append, isOccupied_of_result there, Instance.endings, destructed]
    exact .replaced _
  | built mark there new none =>
    rw [new, none, vacant mark, isOccupied_of_result there]
    exact .begins (.nil true)

/-- During a call the return storage holds one instance after another. -/
theorem WellTyped.alternates_run {f : Frame} (typed : f.WellTyped) {t : ScriptType}
    (returns : f.signature.returns = .value t) (destructed : t.isDestructed = true)
    {ops : List Operation} (vacant : f.MarksVacant ops) :
    Alternates ⟨t, f.resultAddress⟩ f.isOccupied (f.moments ops) (f.run ops).frame.isOccupied := by
  induction ops generalizing f with
  | nil => exact .nil _
  | cons op ops ih =>
    obtain ⟨now, later⟩ := vacant
    have same := (change_perform f op).sameCall
    have rest := ih (typed.perform op) (same.signature ▸ returns) later
    -- the storage is where it was, so that later instances are in the same place
    rw [same.resultAddress] at rest
    exact (typed.alternates_perform returns destructed now).append rest

theorem WellTyped.count_begins_perform {f : Frame} (typed : f.WellTyped) {t : ScriptType}
    (returns : f.signature.returns = .value t) (op : Operation) :
    (f.inPlace op ++ Effect.moments (f.perform op).effects).count (.begins ⟨t, f.resultAddress⟩) =
      (f.places op).toNat := by
  obtain ⟨constructed, result⟩ := typed.exists_object returns
  cases turnover_perform returns result op with
  | still same quiet none idle =>
    rw [quiet, none, idle]
    rfl
  | replaced there quiet moved placed =>
    have ended (occupied : Bool) : (if occupied then
        Instance.endings ⟨t, f.resultAddress⟩ else []).count
          (.begins ⟨t, f.resultAddress⟩) = 0 := by
      cases occupied <;> simp [Instance.count_begins_endings]
    rw [quiet, moved, placed, List.nil_append, List.count_append, ended, List.count_cons_self]
    rfl
  | built mark there new none placed =>
    rw [new, none, placed, List.append_nil, List.count_cons_self]
    rfl

/-- An instance begins in the return storage exactly when an operation puts it there. -/
theorem WellTyped.count_begins_moments {f : Frame} (typed : f.WellTyped) {t : ScriptType}
    (returns : f.signature.returns = .value t) (ops : List Operation) :
    (f.moments ops).count (.begins ⟨t, f.resultAddress⟩) = f.placements ops := by
  induction ops generalizing f with
  | nil => rfl
  | cons op ops ih =>
    have same := (change_perform f op).sameCall
    have later := ih (typed.perform op) (same.signature ▸ returns)
    rw [same.resultAddress] at later
    rw [moments, placements, List.count_append, typed.count_begins_perform returns, later]

/-- Nothing ends during a call that returns an instance of a type without a hook for that. -/
theorem WellTyped.moments_eq_replicate {f : Frame} (typed : f.WellTyped) {t : ScriptType}
    (returns : f.signature.returns = .value t) (undestructed : t.isDestructed = false)
    (ops : List Operation) :
    f.moments ops = List.replicate (f.placements ops) (.begins ⟨t, f.resultAddress⟩) := by
  have endings (a : Address) : Instance.endings ⟨t, a⟩ = [] :=
    if_neg (ne_true_of_eq_false undestructed)
  induction ops generalizing f with
  | nil => rfl
  | cons op ops ih =>
    have same := (change_perform f op).sameCall
    have later := ih (typed.perform op) (same.signature ▸ returns)
    rw [same.resultAddress] at later
    obtain ⟨constructed, result⟩ := typed.exists_object returns
    rw [moments, placements, later, List.replicate_add]
    cases turnover_perform returns result op with
    | still same quiet none idle => simp [quiet, none, idle]
    | replaced there quiet moved placed => simp [quiet, moved, endings, placed]
    | built mark there new none placed => simp [new, none, placed]

private theorem moments_perform_of_not_value {f : Frame}
    (other : ∀ t, f.signature.returns ≠ .value t) (op : Operation) :
    f.inPlace op = [] ∧ Effect.moments (f.perform op).effects = [] := by
  constructor
  · unfold inPlace
    split
    · split
      · next returns => exact absurd returns (other _)
      · rfl
    · rfl
  · cases op with
    | setReturnAddress a => exact moments_setReturnAddress f a
    | setReturnHandle h => exact moments_setReturnHandle f h
    | setReturnObject a =>
      rw [perform, Reaction.effects_map, setReturnObject]
      split
      · split
        · rfl
        · rw [Reaction.after, Effect.moments_append, ScriptType.moments_addRef]
          exact moments_setReturnAddress f a
      · next returns => exact absurd returns (other _)
      · exact moments_setReturnAddress f a
      · rfl
    | _ => exact moments_effects_perform f rfl

private theorem moments_of_not_value {f : Frame} (other : ∀ t, f.signature.returns ≠ .value t)
    (ops : List Operation) : f.moments ops = [] := by
  induction ops generalizing f with
  | nil => rfl
  | cons op ops ih =>
    obtain ⟨quiet, none⟩ := moments_perform_of_not_value other op
    rw [moments, quiet, none, ih (fun t ↦ (change_perform f op).sameCall.signature ▸ other t)]
    rfl

end Frame

/-! ## The end of a frame -/

/-- What happens when nobody keeps what a call gives. -/
def Outcome.discard : Except CallError Outcome → List Effect
  | .ok o => o.drop
  | .error _ => []

private theorem dropHandle?_adopt? (t : ScriptType) (a : Address) :
    dropHandle? (Handle.adopt? t a) = t.release a := by
  cases null : a.isNull with
  | true =>
    rw [Address.isNull_iff.mp null, Handle.adopt?_null, ScriptType.release_null]
    rfl
  | false =>
    rw [Handle.adopt?, null]
    rfl

theorem Alternates.settled {i : Instance} {a occupied : Bool} {ms : List Moment}
    (h : Alternates i a ms occupied) (exception : Bool) :
    Alternates i a (ms ++ if !exception && occupied then [.ends i] else [])
      (exception && occupied) := by
  cases exception with
  | true =>
    rw [Bool.not_true, Bool.false_and, if_neg Bool.false_ne_true, List.append_nil]
    exact h
  | false =>
    refine h.append ?_
    cases occupied with
    | true => exact .ends (.nil false)
    | false => exact .nil false

namespace Frame

/-- The end of the returned instance, if there is one and no exception is pending. -/
def resultEndings (f : Frame) : List Moment :=
  if f.hasException then []
  else
    match f.result, f.signature.returns with
    | .object true, .value t => Instance.endings ⟨t, f.resultAddress⟩
    | _, _ => []

private theorem moments_discardResult (f : Frame) :
    Effect.moments f.discardResult = f.resultEndings := by
  unfold discardResult resultEndings
  split
  · rfl
  · cases f.result with
    | object constructed =>
      cases constructed with
      | false => rfl
      | true =>
        cases f.signature.returns with
        | value t => exact ScriptType.moments_destruct t _
        | _ => rfl
    | handle a =>
      cases f.signature.returns with
      | handle t auto => exact ScriptType.moments_release t a
      | _ => rfl
    | _ => rfl

theorem discard_outcome (f : Frame) : Outcome.discard f.outcome.1 = f.discardResult := by
  unfold outcome discardResult hasException
  cases f.exception with
  | some e => rfl
  | none =>
    rw [Option.isSome_none, if_neg Bool.false_ne_true]
    cases f.result with
    | object constructed => cases f.signature.returns <;> cases constructed <;> rfl
    | handle a =>
      cases f.signature.returns with
      | handle t auto => exact dropHandle?_adopt? t a
      | _ => rfl
    | _ => rfl

private theorem moments_unreleased (f : Frame) :
    Effect.moments (f.unreleased.flatMap fun (t, a) ↦ t.release a) = [] := by
  rw [Effect.moments_flatMap]
  exact List.flatMap_eq_nil_iff.mpr fun x _ ↦ ScriptType.moments_release x.1 x.2

/-- A frame that nobody finishes ends what is in its return storage and then its copies. -/
theorem moments_abandon (f : Frame) :
    Effect.moments f.abandon =
      f.resultEndings ++ Effect.moments (f.slots.flatMap Slot.discard) := by
  rw [abandon, Effect.moments_append, Effect.moments_append, Effect.moments_append,
    moments_unreleased, moments_discardResult]
  exact congrArg (· ++ _) (List.append_nil f.resultEndings)

theorem moments_finish (f : Frame) :
    Effect.moments f.finish.2 = Effect.moments (f.slots.flatMap Slot.discard) := by
  have outcome : Effect.moments f.outcome.2 = [] := by
    rcases countsResult_outcome f with none | ⟨t, auto, a, -, -, taken | given⟩
    · rw [none]
      rfl
    · rw [taken]
      exact ScriptType.moments_addRef t a
    · rw [given]
      exact ScriptType.moments_release t a
  rw [finish, Effect.moments_append, outcome, moments_abandon]
  rfl

private theorem resultEndings_of_value {f : Frame} (typed : f.WellTyped) {t : ScriptType}
    (returns : f.signature.returns = .value t) :
    f.resultEndings =
      if !f.hasException && f.isOccupied then Instance.endings ⟨t, f.resultAddress⟩ else [] := by
  obtain ⟨constructed, result⟩ := typed.exists_object returns
  rw [resultEndings, isOccupied_of_result result, result, returns]
  cases f.hasException <;> cases constructed <;> rfl

private theorem resultEndings_of_not_value {f : Frame}
    (other : ∀ t, f.signature.returns ≠ .value t) : f.resultEndings = [] := by
  unfold resultEndings
  split
  · rfl
  · split
    · next returns => exact absurd returns (other _)
    · rfl

theorem isOccupied_of_construct {number : Nat} {sig : Signature} {receiver : Option Address}
    {args : List Argument} {policy : Policy} {f : Frame}
    (h : (construct number sig receiver args policy).1 = .ok f) : f.isOccupied = false := by
  obtain ⟨slots, effects, -, rfl, -⟩ := exists_filledAll_of_construct h
  change (ReturnSlot.initial sig.returns == .object true) = false
  cases sig.returns <;> rfl

/-- The moments of the return storage, until what it holds at the end is discarded. -/
def lifetimes (f : Frame) (ops : List Operation) : List Moment :=
  f.moments ops ++ Effect.moments (Outcome.discard (f.run ops).frame.finish.1)

/-- Whether an instance stays in the return storage because of an exception. -/
def isLeft (f : Frame) : Bool := f.hasException && f.isOccupied

theorem WellTyped.alternates_lifetimes {f : Frame} (typed : f.WellTyped) {t : ScriptType}
    (returns : f.signature.returns = .value t) (destructed : t.isDestructed = true)
    {ops : List Operation} (vacant : f.MarksVacant ops) :
    Alternates ⟨t, f.resultAddress⟩ f.isOccupied (f.lifetimes ops) (f.run ops).frame.isLeft := by
  have same := sameCall_run f ops
  have settled := (typed.alternates_run returns destructed vacant).settled
    (f.run ops).frame.hasException
  have ended : Effect.moments (Outcome.discard (f.run ops).frame.finish.1) =
      if !(f.run ops).frame.hasException && (f.run ops).frame.isOccupied then
        [.ends ⟨t, f.resultAddress⟩]
      else [] := by
    rw [finish, discard_outcome, moments_discardResult,
      resultEndings_of_value (typed.run ops) (same.signature ▸ returns), same.resultAddress,
      Instance.endings, if_pos destructed]
  rw [lifetimes, ended]
  exact settled

theorem WellTyped.lifetimes_eq_replicate {f : Frame} (typed : f.WellTyped) {t : ScriptType}
    (returns : f.signature.returns = .value t) (undestructed : t.isDestructed = false)
    (ops : List Operation) :
    f.lifetimes ops = List.replicate (f.placements ops) (.begins ⟨t, f.resultAddress⟩) := by
  have same := sameCall_run f ops
  rw [lifetimes, finish, discard_outcome, moments_discardResult,
    resultEndings_of_value (typed.run ops) (same.signature ▸ returns), Instance.endings,
    if_neg (ne_true_of_eq_false undestructed), ite_self, List.append_nil,
    typed.moments_eq_replicate returns undestructed]

private theorem lifetimes_of_not_value {f : Frame} (other : ∀ t, f.signature.returns ≠ .value t)
    (ops : List Operation) : f.lifetimes ops = [] := by
  have same := sameCall_run f ops
  rw [lifetimes, finish, discard_outcome, moments_discardResult, moments_of_not_value other,
    resultEndings_of_not_value fun t ↦ same.signature ▸ other t, List.append_nil]

theorem moments_discard_run {number : Nat} {sig : Signature} {receiver : Option Address}
    {args : List Argument} {policy : Policy} {f : Frame}
    (built : (construct number sig receiver args policy).1 = .ok f) (ops : List Operation) :
    Effect.moments ((f.run ops).frame.slots.flatMap Slot.discard) =
      (ValueArgument.ofArguments 0 sig.params args).flatMap (ValueArgument.endings number) := by
  obtain ⟨slots, effects, filled, rfl, -⟩ := exists_filledAll_of_construct built
  rw [flatMap_discard_run, filled.flatMap_discard, Effect.moments_flatMap]
  exact List.flatMap_congr fun x _ ↦ ScriptType.moments_destruct _ _

/-- **Lifetimes of instances.** Every argument by value is copied once and its copy ends once. In
the return storage each instance ends before the next one begins, and the last one as the call is
given up or discarded, unless it is left there after an exception. -/
theorem instances_end_once {number : Nat} {sig : Signature} {receiver : Option Address}
    {args : List Argument} {policy : Policy} {f : Frame} {ops : List Operation}
    (built : (construct number sig receiver args policy).1 = .ok f) (vacant : f.MarksVacant ops) :
    (construct number sig receiver args policy).2.filter Effect.isLifetime =
        (ValueArgument.ofArguments 0 sig.params args).map (ValueArgument.copy number) ∧
      Effect.moments (f.run ops).frame.finish.2 =
        (ValueArgument.ofArguments 0 sig.params args).flatMap (ValueArgument.endings number) ∧
      Effect.moments (f.run ops).frame.abandon =
        Effect.moments (Outcome.discard (f.run ops).frame.finish.1)
          ++ (ValueArgument.ofArguments 0 sig.params args).flatMap
            (ValueArgument.endings number) ∧
      (∀ t, sig.returns = .value t → t.isDestructed = true →
        Alternates ⟨t, f.resultAddress⟩ false (f.moments ops) (f.run ops).frame.isOccupied ∧
          Alternates ⟨t, f.resultAddress⟩ false (f.lifetimes ops) (f.run ops).frame.isLeft ∧
          (f.lifetimes ops).count (.begins ⟨t, f.resultAddress⟩) =
            (f.lifetimes ops).count (.ends ⟨t, f.resultAddress⟩)
              + (f.run ops).frame.isLeft.toNat) ∧
      (∀ t, sig.returns = .value t →
        (f.moments ops).count (.begins ⟨t, f.resultAddress⟩) = f.placements ops) ∧
      (∀ t, sig.returns = .value t → t.isDestructed = false →
        f.lifetimes ops = List.replicate (f.placements ops) (.begins ⟨t, f.resultAddress⟩)) ∧
      ((∀ t, sig.returns ≠ .value t) → f.lifetimes ops = []) := by
  have typed := wellTyped_of_construct built
  have vacant_at_first := isOccupied_of_construct built
  obtain ⟨slots, effects, filled, hf, entry⟩ := exists_filledAll_of_construct built
  have declared : f.signature = sig := by rw [hf]
  have copies := moments_discard_run built ops
  refine ⟨?_, ?_, ?_, fun t returns destructed ↦ ?_,
    fun t returns ↦ typed.count_begins_moments (declared ▸ returns) ops,
    fun t returns undestructed ↦
      typed.lifetimes_eq_replicate (declared ▸ returns) undestructed ops,
    fun other ↦ lifetimes_of_not_value (declared ▸ other) ops⟩
  · rw [entry, List.filter_append, filled.filter_isLifetime]
    exact List.append_nil _
  · rw [moments_finish, copies]
  · rw [moments_abandon, copies, finish, discard_outcome, moments_discardResult]
  · have during := typed.alternates_run (declared ▸ returns) destructed vacant
    have whole := typed.alternates_lifetimes (declared ▸ returns) destructed vacant
    rw [vacant_at_first] at during whole
    exact ⟨during, whole, whole.count_begins⟩

/-- A type of values that are copied and destroyed. -/
def label : ScriptType where
  name := "Label"
  category := .value
  layout := .address
  shape := .word
  behaviours := { Behaviours.none with copy := some ⟨.word, .silent⟩, destruct := some ⟨.silent⟩ }

/-- `Label join(Label, int, Label)`. -/
def join : Signature where
  name := "join"
  object := none
  params := [⟨label, .byValue⟩, ⟨.primitive (.signed .bits32), .byValue⟩, ⟨label, .byValue⟩]
  returns := .value label

/-- A call of `join` with one instance twice. -/
def joining : Frame where
  number := 0
  signature := join
  receiver := .null
  slots := [.object ⟨label, .argument 0 0⟩, .primitive (.signed .bits32 7),
    .object ⟨label, .argument 0 2⟩]
  result := .object false
  policy := .strict
  exception := none

/-- The lifetimes in a call that builds its result in place and then returns another instance, once
with an exception and once without. -/
theorem instances_end_once_joining :
    (Effect.moments (joining.run [.markConstructed, .setReturnObject (.region 0)]).frame.finish.2 =
        [.ends ⟨label, .argument 0 0⟩, .ends ⟨label, .argument 0 2⟩] ∧
      Alternates ⟨label, .result 0⟩ false [.begins ⟨label, .result 0⟩, .ends ⟨label, .result 0⟩,
        .begins ⟨label, .result 0⟩, .ends ⟨label, .result 0⟩] false) ∧
      Alternates ⟨label, .result 0⟩ false [.begins ⟨label, .result 0⟩] true := by
  have built : (construct 0 join none
      [.object (.region 0), .primitive (.signed .bits32 7), .object (.region 0)] .strict).1 =
      .ok joining := rfl
  have vacant : joining.MarksVacant [.markConstructed, .setReturnObject (.region 0)] :=
    ⟨fun _ ↦ rfl, Operation.noConfusion, trivial⟩
  have vacant' : joining.MarksVacant [.markConstructed, .raise "late"] :=
    ⟨fun _ ↦ rfl, Operation.noConfusion, trivial⟩
  obtain ⟨-, finished, -, stored, -⟩ := instances_end_once built vacant
  obtain ⟨-, -, -, left, -⟩ := instances_end_once built vacant'
  exact ⟨⟨finished, (stored label rfl rfl).2.1⟩, (left label rfl rfl).2.1⟩

end Frame

end CallingConvention
