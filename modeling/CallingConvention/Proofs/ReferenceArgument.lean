import CallingConvention.Proofs.BorrowedReturn

/-!
# Reference arguments

A frame keeps the address that a reference argument carries and hands it to native code. It does
nothing else with it: whatever a call does, it does the same if its references are to other storage
(`Function.ignoresTargets`). So nothing is counted, copied, written or destroyed because of what
a reference is to. What native code does with the address is another matter.

The calls are compared step by step, under a map of addresses that takes null and nothing else to
null.

Out cells are what references are usually to. A frame keeps its own instances elsewhere, so whatever
is written to a cell in a call or ends there is native code's doing (`Function.leavesCell`).
-/

namespace CallingConvention

/-! ## Other storage -/

/-- The argument, if a reference is to other storage. -/
def Argument.retarget (g : Address → Address) : Argument → Argument
  | reference a => reference (g a)
  | arg => arg

/-- The slot, if a reference is to other storage. -/
def Slot.retarget (g : Address → Address) : Slot → Slot
  | reference a => reference (g a)
  | slot => slot

/-- The frame, if its references are to other storage. -/
def Frame.retarget (g : Address → Address) (f : Frame) : Frame :=
  { f with slots := f.slots.map (Slot.retarget g) }

/-- The reaction of such a frame. -/
def Reaction.retarget {α : Type} (g : Address → Address) (r : Reaction α) : Reaction α :=
  { r with frame := r.frame.retarget g }

variable {g : Address → Address}

/-! ## New frames -/

namespace Argument

private theorem check_retarget (nulls : ∀ a, (g a).isNull = a.isNull) (policy : Policy)
    (index : Nat) (p : Param) (arg : Argument) :
    (arg.retarget g).check policy index p = arg.check policy index p := by
  cases arg with
  -- of the address of a reference only this is asked: whether it is null
  | reference a =>
    unfold retarget check mismatch
    cases p.slotKind with
    | reference => simp only [nulls]
    | _ => rfl
  | _ => rfl

private theorem checkAll_retarget (nulls : ∀ a, (g a).isNull = a.isNull) (policy : Policy)
    (index : Nat) (ps : List Param) (args : List Argument) :
    checkAll policy index ps (args.map (retarget g)) = checkAll policy index ps args := by
  induction ps generalizing index args with
  | nil => cases args <;> rfl
  | cons p ps ih =>
    cases args with
    | nil => rfl
    | cons arg args => simp only [List.map_cons, checkAll, check_retarget nulls, ih]

end Argument

namespace Slot

private theorem fill_retarget (policy : Policy) (frame index : Nat) (p : Param) (arg : Argument) :
    fill policy frame index p (arg.retarget g) =
      ((fill policy frame index p arg).1.map (retarget g), (fill policy frame index p arg).2) := by
  cases arg with
  | reference a => cases kind : p.slotKind <;> simp only [Argument.retarget, fill, kind] <;> rfl
  | primitive v => cases kind : p.slotKind <;> simp only [Argument.retarget, fill, kind] <;> rfl
  | handle a => cases kind : p.slotKind <;> simp only [Argument.retarget, fill, kind] <;> rfl
  | object a =>
    cases kind : p.slotKind with
    | object =>
      simp only [Argument.retarget, fill, kind]
      split <;> rfl
    | _ =>
      simp only [Argument.retarget, fill, kind]
      rfl

private theorem fillAll_retarget (policy : Policy) (frame index : Nat) (ps : List Param)
    (args : List Argument) :
    fillAll policy frame index ps (args.map (Argument.retarget g)) =
      ((fillAll policy frame index ps args).1.map (List.map (retarget g)),
        (fillAll policy frame index ps args).2) := by
  induction ps generalizing index args with
  | nil => cases args <;> rfl
  | cons p ps ih =>
    cases args with
    | nil => rfl
    | cons arg args =>
      simp only [List.map_cons, fillAll, fill_retarget, ih]
      rcases fill policy frame index p arg with ⟨_ | slot, effects⟩
      · rfl
      · rcases fillAll policy frame (index + 1) ps args with ⟨_ | slots, more⟩ <;> rfl

end Slot

namespace Frame

theorem construct_retarget (nulls : ∀ a, (g a).isNull = a.isNull) (number : Nat) (sig : Signature)
    (receiver : Option Address) (args : List Argument) (policy : Policy) :
    construct number sig receiver (args.map (Argument.retarget g)) policy =
      ((construct number sig receiver args policy).1.map (retarget g),
        (construct number sig receiver args policy).2) := by
  have checked : check sig (receiver.getD .null) (args.map (Argument.retarget g)) policy =
      check sig (receiver.getD .null) args policy := by
    simp only [check, List.length_map, Argument.checkAll_retarget nulls]
  simp only [construct, checked, Slot.fillAll_retarget]
  cases check sig (receiver.getD .null) args policy with
  | error e => rfl
  | ok =>
    rcases Slot.fillAll policy number 0 sig.params args with ⟨_ | slots, effects⟩
    · rfl
    · simp only [Except.map, retarget, List.length_map]

/-! ## Operations -/

variable (f : Frame)

private theorem slotAt_retarget (i : Nat) :
    (f.retarget g).slotAt i = (f.slotAt i).map (Slot.retarget g) := by
  simp only [slotAt, retarget, List.getElem?_map, List.length_map]
  cases f.slots[i]? <;> rfl

private theorem argumentType_retarget (i : Nat) :
    (f.retarget g).argumentType i = f.argumentType i := by
  have length : (f.retarget g).slots.length = f.slots.length := List.length_map _
  have params : (f.retarget g).signature.params = f.signature.params := rfl
  rw [argumentType, argumentType, slotAt_retarget, length, params]
  cases f.slotAt i <;> cases f.signature.params[i]? <;> rfl

private theorem setSlot_retarget (i : Nat) (slot : Slot) :
    (f.retarget g).setSlot i (slot.retarget g) = (f.setSlot i slot).retarget g := by
  simp only [setSlot, retarget, List.map_set]

private theorem takeHandle_retarget (i : Nat) :
    (f.retarget g).takeHandle i = (f.takeHandle i).retarget g := by
  have claimed (a : Address) := f.setSlot_retarget (g := g) i (.handle a true)
  rw [takeHandle, takeHandle, slotAt_retarget, argumentType_retarget]
  rcases f.slotAt i with e | (v | ⟨a, _ | _⟩ | instance' | a) <;> cases f.argumentType i <;>
    first | rfl | exact congrArg (fun f' ↦ Reaction.done _ f' []) (claimed a)

private theorem setReturnValue_retarget (v : Value) :
    (f.retarget g).setReturnValue v = (f.setReturnValue v).retarget g := by
  have there : (f.retarget g).result = f.result := rfl
  have policy : (f.retarget g).policy = f.policy := rfl
  rw [setReturnValue, setReturnValue, there, policy]
  cases f.result with
  | primitive u =>
    dsimp only
    cases f.policy.coerce u.kind v <;> rfl
  | _ => rfl

private theorem setReturnAddress_retarget (a : Address) :
    (f.retarget g).setReturnAddress a = (f.setReturnAddress a).retarget g := by
  have there : (f.retarget g).result = f.result := rfl
  have signature : (f.retarget g).signature = f.signature := rfl
  rw [setReturnAddress, setReturnAddress, there, signature]
  cases f.result <;> cases f.signature.returns <;> rfl

private theorem setReturnHandle_retarget (h : Option Handle) :
    (f.retarget g).setReturnHandle h = (f.setReturnHandle h).retarget g := by
  have there : (f.retarget g).result = f.result := rfl
  rw [setReturnHandle, setReturnHandle, there, setReturnAddress_retarget]
  cases f.result <;> rfl

private theorem setReturnObject_retarget (a : Address) :
    (f.retarget g).setReturnObject a = (f.setReturnObject a).retarget g := by
  have signature : (f.retarget g).signature = f.signature := rfl
  have there : (f.retarget g).result = f.result := rfl
  have storage : (f.retarget g).resultAddress = f.resultAddress := rfl
  rw [setReturnObject, setReturnObject, signature, there, storage, setReturnAddress_retarget]
  cases f.signature.returns with
  | handle t auto =>
    dsimp only
    split <;> rfl
  | value t =>
    dsimp only
    split
    · rfl
    · split
      · rfl
      · cases f.result <;> rfl
  | _ => rfl

private theorem markConstructed_retarget :
    (f.retarget g).markConstructed = f.markConstructed.retarget g := by
  have there : (f.retarget g).result = f.result := rfl
  rw [markConstructed, markConstructed, there]
  cases f.result <;> rfl

private theorem setException_retarget (message : String) :
    (f.retarget g).setException message = (f.setException message).retarget g := by
  have exception : (f.retarget g).exception = f.exception := rfl
  simp only [setException, exception]
  cases f.exception <;> rfl

private theorem writeRaw_retarget (a : Address) (p : Payload) :
    (f.retarget g).writeRaw a p = ((f.writeRaw a p).1.retarget g, (f.writeRaw a p).2) := by
  have number : (f.retarget g).number = f.number := rfl
  have there : (f.retarget g).result = f.result := rfl
  have slot (i : Nat) : (f.retarget g).slots[i]? = (f.slots[i]?).map (Slot.retarget g) :=
    List.getElem?_map ..
  cases a with
  | argument frame i =>
    simp only [writeRaw, number, slot]
    split
    · rcases f.slots[i]? with _ | (v | ⟨b, claimed⟩ | instance' | b)
      · rfl
      · exact congrArg (·, []) (f.setSlot_retarget i (.primitive _))
      · exact congrArg (·, []) (f.setSlot_retarget i (.handle _ _))
      · rfl
      · rfl
    · rfl
  | result frame =>
    simp only [writeRaw, number, there]
    split
    · cases f.result <;> rfl
    · rfl
  | _ => rfl

/-- An operation does the same to the frame and has the same effects. Only what it tells of the
storage that a reference is to may be something else. -/
theorem perform_retarget (op : Operation) :
    ((f.retarget g).perform op).frame = (f.perform op).frame.retarget g ∧
      ((f.retarget g).perform op).effects = (f.perform op).effects := by
  cases op with
  | take i =>
    rw [perform, perform, takeHandle_retarget]
    exact ⟨rfl, rfl⟩
  | setReturnValue v =>
    rw [perform, perform, setReturnValue_retarget]
    exact ⟨rfl, rfl⟩
  | setReturnAddress a =>
    rw [perform, perform, setReturnAddress_retarget]
    exact ⟨rfl, rfl⟩
  | setReturnHandle h =>
    rw [perform, perform, setReturnHandle_retarget]
    exact ⟨rfl, rfl⟩
  | setReturnObject a =>
    rw [perform, perform, setReturnObject_retarget]
    exact ⟨rfl, rfl⟩
  | markConstructed =>
    rw [perform, perform, markConstructed_retarget]
    exact ⟨rfl, rfl⟩
  | raise message =>
    rw [perform, perform, setException_retarget]
    exact ⟨rfl, rfl⟩
  | write a p =>
    rw [perform, perform, writeRaw_retarget]
    exact ⟨rfl, rfl⟩
  | _ => exact ⟨rfl, rfl⟩

private theorem frame_run_retarget (ops : List Operation) :
    ((f.retarget g).run ops).frame = (f.run ops).frame.retarget g := by
  induction ops generalizing f with
  | nil => rfl
  | cons op ops ih => rw [frame_run_cons, frame_run_cons, (f.perform_retarget op).1, ih]

private theorem incidents_retarget (ds : List Deed) :
    (f.retarget g).incidents ds = f.incidents ds := by
  induction ds generalizing f with
  | nil => rfl
  | cons d ds ih =>
    cases d with
    | own op =>
      obtain ⟨frame, effects⟩ := f.perform_retarget (g := g) op
      rw [incidents, incidents, frame, effects, ih]
    | other i => rw [incidents, incidents, ih]

/-! ## The end of a frame -/

private theorem unreleased_retarget : (f.retarget g).unreleased = f.unreleased := by
  have same (p : Param) (exception : Bool) (slot : Slot) :
      (slot.retarget g).unreleased? p exception = slot.unreleased? p exception := by
    cases slot <;> rfl
  have pending : (f.retarget g).hasException = f.hasException := rfl
  have slots : (f.retarget g).slots = f.slots.map (Slot.retarget g) := rfl
  have params : (f.retarget g).signature.params = f.signature.params := rfl
  rw [unreleased, unreleased, pending, slots, params, List.zip_map_right, List.filterMap_map]
  refine List.filterMap_congr fun x _ ↦ ?_
  exact congrArg (Option.map (x.1.type, ·)) (same x.1 f.hasException x.2)

private theorem flatMap_discard_retarget :
    (f.retarget g).slots.flatMap Slot.discard = f.slots.flatMap Slot.discard := by
  have same (slot : Slot) : (slot.retarget g).discard = slot.discard := by
    cases slot <;> rfl
  rw [retarget, List.flatMap_map]
  exact List.flatMap_congr fun slot _ ↦ same slot

theorem abandon_retarget : (f.retarget g).abandon = f.abandon := by
  have result : (f.retarget g).discardResult = f.discardResult := rfl
  rw [abandon, abandon, unreleased_retarget, flatMap_discard_retarget, result]
  rfl

theorem finish_retarget : (f.retarget g).finish = f.finish := by
  have outcome : (f.retarget g).outcome = f.outcome := rfl
  have torn := abandon_retarget { f with result := .void, exception := none } (g := g)
  rw [finish, finish, outcome]
  exact congrArg (fun es ↦ (f.outcome.1, f.outcome.2 ++ es)) torn

end Frame

namespace Function

/-- Whether a call does the same whatever storage its references are to: all that happens in it, and
all that a frame of it gives back that nobody finishes. -/
def IgnoresTargets (fn : Function) : Prop :=
  ∀ g : Address → Address, (∀ a, (g a).isNull = a.isNull) →
    ∀ (number : Nat) (receiver : Option Address) (args : List Argument),
      (∀ ds, fn.incidents number receiver (args.map (Argument.retarget g)) ds =
        fn.incidents number receiver args ds) ∧
      ∀ f, (fn.enter number receiver args).1 = .ok f →
        ∃ f', (fn.enter number receiver (args.map (Argument.retarget g))).1 = .ok f' ∧
          ∀ ds, f'.incidents ds = f.incidents ds ∧
            (f'.run (Deed.operations ds)).frame.abandon =
              (f.run (Deed.operations ds)).frame.abandon

private theorem enter_retarget (fn : Function) (nulls : ∀ a, (g a).isNull = a.isNull) (number : Nat)
    (receiver : Option Address) (args : List Argument) :
    fn.enter number receiver (args.map (Argument.retarget g)) =
      ((fn.enter number receiver args).1.map (Frame.retarget g),
        (fn.enter number receiver args).2) := by
  simp only [enter, Frame.construct_retarget nulls]
  rcases Frame.construct number fn.signature receiver args fn.policy with ⟨_ | f, effects⟩
  · rfl
  · simp only [Except.map, Frame.retarget, List.length_map]

private theorem incidents_retarget (fn : Function) (nulls : ∀ a, (g a).isNull = a.isNull)
    (number : Nat) (receiver : Option Address) (args : List Argument) (ds : List Deed) :
    fn.incidents number receiver (args.map (Argument.retarget g)) ds =
      fn.incidents number receiver args ds := by
  rw [incidents, incidents, enter_retarget fn nulls]
  rcases fn.enter number receiver args with ⟨_ | f, effects⟩
  · rfl
  · simp only [Except.map, Frame.incidents_retarget, Frame.frame_run_retarget, leave,
      Frame.finish_retarget]

/-- **References are not the frame's.** No call does anything because of what a reference is to. -/
theorem ignoresTargets (fn : Function) : fn.IgnoresTargets := by
  intro g nulls number receiver args
  refine ⟨fn.incidents_retarget nulls number receiver args, fun f entered ↦ ?_⟩
  refine ⟨f.retarget g, ?_, fun ds ↦ ⟨f.incidents_retarget ds, ?_⟩⟩
  · rw [enter_retarget fn nulls, entered]
    rfl
  · rw [Frame.frame_run_retarget, Frame.abandon_retarget]

end Function

/-! ## Out cells -/

/-- Whether an effect writes to a cell or ends an instance there. -/
def Effect.Touches (k : Nat) (e : Effect) : Prop :=
  e.target? = some (.cell k) ∨ ∃ t, e = .destruct t (.cell k)

/-- The effects that native code has itself: what it writes through its call, and what it does
besides. -/
inductive Deed.Does : Deed → Effect → Prop
  | write (a : Address) (p : Payload) : Does (.own (.write a p)) (.write a p)
  | other (e : Effect) : Does (.other (.effect e)) e

theorem Instance.ends_notMem_endings {i j : Instance} (apart : j.address ≠ i.address) :
    .ends i ∉ j.endings := by
  unfold endings
  split
  · intro there
    obtain rfl := Moment.ends.inj (List.mem_singleton.mp there)
    exact apart rfl
  · exact List.not_mem_nil

namespace Effect

variable {k : Nat} {es : List Effect}

private theorem not_touches_of_records (h : ∀ e ∈ es, e.target? = none ∧ e.moment? = none) :
    ∀ e ∈ es, ¬e.Touches k := by
  rintro e there (writes | ⟨t, rfl⟩)
  · cases (h e there).1.symm.trans writes
  · cases (h _ there).2

/-- Nothing in a cell is touched if nothing is written there and nothing ends there. -/
private theorem not_touches_of_moments (spares : ∀ e ∈ es, e.SparesCells)
    (none : ∀ t, .ends ⟨t, .cell k⟩ ∉ moments es) : ∀ e ∈ es, ¬e.Touches k := by
  rintro e there (writes | ⟨t, rfl⟩)
  · exact spares e there k writes
  · exact none t (List.mem_filterMap.mpr ⟨_, there, rfl⟩)

end Effect

namespace Frame

variable {f : Frame} {number k : Nat} {sig : Signature} {receiver : Option Address}
  {args : List Argument} {policy : Policy}

private theorem not_touches_construct
    (built : (construct number sig receiver args policy).1 = .ok f) :
    ∀ e ∈ (construct number sig receiver args policy).2, ¬e.Touches k := by
  obtain ⟨slots, effects, filled, -, entry⟩ := exists_filledAll_of_construct built
  have spares := sparesCells_construct built
  rintro e there (writes | ⟨t, rfl⟩)
  · exact spares e there k writes
  · rw [entry, List.mem_append, List.mem_singleton] at there
    exact filled.endless _ (there.resolve_right Effect.noConfusion) t _ rfl

private theorem does_of_touches {op : Operation} {e : Effect} (emitted : e ∈ (f.perform op).effects)
    (touches : e.Touches k) : (Deed.own op).Does e := by
  cases emits_perform f op e emitted with
  | counting kind =>
    rcases touches with writes | ⟨t, rfl⟩
    · cases writes.symm.trans (Effect.target?_of_isUpkeep (Effect.isUpkeep_of_isCounting kind))
    · cases kind
  -- instances begin and end in the return storage
  | ending =>
    rcases touches with writes | ⟨t, same⟩
    · cases writes
    · exact absurd (Effect.destruct.inj same).2 (resultAddress_ne_cell f k)
  | copy =>
    rcases touches with writes | ⟨t, same⟩
    · exact absurd (Option.some.inj writes) (resultAddress_ne_cell f k)
    · cases same
  | warning | exception =>
    rcases touches with writes | ⟨t, same⟩
    · cases writes
    · cases same
  | @write a p through =>
    subst through
    exact .write a p

private theorem exists_does_of_touches {ds : List Deed} {e : Effect}
    (there : .effect e ∈ f.incidents ds) (touches : e.Touches k) : ∃ d ∈ ds, d.Does e := by
  induction ds generalizing f with
  | nil => cases there
  | cons d ds ih =>
    have later {g : Frame} (there : .effect e ∈ g.incidents ds) : ∃ d' ∈ d :: ds, d'.Does e := by
      obtain ⟨d', member, does⟩ := ih there
      exact ⟨d', List.mem_cons_of_mem d member, does⟩
    cases d with
    | own op =>
      rcases List.mem_append.mp there with now | there
      · obtain ⟨e, emitted, ⟨⟩⟩ := List.mem_map.mp now
        exact ⟨_, List.mem_cons_self, does_of_touches emitted touches⟩
      · exact later there
    | other i =>
      rcases List.mem_cons.mp there with rfl | there
      · exact ⟨_, List.mem_cons_self, .other e⟩
      · exact later there

private theorem ends_notMem_discard (built : (construct number sig receiver args policy).1 = .ok f)
    (ops : List Operation) (t : ScriptType) :
    .ends ⟨t, .cell k⟩ ∉ Effect.moments ((f.run ops).frame.slots.flatMap Slot.discard) := by
  rw [moments_discard_run built, List.mem_flatMap]
  rintro ⟨x, -, ended⟩
  exact Instance.ends_notMem_endings (ScriptType.place_ne_cell _ Address.noConfusion) ended

private theorem not_touches_finish (built : (construct number sig receiver args policy).1 = .ok f)
    (ops : List Operation) : ∀ e ∈ (f.run ops).frame.finish.2, ¬e.Touches k := by
  refine Effect.not_touches_of_moments (sparesCells_finish _) fun t ↦ ?_
  rw [moments_finish]
  exact ends_notMem_discard built ops t

private theorem not_touches_abandon (built : (construct number sig receiver args policy).1 = .ok f)
    (ops : List Operation) : ∀ e ∈ (f.run ops).frame.abandon, ¬e.Touches k := by
  refine Effect.not_touches_of_moments (sparesCells_abandon _) fun t ↦ ?_
  rw [moments_abandon, List.mem_append, not_or]
  refine ⟨?_, ends_notMem_discard built ops t⟩
  unfold resultEndings
  split
  · exact List.not_mem_nil
  · split
    · exact Instance.ends_notMem_endings (resultAddress_ne_cell _ k)
    · exact List.not_mem_nil

end Frame

namespace Function

variable {fn : Function} {number k : Nat} {receiver : Option Address} {args : List Argument}

private theorem not_touches_enter (fn : Function) (number : Nat) (receiver : Option Address)
    (args : List Argument) (k : Nat) : ∀ e ∈ (fn.enter number receiver args).2, ¬e.Touches k := by
  rcases entered : fn.enter number receiver args with ⟨error | f, effects⟩
  · rw [effects_of_enter entered]
    exact Effect.not_touches_of_records (List.forall_mem_singleton.mpr ⟨rfl, rfl⟩)
  · obtain ⟨built, rfl⟩ := construct_of_enter entered
    refine List.forall_mem_append.mpr
      ⟨Frame.not_touches_construct built, Effect.not_touches_of_records ?_⟩
    exact List.forall_mem_cons.mpr ⟨⟨rfl, rfl⟩, List.forall_mem_singleton.mpr ⟨rfl, rfl⟩⟩

private theorem not_touches_leave {f : Frame}
    (built : (Frame.construct number fn.signature receiver args fn.policy).1 = .ok f)
    (ops : List Operation) : ∀ e ∈ (fn.leave (f.run ops).frame).2, ¬e.Touches k := by
  have torn := Frame.not_touches_finish (k := k) built ops
  obtain ⟨e, left, record⟩ := fn.exists_leave_eq (f.run ops).frame
  have apart : e.target? = none ∧ e.moment? = none := by
    obtain ⟨_, rfl⟩ | ⟨_, _, rfl⟩ := record <;> exact ⟨rfl, rfl⟩
  rw [left]
  exact List.forall_mem_append.mpr
    ⟨torn, Effect.not_touches_of_records (List.forall_mem_singleton.mpr apart)⟩

/-- What touches a cell in a call, native code does. -/
private theorem exists_does_of_touches {ds : List Deed} {e : Effect}
    (there : .effect e ∈ fn.incidents number receiver args ds) (touches : e.Touches k) :
    ∃ d ∈ ds, d.Does e := by
  have among {es : List Effect} (h : .effect e ∈ es.map Incident.effect) : e ∈ es := by
    obtain ⟨e', member, ⟨⟩⟩ := List.mem_map.mp h
    exact member
  have entering := fn.not_touches_enter number receiver args k
  rcases List.mem_cons.mp there with new | there
  · cases new
  rcases entered : fn.enter number receiver args with ⟨error | f, effects⟩ <;>
    rw [entered] at entering there
  · exact absurd touches (entering e (among there))
  · obtain ⟨built, -⟩ := construct_of_enter entered
    rw [List.mem_append, List.mem_append] at there
    rcases there with (entry | body) | exit
    · exact absurd touches (entering e (among entry))
    · exact Frame.exists_does_of_touches body touches
    · exact absurd touches (not_touches_leave built _ e (among exit))

/-- Whether a cell is left to native code: nothing is written there in a call and nothing ends there
but by native code, and nothing at all with a frame of the call that nobody finishes. -/
def LeavesCell (fn : Function) (k : Nat) : Prop :=
  ∀ (number : Nat) (receiver : Option Address) (args : List Argument),
    (∀ ds e, .effect e ∈ fn.incidents number receiver args ds → e.Touches k →
      ∃ d ∈ ds, d.Does e) ∧
    ∀ f, (fn.enter number receiver args).1 = .ok f →
      ∀ ops, ∀ e ∈ (f.run ops).frame.abandon, ¬e.Touches k

/-- **Out cells are not the frame's.** All cells are left to native code. -/
theorem leavesCell (fn : Function) (k : Nat) : fn.LeavesCell k := by
  intro number receiver args
  refine ⟨fun ds e there touches ↦ exists_does_of_touches there touches, fun f entered ops ↦ ?_⟩
  obtain ⟨built, -⟩ := construct_of_enter (Prod.ext entered rfl)
  exact Frame.not_touches_abandon built ops

end Function

end CallingConvention
