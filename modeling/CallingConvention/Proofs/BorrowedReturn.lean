import CallingConvention.Proofs.Custody
import CallingConvention.Proofs.Ending
import CallingConvention.Proofs.Exception
import CallingConvention.Proofs.Incident
import CallingConvention.Proofs.ReturnedHandle

/-!
# Returning a borrowed argument

Native code may return the object behind a handle argument and leave the argument to the frame. The
references that the frame holds for its arguments are released when it ends, and they may be the
last ones. The returned object survives that, because a reference for the caller is taken first: by
the operation that sets the return, or by the frame when it hands over its outcome, before it is
torn down.

A body is a list of deeds (`Deed`): operations on its own call, and whatever else happens to the
store in between, calls that the body makes included. Of the latter it is asked only that they give
up no references but their own.
-/

namespace CallingConvention

/-! ## Bodies -/

/-- One step of a body: an operation on its own call, or anything else that happens meanwhile. -/
inductive Deed where
  | own (op : Operation)
  | other (i : Incident)

namespace Deed

/-- The operation on the call. -/
def operation? : Deed → Option Operation
  | own op => some op
  | other _ => none

/-- What happens besides operations on the call. -/
def incident? : Deed → Option Incident
  | own _ => none
  | other i => some i

/-- The operations on the call, in order. -/
def operations (ds : List Deed) : List Operation := ds.filterMap operation?

/-- The effects of what happens besides operations on the call, in order. -/
def foreign (ds : List Deed) : List Effect := Incident.effects (ds.filterMap incident?)

end Deed

namespace Frame

/-- What happens to the store while a body runs. -/
def incidents (f : Frame) : List Deed → List Incident
  | [] => []
  | .own op :: ds => (f.perform op).effects.map .effect ++ (f.perform op).frame.incidents ds
  | .other i :: ds => i :: f.incidents ds

end Frame

/-- A body as native code. -/
def Deed.native (ds : List Deed) : Native :=
  fun f s ↦ ((f.run (operations ds)).frame, s.befallAll (f.incidents ds))

/-- What happens to the store in a call whose native code is a body. -/
def Function.incidents (fn : Function) (number : Nat) (receiver : Option Address)
    (args : List Argument) (ds : List Deed) : List Incident :=
  .newFrame ::
    match fn.enter number receiver args with
    | (.error _, effects) => effects.map .effect
    | (.ok f, effects) =>
      effects.map .effect ++ f.incidents ds
        ++ (fn.leave (f.run (Deed.operations ds)).frame).2.map .effect

/-- A call is what happens in it. -/
theorem Function.invoke_native (fn : Function) (receiver : Option Address) (args : List Argument)
    (s : Store) (ds : List Deed) :
    (fn.invoke (Deed.native ds) receiver args s).2 =
      s.befallAll (fn.incidents s.newFrame.1 receiver args ds) := by
  rw [invoke, incidents, Store.befallAll_cons]
  rcases entered : fn.enter s.newFrame.1 receiver args with ⟨_ | f, effects⟩
  · simp only [entered, Store.befallAll_effects]
    rfl
  · simp only [entered, Store.befallAll_append, Store.befallAll_effects, Deed.native]
    rfl

namespace Frame

variable {f : Frame} {n : Nat}

@[simp] theorem effects_incidents_own (f : Frame) (op : Operation) (ds : List Deed) :
    Incident.effects (f.incidents (.own op :: ds)) =
      (f.perform op).effects ++ Incident.effects ((f.perform op).frame.incidents ds) := by
  rw [incidents, Incident.effects_append, Incident.effects_map]

@[simp] theorem effects_incidents_other (f : Frame) (i : Incident) (ds : List Deed) :
    Incident.effects (f.incidents (.other i :: ds)) =
      Incident.effects [i] ++ Incident.effects (f.incidents ds) :=
  Incident.effects_append [i] _

private theorem foreign_other (i : Incident) (ds : List Deed) :
    Deed.foreign (.other i :: ds) = Incident.effects [i] ++ Deed.foreign ds :=
  Incident.effects_append [i] _

/-- What a body does to the count of an object, its own operations and the rest taken together. -/
theorem counts_incidents (f : Frame) (ds : List Deed) (n : Nat) :
    Effect.gained n (Incident.effects (f.incidents ds)) =
        Effect.gained n (f.run (Deed.operations ds)).effects + Effect.gained n (Deed.foreign ds) ∧
      Effect.lost n (Incident.effects (f.incidents ds)) =
        Effect.lost n (f.run (Deed.operations ds)).effects + Effect.lost n (Deed.foreign ds) := by
  induction ds generalizing f with
  | nil => exact ⟨rfl, rfl⟩
  | cons d ds ih =>
    cases d with
    | own op =>
      obtain ⟨gained, lost⟩ := ih (f.perform op).frame
      have operations : (f.run (Deed.operations (.own op :: ds))).effects =
          (f.perform op).effects ++ ((f.perform op).frame.run (Deed.operations ds)).effects := rfl
      have foreign : Deed.foreign (.own op :: ds) = Deed.foreign ds := rfl
      rw [effects_incidents_own, operations, foreign]
      simp only [Effect.gained_append, Effect.lost_append, gained, lost, Nat.add_assoc, and_self]
    | other i =>
      obtain ⟨gained, lost⟩ := ih f
      have operations : Deed.operations (.other i :: ds) = Deed.operations ds := rfl
      rw [effects_incidents_other, operations, foreign_other]
      simp only [Effect.gained_append, Effect.lost_append, gained, lost]
      omega

/-- If the operations of a body give up nothing, then by any moment no more has been given up than
by everything else. -/
private theorem exists_foreign_of_prefix {ds : List Deed}
    (keeps : Effect.lost n (f.run (Deed.operations ds)).effects = 0) {early : List Effect}
    (start : early <+: Incident.effects (f.incidents ds)) :
    ∃ foreign, foreign <+: Deed.foreign ds ∧ Effect.lost n early = Effect.lost n foreign ∧
      Effect.gained n foreign ≤ Effect.gained n early := by
  induction ds generalizing f early with
  | nil =>
    obtain rfl : early = [] := List.prefix_nil.mp start
    exact ⟨[], List.nil_prefix, rfl, Nat.le_refl _⟩
  | cons d ds ih =>
    cases d with
    | own op =>
      have both : Effect.lost n (f.perform op).effects = 0 ∧
          Effect.lost n ((f.perform op).frame.run (Deed.operations ds)).effects = 0 :=
        Nat.add_eq_zero_iff.mp ((Effect.lost_append ..).symm.trans keeps)
      rw [effects_incidents_own] at start
      rcases prefix_append_cases start with within | ⟨rest, later, rfl⟩
      · have nothing := Effect.lost_le_of_prefix within n
        refine ⟨[], List.nil_prefix, ?_, Nat.zero_le _⟩
        exact Nat.le_zero.mp (both.1 ▸ nothing)
      · obtain ⟨foreign, among, lost, gained⟩ := ih both.2 later
        refine ⟨foreign, among, ?_, ?_⟩
        · rw [Effect.lost_append, both.1, lost, Nat.zero_add]
        · rw [Effect.gained_append]
          omega
    | other i =>
      rw [effects_incidents_other] at start
      rw [foreign_other]
      rcases prefix_append_cases start with within | ⟨rest, later, rfl⟩
      · exact ⟨early, within.trans (List.prefix_append ..), rfl, Nat.le_refl _⟩
      · obtain ⟨foreign, among, lost, gained⟩ := ih keeps later
        refine ⟨Incident.effects [i] ++ foreign, ?_, ?_, ?_⟩
        · exact (List.prefix_append_right_inj _).mpr among
        · rw [Effect.lost_append, Effect.lost_append, lost]
        · rw [Effect.gained_append, Effect.gained_append]
          omega

end Frame

/-! ## One return -/

/-- Whether an operation only reads the arguments, and sets no more than the return. -/
structure Operation.LeavesArguments (number : Nat) (args : List Argument) (op : Operation) :
    Prop where
  /-- No handle is claimed. -/
  unclaimed : ∀ i, op ≠ .take i
  /-- No exception is raised. -/
  silent : ∀ message, op ≠ .raise message
  /-- Nothing is written over a handle -/
  spares : op.SparesHandles number args
  /-- or over the return slot. -/
  unwritten : ∀ p, op ≠ .write (.result number) p

/-- Whether the operations of a body return a borrowed object, once. -/
structure Operation.ReturnsOnce (number : Nat) (args : List Argument) (auto : Bool) (a : Address)
    (ops : List Operation) : Prop where
  /-- The arguments are left to the frame. -/
  leaves : ∀ op ∈ ops, op.LeavesArguments number args
  /-- The return is set to an object that is not given away or, for an automatic handle, to its
  address. -/
  once : ops.filter Operation.setsReturn = [.setReturnObject a] ∨
    auto = true ∧ ops.filter Operation.setsReturn = [.setReturnAddress a]

private theorem Operation.ReturnsOnce.automatic {number : Nat} {args : List Argument} {auto : Bool}
    {a : Address} {ops : List Operation} (body : ReturnsOnce number args auto a ops)
    (address : .setReturnObject a ∉ ops) : auto = true := by
  rcases body.once with once | ⟨automatic, -⟩
  · have set : .setReturnObject a ∈ ops.filter setsReturn := by
      rw [once]
      exact List.mem_singleton_self _
    exact absurd (List.mem_of_mem_filter set) address
  · exact automatic

namespace Frame

variable {f : Frame} {t : ScriptType} {auto : Bool} {a : Address} {n : Nat} {op : Operation}
  {ops : List Operation}

private theorem result_perform_of_handle (result : f.result = .handle a)
    (idle : op.setsReturn = false) (unwritten : ∀ p, op ≠ .write (.result f.number) p) :
    (f.perform op).frame.result = .handle a := by
  cases op with
  | setReturnAddress | setReturnHandle | setReturnObject => cases idle
  | take i => exact (result_takeHandle f i).trans result
  | raise message => exact (result_setException f message).trans result
  | setReturnValue v =>
    rw [perform, setReturnValue, result]
    exact result
  | markConstructed =>
    rw [perform, markConstructed, result]
    exact result
  | write b p =>
    have other (frame : Nat) (here : b = .result frame) : frame ≠ f.number := by
      rintro rfl
      exact unwritten p (by rw [here])
    change (f.writeRaw b p).1.result = _
    unfold writeRaw
    split
    · split
      · split <;> exact result
      · exact result
    · next frame => rw [if_neg (other frame rfl)]; exact result
    · exact result
    · exact result
  | _ => exact result

/-- Operations that are not about the return leave the return slot alone and count nothing. -/
private theorem run_idle (result : f.result = .handle a) (idle : ∀ op ∈ ops, op.setsReturn = false)
    (unwritten : ∀ op ∈ ops, ∀ p, op ≠ .write (.result f.number) p) :
    (f.run ops).frame.result = .handle a ∧
      ∀ n, Effect.gained n (f.run ops).effects = 0 ∧ Effect.lost n (f.run ops).effects = 0 := by
  induction ops generalizing f with
  | nil => exact ⟨result, fun _ ↦ ⟨rfl, rfl⟩⟩
  | cons op ops ih =>
    obtain ⟨now, later⟩ := List.forall_mem_cons.mp idle
    have same := (change_perform f op).sameCall.number
    obtain ⟨there, counts⟩ := ih
      (result_perform_of_handle result now (unwritten op List.mem_cons_self)) later
      fun op' h ↦ same ▸ unwritten op' (List.mem_cons_of_mem op h)
    have nothing := (filter_effects_perform f op).trans (counts_of_idle f now)
    refine ⟨there, fun n ↦ ?_⟩
    rw [run, Effect.gained_append, Effect.lost_append, (counts n).1, (counts n).2,
      Effect.gained_of_filter_eq_nil nothing, Effect.lost_of_filter_eq_nil nothing]
    exact ⟨rfl, rfl⟩

private theorem exists_return_of_once {number : Nat} {args : List Argument}
    (body : Operation.ReturnsOnce number args auto a ops) :
    ∃ before op after, ops = before ++ op :: after ∧
      (op = .setReturnObject a ∨ auto = true ∧ op = .setReturnAddress a) ∧
      (.setReturnObject a ∈ ops ↔ op = .setReturnObject a) ∧
      (∀ op ∈ before, op.setsReturn = false) ∧ ∀ op ∈ after, op.setsReturn = false := by
  obtain ⟨op, one, kind⟩ : ∃ op, ops.filter Operation.setsReturn = [op] ∧
      (op = .setReturnObject a ∨ auto = true ∧ op = .setReturnAddress a) := by
    rcases body.once with object | ⟨automatic, address⟩
    · exact ⟨_, object, .inl rfl⟩
    · exact ⟨_, address, .inr ⟨automatic, rfl⟩⟩
  obtain ⟨before, after, rfl, idle, -, rest⟩ := List.filter_eq_cons_iff.mp one
  refine ⟨before, op, after, rfl, kind, ?_, fun op' h ↦ by simpa using idle op' h, fun op' h ↦ ?_⟩
  · have among : .setReturnObject a ∈ before ++ op :: after ↔
        .setReturnObject a ∈ (before ++ op :: after).filter Operation.setsReturn := by
      rw [List.mem_filter]
      exact (and_iff_left rfl).symm
    rw [among, one, List.mem_singleton, eq_comm]
  · simpa using List.filter_eq_nil_iff.mp rest op' h

/-- A borrowed object that is returned once is in the return slot afterwards. Nothing was given up
for it, and a reference was taken if the operation that set it takes one. -/
theorem run_returnsOnce (type : t.CountsObjects) (returns : f.signature.returns = .handle t auto)
    (result : f.result = .handle .null) {args : List Argument}
    (body : Operation.ReturnsOnce f.number args auto a ops) :
    (f.run ops).frame.result = .handle a ∧ ∀ n, Effect.lost n (f.run ops).effects = 0 ∧
      Effect.gained n (f.run ops).effects =
        if .setReturnObject a ∈ ops then [a].count (.object n) else 0 := by
  have unwritten := fun op there ↦ (body.leaves op there).unwritten
  obtain ⟨before, op, after, rfl, kind, among, idleBefore, idleAfter⟩ := exists_return_of_once body
  obtain ⟨emptied, early⟩ := run_idle result idleBefore fun op there ↦
    unwritten op (List.mem_append_left _ there)
  have same := sameCall_run f before
  generalize ran : (f.run before).frame = g at emptied same
  have returns' : g.signature.returns = .handle t auto := same.signature ▸ returns
  have sets : op.returned? = some a := by
    rcases kind with rfl | ⟨-, rfl⟩ <;> rfl
  have filled : (g.perform op).frame.result = .handle a := by
    rw [frame_perform_returned returns' emptied sets]
  have number := (change_perform g op).sameCall.number.trans same.number
  obtain ⟨there, late⟩ := run_idle filled idleAfter fun op' h ↦ number ▸
    unwritten op' (List.mem_append_right _ (List.mem_cons_of_mem op h))
  rw [frame_run_append, effects_run_append, ran]
  refine ⟨there, fun n ↦ ?_⟩
  have now := counts_perform_returned type returns' emptied sets n
  have lent : (g.lent op).count (.object n) =
      if op = .setReturnObject a then [a].count (.object n) else 0 := by
    rcases kind with rfl | ⟨-, rfl⟩
    · rw [lent_of_handle returns', if_pos rfl]
    · rfl
  have free : [Address.null].count (.object n) = 0 := rfl
  rw [run, Effect.lost_append, Effect.lost_append, Effect.gained_append, Effect.gained_append,
    (early n).1, (early n).2, (late n).1, (late n).2, now.1, now.2, if_congr among rfl rfl]
  -- null is replaced for nothing, and nothing is counted for null
  by_cases null : Address.null = a
  · subst null
    simp [free]
  · simp [null, lent, free]

private theorem holds_run_of_leaves {number : Nat} {sig : Signature} {receiver : Option Address}
    {args : List Argument} {policy : Policy}
    (built : (construct number sig receiver args policy).1 = .ok f)
    (leaves : ∀ op ∈ ops, op.LeavesArguments number args) :
    (f.run ops).frame.Holds args fun _ ↦ false := by
  have accepted := accepts_of_construct built
  obtain ⟨slots, effects, -, rfl, -⟩ := exists_filledAll_of_construct built
  have holds := (holds_of_construct built).run (wellTyped_of_construct built) accepted.arity
    fun op there ↦ (leaves op there).spares
  have unclaimed : (fun i ↦ false || decide (.take i ∈ ops)) = fun _ ↦ false := by
    funext i
    rw [Bool.false_or, decide_eq_false fun there ↦ (leaves _ there).unclaimed i rfl]
  rwa [unclaimed] at holds

private theorem Holds.argumentObject_eq {args : List Argument} {claimed : Nat → Bool}
    (h : f.Holds args claimed) (length : f.slots.length = args.length) {i : Nat}
    (argument : args[i]? = some (.handle a)) : f.argumentObject i = .ok a := by
  obtain ⟨inside, -⟩ := List.getElem?_eq_some_iff.mp argument
  have slot := List.getElem?_eq_getElem (Nat.lt_of_lt_of_eq inside length.symm)
  rw [argumentObject, slotAt, slot, h i _ _ argument slot]

private theorem counts_teardown (f : Frame) (n : Nat) :
    Effect.gained n f.teardown = 0 ∧
      Effect.lost n f.teardown =
        Effect.lost n (f.unreleased.flatMap fun (t, a) ↦ t.release a) := by
  have counts := counts_finish f n
  rw [finish_eq, Effect.gained_append, Effect.lost_append, lost_outcome, Nat.zero_add] at counts
  exact ⟨Nat.left_eq_add.mp counts.1.symm, counts.2⟩

private theorem lost_teardown_of_leaves {number : Nat} {sig : Signature} {receiver : Option Address}
    {args : List Argument} {policy : Policy} (counts : sig.CountsHandles)
    (built : (construct number sig receiver args policy).1 = .ok f)
    (leaves : ∀ op ∈ ops, op.LeavesArguments number args) (n : Nat) :
    Effect.lost n (f.run ops).frame.teardown =
      (HandleArgument.given sig args).count (.object n)
        + (HandleArgument.lent sig args).count (.object n) := by
  have accepted := accepts_of_construct built
  have typed := wellTyped_of_construct built
  have same := (sameCall_run f ops).signature
  have declared : f.signature = sig := (signature_exception_of_construct built).1
  have arity : args.length = f.signature.arity := declared ▸ accepted.arity
  -- the same handles are there as in the beginning
  have still : (f.run ops).frame.unreleased = f.unreleased := by
    rw [(holds_run_of_leaves built leaves).unreleased_eq (typed.run ops) (same ▸ arity),
      (holds_of_construct built).unreleased_eq typed arity, same]
  rw [(counts_teardown _ n).2, still, typed.lost_unreleased (declared ▸ counts),
    count_owned_construct built]

end Frame

namespace Function

variable {fn : Function} {number : Nat} {receiver : Option Address} {args : List Argument}
  {f : Frame} {ds : List Deed} {t : ScriptType} {auto : Bool} {n : Nat}

theorem leave_of_returned (fn : Function) {v : ReturnValue} {es : List Effect}
    (outcome : f.outcome = (.ok (.returned v), es)) :
    fn.leave f =
      (.ok (.returned v), es ++ f.teardown ++ [.log (.genericReturn fn.signature.name)]) := by
  rw [leave, Frame.finish_eq, outcome]

private theorem leave_of_handle {a : Address} (fn : Function)
    (returns : f.signature.returns = .handle t auto) (result : f.result = .handle a)
    (quiet : f.exception = none) :
    fn.leave f =
      (.ok (.returned (.handle (Handle.adopt? t a))),
        (if auto then t.addRef a else []) ++ f.teardown
          ++ [.log (.genericReturn fn.signature.name)]) := by
  refine fn.leave_of_returned ?_
  rw [Frame.outcome, quiet, result, returns]
  cases auto <;> rfl

private theorem effects_incidents {effects : List Effect}
    (entered : fn.enter number receiver args = (.ok f, effects)) :
    Incident.effects (fn.incidents number receiver args ds) =
      effects ++ Incident.effects (f.incidents ds)
        ++ (fn.leave (f.run (Deed.operations ds)).frame).2 := by
  have unfolded : Incident.effects (fn.incidents number receiver args ds) =
      Incident.effects (effects.map .effect ++ f.incidents ds
        ++ (fn.leave (f.run (Deed.operations ds)).frame).2.map .effect) := by
    rw [incidents, entered]
    rfl
  rw [unfolded]
  simp only [Incident.effects_append, Incident.effects_map]

/-- A call in which an object is `given` and `lent` to the frame spares the object, if what happens
besides never gives up the references that were given, and a reference for the caller is taken
before the frame is torn down: during the body, or first of all when the call is left. -/
theorem spares_of_borrowed {k given lent : Nat} {entry body exit : List Effect} (live : 0 < k)
    (argument : 0 < given + lent)
    (entered : Effect.gained n entry = lent ∧ Effect.lost n entry = 0)
    (during : ∀ early, early <+: body →
      Effect.lost n early + given ≤ k + Effect.gained n early)
    (left : Effect.lost n exit = given + lent)
    (kept : Effect.lost n body + given < k + Effect.gained n body ∨
      ∀ early, early <+: exit → early = [] ∨ 0 < Effect.gained n early) :
    Effect.Spares n k (entry ++ body ++ exit) := by
  have start : Effect.Spares n k entry := by
    intro early within
    have nothing := Effect.lost_le_of_prefix within n
    omega
  have middle : Effect.Spares n k (entry ++ body) := by
    refine start.append fun early within ↦ ?_
    have enough := during early within
    omega
  refine middle.append fun early within ↦ ?_
  have enough := during body (List.prefix_refl _)
  have most := Effect.lost_le_of_prefix within n
  rw [Effect.lost_append, Effect.gained_append]
  rcases kept with before | first
  · omega
  · rcases first early within with rfl | taken
    · rw [Effect.lost_nil]
      omega
    · omega

theorem exists_enter_of_accepts {fn : Function}
    (accepts : fn.signature.Accepts receiver args fn.policy) (number : Nat) :
    ∃ f effects, fn.enter number receiver args = (.ok f, effects) := by
  obtain ⟨slots, effects, -, -, built⟩ := Frame.construct_of_accepts accepts number
  exact ⟨_, _, by rw [enter, built]⟩

theorem facts_of_enter {effects : List Effect}
    (entered : fn.enter number receiver args = (.ok f, effects)) :
    f.number = number ∧ f.signature = fn.signature ∧
      f.result = .initial fn.signature.returns ∧ f.exception = none := by
  obtain ⟨slots, -, -, rfl, -⟩ :=
    Frame.exists_filledAll_of_construct (construct_of_enter entered).1
  exact ⟨rfl, rfl, rfl, rfl⟩

private theorem counts_of_enter {effects : List Effect} (counts : fn.signature.CountsHandles)
    (entered : fn.enter number receiver args = (.ok f, effects)) (n : Nat) :
    Effect.gained n effects = (HandleArgument.lent fn.signature args).count (.object n) ∧
      Effect.lost n effects = 0 := by
  obtain ⟨built, rfl⟩ := construct_of_enter entered
  obtain ⟨gained, lost⟩ := Frame.counts_construct counts built n
  rw [Effect.gained_append, Effect.lost_append, gained, lost]
  exact ⟨rfl, rfl⟩

private theorem count_pos_of_argument {effects : List Effect} {i : Nat}
    (entered : fn.enter number receiver args = (.ok f, effects))
    (argument : args[i]? = some (.handle (.object n))) :
    0 < (HandleArgument.given fn.signature args).count (.object n)
      + (HandleArgument.lent fn.signature args).count (.object n) := by
  obtain ⟨built, -⟩ := construct_of_enter entered
  have arity := (Frame.accepts_of_construct built).arity
  have typed := Frame.wellTyped_of_construct built
  rw [(Frame.signature_exception_of_construct built).1.symm] at arity
  obtain ⟨inside, -⟩ := List.getElem?_eq_some_iff.mp argument
  have slot := List.getElem?_eq_getElem
    (Nat.lt_of_lt_of_eq inside (arity.trans typed.arity.symm))
  have kept := Frame.holds_of_construct built i _ _ argument slot
  rw [← Frame.count_owned_construct built, List.count_pos_iff, List.mem_flatMap]
  refine ⟨_, List.mem_of_getElem? slot, ?_⟩
  rw [kept]
  exact List.mem_singleton_self _

/-- A body that returns a borrowed object leaves it in the return slot, raises nothing, and takes a
reference if it sets the return as an object. -/
private theorem run_of_borrowed {effects : List Effect} {a : Address}
    (counts : fn.signature.CountsHandles) (returns : fn.signature.returns = .handle t auto)
    (entered : fn.enter number receiver args = (.ok f, effects)) {ops : List Operation}
    (body : Operation.ReturnsOnce number args auto a ops) :
    (f.run ops).frame.result = .handle a ∧ (f.run ops).frame.exception = none ∧
      ∀ n, Effect.lost n (f.run ops).effects = 0 ∧
        Effect.gained n (f.run ops).effects =
          if .setReturnObject a ∈ ops then [a].count (.object n) else 0 := by
  obtain ⟨rfl, same, empty, quiet⟩ := facts_of_enter entered
  have declared : f.signature.returns = .handle t auto := by rw [same, returns]
  have null : f.result = .handle .null := by
    rw [empty, returns]
    rfl
  have silent : Operation.raised ops = [] := by
    refine List.filterMap_eq_nil_iff.mpr fun op there ↦ ?_
    by_contra raises
    obtain ⟨message, some⟩ := Option.ne_none_iff_exists'.mp raises
    exact (body.leaves op there).silent message (Operation.message?_eq_some_iff.mp some)
  obtain ⟨result, counted⟩ :=
    Frame.run_returnsOnce (counts.returns t auto returns) declared null body
  refine ⟨result, ?_, counted⟩
  rw [Frame.exception_run, quiet, silent]
  rfl

/-- A call that returns a borrowed object takes a reference for an automatic handle, before it
gives up those of the arguments. -/
private theorem exists_leave_of_borrowed {effects : List Effect}
    (counts : fn.signature.CountsHandles) (returns : fn.signature.returns = .handle t auto)
    (entered : fn.enter number receiver args = (.ok f, effects)) {ops : List Operation}
    (body : Operation.ReturnsOnce number args auto (.object n) ops) :
    ∃ exit, fn.leave (f.run ops).frame = (.ok (.returned (.handle (some ⟨t, .object n⟩))), exit) ∧
      Effect.gained n exit = (if auto then 1 else 0) ∧
      Effect.lost n exit = (HandleArgument.given fn.signature args).count (.object n)
        + (HandleArgument.lent fn.signature args).count (.object n) ∧
      (auto = true → ∀ early, early <+: exit → early = [] ∨ 0 < Effect.gained n early) := by
  obtain ⟨result, quiet, -⟩ := run_of_borrowed counts returns entered body
  obtain ⟨built, -⟩ := construct_of_enter entered
  obtain ⟨rfl, same, -, -⟩ := facts_of_enter entered
  have declared : (f.run ops).frame.signature.returns = .handle t auto := by
    rw [(Frame.sameCall_run f ops).signature, same, returns]
  have type := counts.returns t auto returns
  have one : Effect.gained n (t.addRef (.object n)) = 1 :=
    (type.gained_addRef _ n).trans List.count_singleton_self
  have log : Effect.gained n [.log (.genericReturn fn.signature.name)] = 0 ∧
      Effect.lost n [.log (.genericReturn fn.signature.name)] = 0 :=
    ⟨rfl, rfl⟩
  refine ⟨_, leave_of_handle fn declared result quiet, ?_, ?_, ?_⟩
  · rw [Effect.gained_append, Effect.gained_append, (Frame.counts_teardown _ n).1, log.1]
    split
    · exact one
    · rfl
  · have taken : Effect.lost n (if auto then t.addRef (.object n) else []) = 0 := by
      split
      · exact ScriptType.lost_addRef t _ n
      · rfl
    rw [Effect.lost_append, Effect.lost_append,
      Frame.lost_teardown_of_leaves counts built body.leaves, taken, log.2, Nat.zero_add,
      Nat.add_zero]
  · rintro rfl early start
    rw [if_pos rfl, List.append_assoc] at start
    obtain ⟨name, rfl⟩ := type
    -- the reference is taken by one effect, and it is the first
    refine (List.prefix_cons_iff.mp start).imp_right ?_
    rintro ⟨rest, rfl, -⟩
    have taken : 0 < Effect.gained n ((ScriptType.counted name).addRef (.object n)) :=
      Nat.lt_of_lt_of_eq Nat.one_pos one.symm
    rw [← List.singleton_append, Effect.gained_append]
    exact Nat.add_pos_left taken _

private theorem spares_incidents {k : Nat} {effects : List Effect} {i : Nat}
    (counts : fn.signature.CountsHandles) (returns : fn.signature.returns = .handle t auto)
    (entered : fn.enter number receiver args = (.ok f, effects))
    (argument : args[i]? = some (.handle (.object n))) (live : 0 < k)
    (body : Operation.ReturnsOnce number args auto (.object n) (Deed.operations ds))
    (others : ∀ early, early <+: Deed.foreign ds →
      Effect.lost n early + (HandleArgument.given fn.signature args).count (.object n) ≤
        k + Effect.gained n early) :
    Effect.Spares n k (Incident.effects (fn.incidents number receiver args ds)) := by
  obtain ⟨-, -, counted⟩ := run_of_borrowed counts returns entered body
  obtain ⟨exit, left, gained, lost, first⟩ := exists_leave_of_borrowed counts returns entered body
  rw [effects_incidents entered, left]
  refine spares_of_borrowed live (count_pos_of_argument entered argument)
    (counts_of_enter counts entered n) (fun early start ↦ ?_) lost ?_
  · obtain ⟨foreign, among, same, more⟩ :=
      Frame.exists_foreign_of_prefix (counted n).1 start
    have enough := others foreign among
    omega
  · by_cases object : Operation.setReturnObject (.object n) ∈ Deed.operations ds
    · -- the body itself has taken the reference
      refine .inl ?_
      have enough := others _ (List.prefix_refl _)
      obtain ⟨taken, given⟩ := f.counts_incidents ds n
      rw [(counted n).2, if_pos object, List.count_singleton_self] at taken
      rw [(counted n).1] at given
      omega
    · exact .inr (first (body.automatic object))

/-- **Returning a borrowed argument.** A handle argument that is returned without being claimed
keeps a reference at every moment of the call, and the caller gets one, even if those that were
given to the call were the last. -/
theorem borrowed_object_survives {fn : Function} {receiver : Option Address} {args : List Argument}
    {s : Store} {ds : List Deed} {t : ScriptType} {auto : Bool} {i n : Nat}
    (counts : fn.signature.CountsHandles) (returns : fn.signature.returns = .handle t auto)
    (accepts : fn.signature.Accepts receiver args fn.policy)
    (argument : args[i]? = some (.handle (.object n))) (live : 0 < s.references (.object n))
    (body : Operation.ReturnsOnce s.newFrame.1 args auto (.object n) (Deed.operations ds))
    (others : ∀ early, early <+: Deed.foreign ds →
      Effect.lost n early + (HandleArgument.given fn.signature args).count (.object n) ≤
        s.references (.object n) + Effect.gained n early) :
    (∃ f effects, fn.enter s.newFrame.1 receiver args = (.ok f, effects) ∧
        ∀ before, before <+: Deed.operations ds →
          (f.run before).frame.argumentObject i = .ok (.object n)) ∧
      (fn.invoke (Deed.native ds) receiver args s).1 =
        .ok (.returned (.handle (some ⟨t, .object n⟩))) ∧
      (fn.invoke (Deed.native ds) receiver args s).2 =
        s.befallAll (fn.incidents s.newFrame.1 receiver args ds) ∧
      (∀ early, early <+: fn.incidents s.newFrame.1 receiver args ds →
        0 < (s.befallAll early).references (.object n) ∧
          ((s.befallAll early).references (.object n) < 2 ^ 32 →
            (s.befallAll early).refcount (.object n) ≠ 0)) ∧
      (∀ line,
        .destroyed n line ∈ (fn.invoke (Deed.native ds) receiver args s).2.journal.toList →
          .destroyed n line ∈ s.journal.toList) ∧
      (fn.invoke (Deed.native ds) receiver args s).2.references (.object n)
          + (HandleArgument.given fn.signature args).count (.object n)
          + Effect.lost n (Deed.foreign ds) =
        s.references (.object n) + Effect.gained n (Deed.foreign ds) + 1
          + if auto = true ∧ .setReturnObject (.object n) ∈ Deed.operations ds then 1 else 0 := by
  obtain ⟨f, effects, entered⟩ := exists_enter_of_accepts accepts s.newFrame.1
  obtain ⟨exit, left, gained, lost, -⟩ := exists_leave_of_borrowed counts returns entered body
  obtain ⟨-, -, counted⟩ := run_of_borrowed counts returns entered body
  have spares := spares_incidents counts returns entered argument live body others
  have alive := Store.exists_counted_of_pos live
  rw [invoke_native]
  refine ⟨⟨f, effects, entered, fun before start ↦ ?_⟩, ?_, rfl, fun early start ↦ ?_, ?_, ?_⟩
  · obtain ⟨built, -⟩ := construct_of_enter entered
    have typed := (Frame.wellTyped_of_construct built).run before
    have same := (Frame.sameCall_run f before).signature.trans
      (Frame.signature_exception_of_construct built).1
    refine (Frame.holds_run_of_leaves built fun op there ↦
      body.leaves op (start.subset there)).argumentObject_eq ?_ argument
    rw [typed.arity, same, accepts.arity]
  · simp only [invoke, entered]
    exact congrArg Prod.fst left
  · have hitherto : Effect.Spares n (s.references (.object n)) (Incident.effects early) :=
      spares.of_prefix (start.filterMap _)
    have enough := hitherto _ (List.prefix_refl _)
    have kept : 0 < (s.befallAll early).references (.object n) := by
      rw [Store.references_eq_of_counted (Store.survives alive hitherto).1]
      omega
    refine ⟨kept, fun few zero ↦ Nat.ne_of_gt kept ?_⟩
    rw [← Store.toNat_refcount few, zero]
    rfl
  · exact (Store.survives alive spares).2
  · rw [Store.references_eq_of_counted (Store.survives alive spares).1, effects_incidents entered,
      left]
    have entry := counts_of_enter counts entered n
    have within := f.counts_incidents ds n
    rw [(counted n).1, (counted n).2, List.count_singleton_self] at within
    have enough := others _ (List.prefix_refl _)
    simp only [Effect.gained_append, Effect.lost_append, entry, within, gained, lost]
    by_cases object : Operation.setReturnObject (.object n) ∈ Deed.operations ds
    · simp only [if_pos object, and_iff_left object]
      omega
    · simp only [object, body.automatic object, and_false, if_false, if_true]
      omega

/-- Native code that shares its third argument for a while and returns it by its address. -/
def sharing : List Deed :=
  [.own (.argumentObject 2), .other (.effect (.addRef (.counted "Node") (.object 0))),
    .other (.effect (.release (.counted "Node") (.object 0))), .own (.setReturnAddress (.object 0))]

/-- A call that is given the last two references to an object, and is lent the object as well. -/
theorem borrowed_object_survives_sharing :
    ((ofSignature Frame.exchange).invoke (Deed.native sharing) none
        (.replicate 3 (.handle (.object 0))) Frame.oneNode).1 =
      .ok (.returned (.handle (some ⟨.counted "Node", .object 0⟩))) ∧
    ((ofSignature Frame.exchange).invoke (Deed.native sharing) none
        (.replicate 3 (.handle (.object 0))) Frame.oneNode).2.references (.object 0) = 1 := by
  have counts : (ofSignature Frame.exchange).signature.CountsHandles :=
    Frame.countsHandles_exchange
  have accepts : (ofSignature Frame.exchange).signature.Accepts none
      (.replicate 3 (.handle (.object 0))) (ofSignature Frame.exchange).policy :=
    Frame.accepts_of_construct (rfl : (Frame.construct 0 _ _ _ _).1 = _)
  have once : Operation.ReturnsOnce Frame.oneNode.newFrame.1 (.replicate 3 (.handle (.object 0)))
      true (.object 0) (Deed.operations sharing) := by
    refine ⟨fun op there ↦ ?_, .inr ⟨rfl, rfl⟩⟩
    have among : op ∈ [.argumentObject 2, .setReturnAddress (.object 0)] := there
    rcases List.mem_pair.mp among with rfl | rfl
    · exact ⟨nofun, nofun, nofun, nofun⟩
    · exact ⟨nofun, nofun, nofun, nofun⟩
  have given : (HandleArgument.given (ofSignature Frame.exchange).signature
      (.replicate 3 (.handle (.object 0)))).count (.object 0) = 2 := by decide
  have references : Frame.oneNode.references (.object 0) = 2 := Frame.references_oneNode 0
  have others : ∀ early, early <+: Deed.foreign sharing →
      Effect.lost 0 early + (HandleArgument.given (ofSignature Frame.exchange).signature
          (.replicate 3 (.handle (.object 0)))).count (.object 0) ≤
        Frame.oneNode.references (.object 0) + Effect.gained 0 early := by
    intro early start
    rw [given, references]
    rcases List.prefix_cons_iff.mp start with rfl | ⟨rest, rfl, later⟩
    · decide
    · rcases List.prefix_cons_iff.mp later with rfl | ⟨last, rfl, nothing⟩
      · decide
      · obtain rfl := List.prefix_nil.mp nothing
        decide
  obtain ⟨-, returned, -, -, -, sum⟩ :=
    borrowed_object_survives (i := 2) counts rfl accepts rfl (by decide) once others
  have foreign : Effect.lost 0 (Deed.foreign sharing) = 1 ∧
      Effect.gained 0 (Deed.foreign sharing) = 1 :=
    ⟨rfl, rfl⟩
  rw [given, references, foreign.1, foreign.2, if_neg (by decide)] at sum
  exact ⟨returned, Nat.add_right_cancel (m := 3) sum⟩

end Function

end CallingConvention
