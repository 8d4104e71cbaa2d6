import CallingConvention.Proofs.Ending

/-!
# Histories of a returned handle

Native code may set the return of a call again and again. A return slot for handles holds one
address after another, and the caller gets the last one. The slot takes it that an address that is
there stands for one reference: it is given up when another address is set, and nothing happens when
the same address is set again.

A handle has a reference of its own, though. If its address is in the slot already, then the
reference that comes with it is never given up (`Operation.restated`).

For an automatic handle, native code keeps its reference and the frame takes one when it is
finished. Nothing in the slot is the frame's before that, but an address that is replaced by another
one is released all the same (`Operation.overwritten`). And an object that is lent is counted twice,
when it is put into the slot and when the frame is finished, for the one handle that the caller gets
(`references_lent_returned`).
-/

namespace CallingConvention

/-! ## What is returned -/

namespace Operation

/-- The address that an operation sets as the return. -/
def returned? : Operation → Option Address
  | setReturnAddress a => some a
  | setReturnHandle h => some (Handle.addressOf h)
  | setReturnObject a => some a
  | _ => none

/-- Whether an operation returns a handle of its own or an object that is not given away. -/
def HandsOver : Operation → Prop
  | setReturnHandle _ => True
  | setReturnObject _ => True
  | _ => False

/-- The addresses of the handles that native code hands over. -/
def given (ops : List Operation) : List Address := ops.flatMap fun op ↦ op.handed.map Handle.address

private theorem given_cons (op : Operation) (ops : List Operation) :
    given (op :: ops) = op.handed.map Handle.address ++ given ops :=
  List.flatMap_cons

/-- The addresses of the handles that are handed over while their address is the current one. -/
def restated : Address → List Operation → List Address
  | _, [] => []
  | current, op :: ops =>
    (op.handed.map Handle.address).filter (· = current)
      ++ restated (op.returned?.getD current) ops

private theorem filter_handed (h : Option Handle) (current : Address) :
    (h.toList.map Handle.address).filter (· = current) =
      if current = Handle.addressOf h then h.toList.map Handle.address else [] := by
  cases h with
  | none => exact (ite_self []).symm
  | some g => simp [Handle.addressOf, Handle.intoAddress, List.filter_cons, eq_comm]

/-- The addresses that are replaced by other ones, if these are set one after another. -/
def overwritten : Address → List Address → List Address
  | _, [] => []
  | current, a :: as => (if current = a then [] else [current]) ++ overwritten a as

private theorem mem_of_mem_overwritten {current a : Address} {as : List Address}
    (h : a ∈ overwritten current as) : a = current ∨ a ∈ as := by
  induction as generalizing current with
  | nil => exact absurd h List.not_mem_nil
  | cons b as ih =>
    rw [overwritten, List.mem_append] at h
    rcases h with now | later
    · split at now
      · exact absurd now List.not_mem_nil
      · exact .inl (List.mem_singleton.mp now)
    · exact .inr (List.mem_cons.mpr (ih later))

end Operation

/-! ## One operation on the slot -/

namespace Frame

variable {f : Frame} {t : ScriptType} {auto : Bool} {previous a : Address} {op : Operation}

theorem setReturnObject_of_handle (returns : f.signature.returns = .handle t auto)
    (result : f.result = .handle previous) (b : Address) :
    f.setReturnObject b =
      if previous = b then .done () f [] else (f.setReturnAddress b).after (t.addRef b) := by
  rw [setReturnObject, returns, result]
  exact if_congr (iff_of_eq (ReturnSlot.handle.injEq previous b)) rfl rfl

theorem lent_of_handle (returns : f.signature.returns = .handle t auto) (b : Address) :
    f.lent (.setReturnObject b) = [b] := by
  unfold lent
  rw [returns]

private theorem returned?_of_mem_lent {b : Address} (h : b ∈ f.lent op) :
    op.returned? = some b := by
  cases op with
  | setReturnObject c =>
    unfold lent at h
    split at h
    · next same _ =>
      obtain rfl := Operation.setReturnObject.inj same
      exact congrArg some (List.mem_singleton.mp h).symm
    · exact absurd h List.not_mem_nil
  | _ => exact absurd h List.not_mem_nil

theorem frame_perform_returned (returns : f.signature.returns = .handle t auto)
    (result : f.result = .handle previous) (sets : op.returned? = some a) :
    (f.perform op).frame = { f with result := .handle a } := by
  have stored (b : Address) : (f.setReturnAddress b).frame = { f with result := .handle b } := by
    rw [setReturnAddress, result, returns]
    rfl
  cases op with
  | setReturnAddress b =>
    obtain rfl := Option.some.inj sets
    exact stored b
  | setReturnHandle h =>
    obtain rfl := Option.some.inj sets
    rw [perform, setReturnHandle, result]
    exact stored _
  | setReturnObject b =>
    obtain rfl := Option.some.inj sets
    rw [perform, Reaction.frame_map, setReturnObject_of_handle returns result]
    split
    · next same => rw [← same, ← result]; rfl
    · exact stored b
  | _ => cases sets

/-- An address that replaces another one is counted if it is only lent, and the other one is given
up. -/
theorem counts_perform_returned (type : t.CountsObjects)
    (returns : f.signature.returns = .handle t auto) (result : f.result = .handle previous)
    (sets : op.returned? = some a) (n : Nat) :
    Effect.gained n (f.perform op).effects =
        (if previous = a then 0 else (f.lent op).count (.object n)) ∧
      Effect.lost n (f.perform op).effects =
        if previous = a then 0 else [previous].count (.object n) := by
  have address (b : Address) := lost_setReturnAddress type returns result b n
  cases op with
  | setReturnAddress b =>
    obtain rfl := Option.some.inj sets
    exact ⟨(address b).1.trans (ite_self 0).symm, (address b).2⟩
  | setReturnHandle h =>
    obtain rfl := Option.some.inj sets
    rw [perform, setReturnHandle, result]
    exact ⟨(address _).1.trans (ite_self 0).symm, (address _).2⟩
  | setReturnObject b =>
    obtain rfl := Option.some.inj sets
    rw [perform, Reaction.effects_map, setReturnObject_of_handle returns result,
      lent_of_handle returns]
    by_cases same : previous = b
    · simp only [if_pos same]
      exact ⟨rfl, rfl⟩
    · have other := address b
      rw [if_neg same] at other
      simp only [if_neg same, Reaction.after, Effect.gained_append, Effect.lost_append, other.1,
        other.2, type.gained_addRef, ScriptType.lost_addRef]
      exact ⟨rfl, Nat.zero_add _⟩
  | _ => cases sets

/-! ## Handles and objects that are handed over -/

/-- Whether every object that is returned without being given away is live at that time. -/
def LendsLive (f : Frame) (s : Store) : List Operation → Prop
  | [] => True
  | op :: ops =>
    (∀ b ∈ f.lent op, b = .null ∨ 0 < s.references b) ∧
      (f.perform op).frame.LendsLive (s.applyAll (f.perform op).effects) ops

/-- One operation: what the slot gets is handed over or counted, and what it loses is given up. A
handle whose address is there already is lost. -/
theorem balance_perform_returned (type : t.CountsObjects)
    (returns : f.signature.returns = .handle t auto) (result : f.result = .handle previous)
    (hands : op.HandsOver) :
    ∃ a, op.returned? = some a ∧ ∀ n,
      Effect.gained n (f.perform op).effects + (op.handed.map Handle.address).count (.object n)
          + [previous].count (.object n) =
        Effect.lost n (f.perform op).effects
          + ((op.handed.map Handle.address).filter (· = previous)).count (.object n)
          + [a].count (.object n) := by
  cases op with
  | setReturnHandle h =>
    have sets : (Operation.setReturnHandle h).returned? = some (Handle.addressOf h) := rfl
    refine ⟨Handle.addressOf h, sets, fun n ↦ ?_⟩
    have counts := counts_perform_returned type returns result sets n
    have address : (h.toList.map Handle.address).count (.object n) =
        [Handle.addressOf h].count (.object n) := by
      cases h <;> rfl
    rw [counts.1, counts.2, Operation.handed, Operation.filter_handed]
    by_cases same : previous = Handle.addressOf h
    · simp only [if_pos same]
      rw [same]
    · simp only [if_neg same, address, lent, List.count_nil]
      omega
  | setReturnObject b =>
    have sets : (Operation.setReturnObject b).returned? = some b := rfl
    refine ⟨b, sets, fun n ↦ ?_⟩
    have counts := counts_perform_returned type returns result sets n
    rw [counts.1, counts.2, lent_of_handle returns]
    by_cases same : previous = b
    · simp [same, Operation.handed]
    · simp [same, Operation.handed, Nat.add_comm]
  | _ => exact hands.elim

/-- A store can afford to replace a counted address by one that is handed over or is live. -/
private theorem affords_perform_returned (type : t.CountsObjects)
    (returns : f.signature.returns = .handle t auto) (result : f.result = .handle previous)
    (sets : op.returned? = some a) {s : Store}
    (owned : ∀ n, [previous].count (.object n) ≤ s.references (.object n))
    (live : ∀ b ∈ f.lent op, b = .null ∨ 0 < s.references b) :
    s.Affords (f.perform op).effects := by
  intro n
  have counts := counts_perform_returned type returns result sets n
  have enough := owned n
  rw [counts.1, counts.2]
  by_cases same : previous = a
  · simp [same]
  · rw [if_neg same, if_neg same]
    refine ⟨enough, fun taken ↦ ?_⟩
    -- the one object that is counted is the new one, and the one that is given up is another
    have there : .object n ∈ f.lent op := List.count_pos_iff.mp taken
    obtain rfl := Option.some.inj (sets.symm.trans (returned?_of_mem_lent there))
    rw [List.count_singleton, if_neg (by simpa using same)]
    exact (live _ there).resolve_left Address.noConfusion

/-- During a call, everything that is handed over is in the slot afterwards or has been given up,
but for the handles whose address was the current one. -/
theorem references_run_returned (type : t.CountsObjects)
    (returns : f.signature.returns = .handle t auto) (result : f.result = .handle previous)
    {ops : List Operation} (hands : ∀ op ∈ ops, op.HandsOver) {s : Store}
    (owned : ∀ n, [previous].count (.object n) + (Operation.given ops).count (.object n) ≤
      s.references (.object n))
    (live : f.LendsLive s ops) :
    ∃ last, (f.run ops).frame = { f with result := .handle last } ∧ ∀ n,
      (s.applyAll (f.run ops).effects).references (.object n)
          + (Operation.given ops).count (.object n) + [previous].count (.object n) =
        s.references (.object n) + (Operation.restated previous ops).count (.object n)
          + [last].count (.object n) := by
  induction ops generalizing f s previous with
  | nil =>
    refine ⟨previous, ?_, fun n ↦ rfl⟩
    rw [← result]
    rfl
  | cons op ops ih =>
    obtain ⟨now, later⟩ := live
    obtain ⟨a, sets, balance⟩ :=
      balance_perform_returned type returns result (hands op List.mem_cons_self)
    have affords := affords_perform_returned type returns result sets
      (fun n ↦ Nat.le_trans (Nat.le_add_right _ _) (owned n)) now
    have counts := Store.references_applyAll affords
    have frame := frame_perform_returned returns result sets
    -- the handles that come later are still counted, and so is what the slot has now
    have enough (n : Nat) : [a].count (.object n) + (Operation.given ops).count (.object n) ≤
        (s.applyAll (f.perform op).effects).references (.object n) := by
      have before := owned n
      have step := balance n
      have after := counts n
      rw [Operation.given_cons, List.count_append] at before
      omega
    have returns' : (f.perform op).frame.signature.returns = .handle t auto := by
      rw [frame, returns]
    have result' : (f.perform op).frame.result = .handle a := by rw [frame]
    obtain ⟨last, there, rest⟩ := ih returns' result'
      (fun op' h ↦ hands op' (List.mem_cons_of_mem op h)) enough later
    refine ⟨last, by rw [frame_run_cons, there, frame], fun n ↦ ?_⟩
    have step := balance n
    have after := counts n
    have whole := rest n
    have both : s.applyAll (f.run (op :: ops)).effects =
        (s.applyAll (f.perform op).effects).applyAll ((f.perform op).frame.run ops).effects :=
      Store.applyAll_append s _ _
    rw [both, Operation.given_cons, Operation.restated, sets, Option.getD_some, List.count_append,
      List.count_append]
    omega

private theorem lost_abandon_of_handle (type : t.CountsObjects)
    (returns : f.signature.returns = .handle t auto) (result : f.result = .handle previous)
    (quiet : f.exception = none) (n : Nat) :
    Effect.lost n f.abandon =
      Effect.lost n (f.unreleased.flatMap fun (t, a) ↦ t.release a)
        + [previous].count (.object n) := by
  rw [lost_abandon, discardResult, hasException, quiet, result, returns]
  exact congrArg (_ + ·) (type.lost_release previous n)

private theorem finish_of_handle (returns : f.signature.returns = .handle t auto)
    (result : f.result = .handle previous) (quiet : f.exception = none) :
    f.finish.1 = .ok (.returned (.handle (Handle.adopt? t previous))) := by
  change f.outcome.1 = _
  rw [outcome, quiet, result, returns]

/-- The references to an object once native code has returned, and the caller has discarded what it
got. -/
def referencesAfter (f : Frame) (s : Store) (ops : List Operation) (n : Nat) : Nat :=
  (s.applyAll ((f.run ops).effects ++ (f.run ops).frame.finishAndDiscard)).references (.object n)

/-- **Plain handle returns.** Every reference that was handed over has been given up in the end, but
for the handles that were set while their address was there already. Each of those leaves a
reference behind that nobody owns. -/
theorem references_handed_over {ops : List Operation} {s : Store} (type : t.CountsObjects)
    (returns : f.signature.returns = .handle t false) (result : f.result = .handle previous)
    (quiet : f.exception = none) (hands : ∀ op ∈ ops, op.HandsOver)
    (owned : ∀ n, Effect.lost n f.abandon + (Operation.given ops).count (.object n) ≤
      s.references (.object n))
    (live : f.LendsLive s ops) :
    (∃ last, (f.run ops).frame.finish.1 =
        .ok (.returned (.handle (Handle.adopt? t last)))) ∧
      (∀ n, f.referencesAfter s ops n + (Operation.given ops).count (.object n)
          + Effect.lost n f.abandon =
        s.references (.object n) + (Operation.restated previous ops).count (.object n)) ∧
      ((∀ n, f.referencesAfter s ops n + (Operation.given ops).count (.object n)
          + Effect.lost n f.abandon = s.references (.object n)) ↔
        ∀ n, .object n ∉ Operation.restated previous ops) := by
  have own := lost_abandon_of_handle type returns result quiet
  have enough (n : Nat) : [previous].count (.object n) + (Operation.given ops).count (.object n) ≤
      s.references (.object n) := by
    have before := owned n
    rw [own n] at before
    omega
  obtain ⟨last, frame, during⟩ :=
    references_run_returned type returns result hands enough live
  have returns' : (f.run ops).frame.signature.returns = .handle t false := by rw [frame, returns]
  have result' : (f.run ops).frame.result = .handle last := by rw [frame]
  have quiet' : (f.run ops).frame.exception = none := by rw [frame, quiet]
  have account (n : Nat) : f.referencesAfter s ops n + (Operation.given ops).count (.object n)
      + Effect.lost n f.abandon =
      s.references (.object n) + (Operation.restated previous ops).count (.object n) := by
    have none : (f.run ops).frame.autoTaken = [] := by rw [autoTaken, quiet', result', returns']
    have same : (f.run ops).frame.unreleased = f.unreleased := by
      rw [frame]
      rfl
    have before := owned n
    have after := during n
    rw [own n] at before
    -- no reference is taken at the end, so that discarding the outcome is abandoning the frame
    rw [referencesAfter, Store.applyAll_append, references_finishAndDiscard_of_nil none,
      Store.references_applyAll_of_gained_eq_zero (gained_abandon _ n),
      lost_abandon_of_handle type returns' result' quiet', own n, same]
    omega
  refine ⟨⟨last, finish_of_handle returns' result' quiet'⟩, account, fun h n there ↦ ?_,
    fun h n ↦ ?_⟩
  · have equal := h n
    have some_lost := List.count_pos_iff.mpr there
    rw [account n] at equal
    omega
  · rw [account n, List.count_eq_zero.mpr (h n), Nat.add_zero]

/-- `Node@ get()`. -/
def get : Signature := { find with name := "get", returns := .handle (.counted "Node") false }

/-- A new call of `get`. -/
def getting : Frame := { finding with signature := get }

/-- A handle to the one object that there is. -/
def nodeHandle : Handle := ⟨.counted "Node", .object 0⟩

/-- A call that returns an object without giving it away, and then a handle to the same object. -/
def restating : List Operation :=
  [.setReturnObject (.object 0), .setReturnHandle (some nodeHandle)]

/-- Of two references one is handed over in that call, and both are left. -/
theorem references_handed_over_restating : getting.referencesAfter oneNode restating 0 = 2 := by
  have counted : (ScriptType.counted "Node").CountsObjects := ⟨"Node", rfl⟩
  have hands : ∀ op ∈ restating, op.HandsOver := by
    simp [restating, Operation.HandsOver]
  have owned (n : Nat) : Effect.lost n getting.abandon
      + (Operation.given restating).count (.object n) ≤ oneNode.references (.object n) := by
    have once : Operation.given restating = [.object 0] := rfl
    have empty : getting.unreleased = [] := rfl
    rw [lost_abandon_of_handle counted rfl rfl rfl, references_oneNode, once, empty]
    cases n <;> simp
  have live : getting.LendsLive oneNode restating := by
    refine ⟨fun b there ↦ .inr ?_, fun b there ↦ absurd there List.not_mem_nil, trivial⟩
    obtain rfl : b = .object 0 := List.mem_singleton.mp there
    rw [references_oneNode]
    decide
  obtain ⟨-, account, -⟩ := references_handed_over counted rfl rfl rfl hands owned live
  have balance : getting.referencesAfter oneNode restating 0 + 1 = 2 + 1 := account 0
  exact Nat.add_right_cancel balance

/-- Two handles to one object, with the only references to it: once both have been returned and the
call is over, one of the references is left. -/
theorem restated_handle_is_left :
    (construct 0 get none [] .strict).1 = .ok getting ∧
      oneNode.references (.object 0) = 2 ∧
      (Operation.given [.setReturnHandle (some nodeHandle),
        .setReturnHandle (some nodeHandle)]).count (.object 0) = 2 ∧
      getting.referencesAfter oneNode
        [.setReturnHandle (some nodeHandle), .setReturnHandle (some nodeHandle)] 0 = 1 := by
  decide

/-! ## Automatic handles -/

/-- The references to an object once native code has returned, and the caller has what it got. -/
def referencesReturned (f : Frame) (s : Store) (ops : List Operation) (n : Nat) : Nat :=
  (s.applyAll ((f.run ops).effects ++ (f.run ops).frame.finish.2)).references (.object n)

/-- Setting addresses one after another takes no references, and gives one up for every address that
is replaced by another one. -/
private theorem counts_run_setReturnAddress (type : t.CountsObjects)
    (returns : f.signature.returns = .handle t auto) (result : f.result = .handle previous)
    (as : List Address) :
    (f.run (as.map .setReturnAddress)).frame = { f with result := .handle (as.getLastD previous) } ∧
      ∀ n, Effect.gained n (f.run (as.map .setReturnAddress)).effects = 0 ∧
        Effect.lost n (f.run (as.map .setReturnAddress)).effects =
          (Operation.overwritten previous as).count (.object n) := by
  induction as generalizing f previous with
  | nil =>
    refine ⟨?_, fun n ↦ ⟨rfl, rfl⟩⟩
    rw [List.getLastD_nil, ← result]
    rfl
  | cons a as ih =>
    have sets : (Operation.setReturnAddress a).returned? = some a := rfl
    have frame := frame_perform_returned returns result sets
    have counts := counts_perform_returned type returns result sets
    have returns' : (f.perform (.setReturnAddress a)).frame.signature.returns = .handle t auto := by
      rw [frame, returns]
    have result' : (f.perform (.setReturnAddress a)).frame.result = .handle a := by rw [frame]
    obtain ⟨there, rest⟩ := ih returns' result'
    rw [List.getLastD_cons, List.map_cons]
    refine ⟨by rw [frame_run_cons, there, frame], fun n ↦ ?_⟩
    change Effect.gained n (_ ++ _) = 0 ∧ Effect.lost n (_ ++ _) = _
    rw [Effect.gained_append, Effect.lost_append, (rest n).1, (rest n).2, (counts n).1,
      (counts n).2, Operation.overwritten, List.count_append]
    split <;> exact ⟨rfl, rfl⟩

theorem references_finish_of_auto (type : t.CountsObjects)
    (returns : f.signature.returns = .handle t true) (result : f.result = .handle previous)
    (quiet : f.exception = none) {s : Store} {n : Nat}
    (live : previous = .object n → ∃ k, s.tenure? n = some (.counted k)) :
    (s.applyAll f.finish.2).references (.object n) =
      s.references (.object n) + [previous].count (.object n)
        - Effect.lost n (f.unreleased.flatMap fun (t, a) ↦ t.release a) := by
  have effects : f.finish.2 =
      t.addRef previous ++ { f with result := .void, exception := none }.abandon := by
    have taken : f.autoTaken = t.addRef previous := by rw [autoTaken, quiet, result, returns]
    rw [← taken, ← effects_outcome]
    rfl
  rw [effects, Store.applyAll_append,
    Store.references_applyAll_of_gained_eq_zero (gained_abandon _ n), type.references_addRef live,
    lost_abandon, unreleased_settled]
  rfl

/-- **Automatic handle returns.** The last address has one reference more in the end, and the caller
a handle to it. Every address that was replaced has been released, although the reference was native
code's own. -/
theorem references_auto_returned {as : List Address} {s : Store} (type : t.CountsObjects)
    (returns : f.signature.returns = .handle t true) (result : f.result = .handle .null)
    (quiet : f.exception = none)
    (owned : ∀ n, Effect.lost n f.abandon ≤ s.references (.object n))
    (kept : ∀ n, .object n ∈ as → Effect.lost n f.abandon < s.references (.object n)) :
    (f.run (as.map .setReturnAddress)).frame.finish.1 =
        .ok (.returned (.handle (Handle.adopt? t (as.getLastD .null)))) ∧
      (∀ n, f.referencesReturned s (as.map .setReturnAddress) n =
        s.references (.object n) - (Operation.overwritten .null as).count (.object n)
          + [as.getLastD .null].count (.object n) - Effect.lost n f.abandon) ∧
      ((∀ n, f.referencesReturned s (as.map .setReturnAddress) n + Effect.lost n f.abandon =
          s.references (.object n) + [as.getLastD .null].count (.object n)) ↔
        ∀ n, .object n ∉ Operation.overwritten .null as) := by
  obtain ⟨frame, during⟩ := counts_run_setReturnAddress type returns result as
  have own (n : Nat) : Effect.lost n f.abandon =
      Effect.lost n (f.unreleased.flatMap fun (t, a) ↦ t.release a) :=
    lost_abandon_of_handle type returns result quiet n
  have returns' : (f.run (as.map .setReturnAddress)).frame.signature.returns = .handle t true := by
    rw [frame, returns]
  have result' : (f.run (as.map .setReturnAddress)).frame.result =
      .handle (as.getLastD .null) := by
    rw [frame]
  have quiet' : (f.run (as.map .setReturnAddress)).frame.exception = none := by rw [frame, quiet]
  have account (n : Nat) : f.referencesReturned s (as.map .setReturnAddress) n =
      s.references (.object n) - (Operation.overwritten .null as).count (.object n)
        + [as.getLastD .null].count (.object n) - Effect.lost n f.abandon := by
    -- even if the last object has lost all of its references, it is still one that is counted
    have live (last : as.getLastD .null = .object n) : ∃ k,
        (s.applyAll (f.run (as.map .setReturnAddress)).effects).tenure? n = some (.counted k) := by
      have there : .object n ∈ as := by
        have either : as.getLastD .null ∈ Address.null :: as := List.getLastD_mem_cons
        rw [last] at either
        exact (List.mem_cons.mp either).resolve_left Address.noConfusion
      exact Store.exists_counted_applyAll
        (Store.exists_counted_of_pos (Nat.zero_lt_of_lt (kept n there))) _
    have same : (f.run (as.map .setReturnAddress)).frame.unreleased = f.unreleased := by
      rw [frame]
      rfl
    rw [referencesReturned, Store.applyAll_append,
      references_finish_of_auto type returns' result' quiet' live, same, ← own,
      Store.references_applyAll_of_gained_eq_zero (during n).1, (during n).2]
  refine ⟨finish_of_handle returns' result' quiet', account, fun h n there ↦ ?_, fun h n ↦ ?_⟩
  · have equal := h n
    have some_lost := List.count_pos_iff.mpr there
    have enough := kept n
      ((Operation.mem_of_mem_overwritten there).resolve_left Address.noConfusion)
    rw [account n] at equal
    omega
  · have enough := owned n
    rw [account n, List.count_eq_zero.mpr (h n)]
    omega

/-- One object is set twice by a call with an automatic handle return, and gains one reference. -/
theorem references_auto_returned_twice :
    finding.referencesReturned oneNode [.setReturnAddress (.object 0),
      .setReturnAddress (.object 0)] 0 = 3 := by
  have counted : (ScriptType.counted "Node").CountsObjects := ⟨"Node", rfl⟩
  have own (n : Nat) : Effect.lost n finding.abandon = 0 :=
    (lost_abandon_of_handle counted rfl rfl rfl n).trans (Nat.zero_add _)
  have owned (n : Nat) : Effect.lost n finding.abandon ≤ oneNode.references (.object n) := by
    rw [own]
    exact Nat.zero_le _
  have kept (n : Nat) (there : .object n ∈ [Address.object 0, .object 0]) :
      Effect.lost n finding.abandon < oneNode.references (.object n) := by
    obtain rfl : n = 0 := by simpa using there
    rw [own, references_oneNode]
    decide
  obtain ⟨-, account, -⟩ := references_auto_returned counted rfl rfl rfl owned kept
  exact account 0

/-- Two objects, with two references each. -/
def twoNodes : Store := (oneNode.newObject "node" (.counted 2) (.word 2)).2

/-- One object is set after the other: the first one loses a reference that is native code's. -/
theorem overwritten_is_released :
    (construct 0 find none [] .strict).1 = .ok finding ∧
      twoNodes.references (.object 0) = 2 ∧ twoNodes.references (.object 1) = 2 ∧
      finding.referencesReturned twoNodes [.setReturnAddress (.object 0),
        .setReturnAddress (.object 1)] 0 = 1 ∧
      finding.referencesReturned twoNodes [.setReturnAddress (.object 0),
        .setReturnAddress (.object 1)] 1 = 3 := by
  decide

/-! ## Objects that are lent for an automatic return -/

private theorem returned?_setReturnObject (b : Address) :
    (Operation.setReturnObject b).returned? = some b := rfl

private theorem frame_run_setReturnObject (returns : f.signature.returns = .handle t auto)
    (result : f.result = .handle previous) (as : List Address) :
    (f.run (as.map .setReturnObject)).frame =
      { f with result := .handle (as.getLastD previous) } := by
  induction as generalizing f previous with
  | nil =>
    rw [List.getLastD_nil, ← result]
    rfl
  | cons a as ih =>
    have frame := frame_perform_returned returns result (returned?_setReturnObject a)
    have returns' : (f.perform (.setReturnObject a)).frame.signature.returns = .handle t auto := by
      rw [frame, returns]
    have result' : (f.perform (.setReturnObject a)).frame.result = .handle a := by rw [frame]
    rw [List.map_cons, frame_run_cons, ih returns' result', frame, List.getLastD_cons]

private theorem given_setReturnObject (as : List Address) :
    Operation.given (as.map .setReturnObject) = [] := by
  rw [Operation.given, List.flatMap_map]
  exact List.flatMap_eq_nil_iff.mpr fun _ _ ↦ rfl

private theorem restated_setReturnObject (as : List Address) (current : Address) :
    Operation.restated current (as.map .setReturnObject) = [] := by
  induction as generalizing current with
  | nil => rfl
  | cons a as ih => exact ih a

private theorem references_run_setReturnObject (type : t.CountsObjects)
    (returns : f.signature.returns = .handle t auto) (result : f.result = .handle .null)
    {as : List Address} {s : Store} (live : f.LendsLive s (as.map .setReturnObject)) (n : Nat) :
    (s.applyAll (f.run (as.map .setReturnObject)).effects).references (.object n) =
      s.references (.object n) + [as.getLastD .null].count (.object n) := by
  have hands : ∀ op ∈ as.map Operation.setReturnObject, op.HandsOver := by
    intro op there
    obtain ⟨a, -, rfl⟩ := List.mem_map.mp there
    trivial
  have owned (m : Nat) : [Address.null].count (.object m)
      + (Operation.given (as.map .setReturnObject)).count (.object m) ≤
        s.references (.object m) := by
    rw [given_setReturnObject]
    exact Nat.zero_le _
  obtain ⟨last, frame, counts⟩ := references_run_returned type returns result hands owned live
  have same : last = as.getLastD .null := by
    rw [frame_run_setReturnObject returns result] at frame
    exact (ReturnSlot.handle.inj (congrArg Frame.result frame)).symm
  have account := counts n
  rw [given_setReturnObject, restated_setReturnObject, same] at account
  exact account

private theorem lost_filledAll {policy : Policy} {number index : Nat} {ps : List Param}
    {args : List Argument} {slots : List Slot} {effects : List Effect}
    (h : Slot.FilledAll policy number index ps args slots effects) (n : Nat) :
    Effect.lost n effects = 0 := by
  induction h with
  | nil => rfl
  | cons head tail ih =>
    rw [Effect.lost_append, ih]
    cases head with
    | handle =>
      split
      · exact ScriptType.lost_addRef _ _ n
      · rfl
    | _ => rfl

/-- A frame with an automatic handle in its return slot adds the reference that it takes, and gives
up what it owns of its arguments. The handle that the caller gets is that reference. -/
theorem references_finish_lent (type : t.CountsObjects)
    (returns : f.signature.returns = .handle t true) (result : f.result = .handle previous)
    (quiet : f.exception = none) {s : Store}
    (owned : ∀ n, Effect.lost n f.abandon ≤ s.references (.object n)) (n : Nat) :
    (s.applyAll f.finish.2).references (.object n) + Effect.lost n f.abandon =
        s.references (.object n) + 2 * [previous].count (.object n) ∧
      (s.applyAll f.finishAndDiscard).references (.object n) + Effect.lost n f.abandon =
        s.references (.object n) + [previous].count (.object n) := by
  have counts (u : ScriptType) (auto : Bool) (h : f.signature.returns = .handle u auto) :
      u.CountsObjects := by
    rw [returns] at h
    cases h
    exact type
  have own := lost_abandon_of_handle type returns result quiet n
  have enough := owned n
  have live (there : previous = .object n) : ∃ k, s.tenure? n = some (.counted k) := by
    have one : [previous].count (.object n) = 1 := by rw [there, List.count_singleton_self]
    exact ⟨_, Store.exists_counted_of_pos (by omega)⟩
  have taken : f.autoTaken = t.addRef previous := by rw [autoTaken, quiet, result, returns]
  have finished := references_finish_of_auto type returns result quiet live
  have discarded := references_finishAndDiscard counts owned n
  rw [taken, type.gained_addRef,
    Store.references_applyAll_of_gained_eq_zero (gained_abandon f n)] at discarded
  omega

/-- One object after another is lent to a frame whose return slot was empty. -/
private theorem references_lent (type : t.CountsObjects)
    (returns : f.signature.returns = .handle t true) (result : f.result = .handle .null)
    (quiet : f.exception = none) {as : List Address}
    {s : Store} (owned : ∀ n, Effect.lost n f.abandon ≤ s.references (.object n))
    (live : f.LendsLive s (as.map .setReturnObject)) (n : Nat) :
    f.referencesReturned s (as.map .setReturnObject) n + Effect.lost n f.abandon =
        s.references (.object n) + 2 * [as.getLastD .null].count (.object n) ∧
      f.referencesAfter s (as.map .setReturnObject) n + Effect.lost n f.abandon =
        s.references (.object n) + [as.getLastD .null].count (.object n) := by
  have frame := frame_run_setReturnObject returns result as
  have during := references_run_setReturnObject type returns result live
  have returns' : (f.run (as.map .setReturnObject)).frame.signature.returns = .handle t true := by
    rw [frame, returns]
  have result' : (f.run (as.map .setReturnObject)).frame.result =
      .handle (as.getLastD .null) := by
    rw [frame]
  have quiet' : (f.run (as.map .setReturnObject)).frame.exception = none := by rw [frame, quiet]
  -- the last object is in the slot at the end, and it has been counted once by then
  have own (m : Nat) : Effect.lost m (f.run (as.map .setReturnObject)).frame.abandon =
      Effect.lost m f.abandon + [as.getLastD .null].count (.object m) := by
    have same : (f.run (as.map .setReturnObject)).frame.unreleased = f.unreleased := by
      rw [frame]
      rfl
    rw [lost_abandon_of_handle type returns' result' quiet',
      lost_abandon_of_handle type returns result quiet, same]
    rfl
  have enough (m : Nat) : Effect.lost m (f.run (as.map .setReturnObject)).frame.abandon ≤
      (s.applyAll (f.run (as.map .setReturnObject)).effects).references (.object m) := by
    rw [own, during]
    exact Nat.add_le_add_right (owned m) _
  obtain ⟨kept, discarded⟩ := references_finish_lent type returns' result' quiet' enough n
  rw [own, during] at kept discarded
  rw [referencesReturned, referencesAfter, Store.applyAll_append, Store.applyAll_append]
  omega

private theorem references_construct {number : Nat} {sig : Signature} {receiver : Option Address}
    {args : List Argument} {policy : Policy} {entry : List Effect}
    (built : construct number sig receiver args policy = (.ok f, entry)) {s : Store}
    (affords : s.Affords entry) (n : Nat) :
    (s.applyAll entry).references (.object n) =
      s.references (.object n) + Effect.gained n entry := by
  have accepted : (construct number sig receiver args policy).1 = .ok f := by rw [built]
  obtain ⟨slots, effects, filled, -, taken⟩ := exists_filledAll_of_construct accepted
  have nothing : Effect.lost n entry = 0 := by
    rw [built] at taken
    change entry = _ at taken
    rw [taken, Effect.lost_append, lost_filledAll filled]
    rfl
  have counts := Store.references_applyAll affords n
  rwa [nothing] at counts

/-- **Objects that are lent for an automatic return.** The last object has two references more in
the end, and the handle that the caller gets is only one of them. -/
theorem references_lent_returned {number : Nat} {sig : Signature} {receiver : Option Address}
    {args : List Argument} {policy : Policy} {entry : List Effect} {as : List Address} {s : Store}
    (built : construct number sig receiver args policy = (.ok f, entry)) (type : t.CountsObjects)
    (returns : sig.returns = .handle t true) (affords : s.Affords entry)
    (owned : ∀ n, Effect.lost n f.abandon ≤ (s.applyAll entry).references (.object n))
    (live : f.LendsLive (s.applyAll entry) (as.map .setReturnObject)) :
    (f.run (as.map .setReturnObject)).frame.finish.1 =
        .ok (.returned (.handle (Handle.adopt? t (as.getLastD .null)))) ∧
      (∀ n, f.referencesReturned (s.applyAll entry) (as.map .setReturnObject) n
          + Effect.lost n f.abandon =
        s.references (.object n) + Effect.gained n entry
          + 2 * [as.getLastD .null].count (.object n)) ∧
      (∀ n, f.referencesAfter (s.applyAll entry) (as.map .setReturnObject) n
          + Effect.lost n f.abandon =
        s.references (.object n) + Effect.gained n entry
          + [as.getLastD .null].count (.object n)) ∧
      ((∀ n, f.referencesAfter (s.applyAll entry) (as.map .setReturnObject) n
          + Effect.lost n f.abandon =
        s.references (.object n) + Effect.gained n entry) ↔
        ∀ n, as.getLastD .null ≠ .object n) := by
  have entered := references_construct built affords
  have accepted : (construct number sig receiver args policy).1 = .ok f := by rw [built]
  obtain ⟨slots, effects, -, hf, -⟩ := exists_filledAll_of_construct accepted
  have returns' : f.signature.returns = .handle t true := by rw [hf, returns]
  have result : f.result = .handle .null := by
    rw [hf, returns]
    rfl
  have quiet : f.exception = none := by rw [hf]
  have account := references_lent type returns' result quiet owned live
  have after (n : Nat) : f.referencesAfter (s.applyAll entry) (as.map .setReturnObject) n
      + Effect.lost n f.abandon = s.references (.object n) + Effect.gained n entry
        + [as.getLastD .null].count (.object n) := by
    rw [(account n).2, entered]
  refine ⟨?_, ?_, after, ?_⟩
  · rw [frame_run_setReturnObject returns' result]
    exact finish_of_handle returns' rfl quiet
  · intro n
    rw [(account n).1, entered]
  · constructor
    · intro neutral n last
      have equal := neutral n
      rw [after n, last, List.count_singleton_self] at equal
      omega
    · intro other n
      rw [after n, List.count_eq_zero.mpr (by simpa using Ne.symm (other n)), Nat.add_zero]

/-- A call of `exchange` with two objects. -/
def exchangingTwo : Frame :=
  { exchanging with slots := [.handle (.object 0) false, .handle (.object 1) false,
      .handle .null false] }

/-- What that call takes for its arguments. -/
def exchangingEntry : List Effect :=
  [.addRef (.counted "Node") (.object 1), .log (.frameConstruct "exchange" 3)]

private theorem references_twoNodes (n : Nat) :
    twoNodes.references (.object n) = if n < 2 then 2 else 0 := by
  have size : oneNode.objects.length = 1 := rfl
  rw [twoNodes, Store.references_newObject, references_oneNode, size]
  rcases n with _ | _ | n <;> simp

/-- A call is given the second one of its objects only as a loan, and returns the first one without
giving it away. The caller's reference to the first one is used up, but it still has two. -/
theorem references_lent_returned_exchanging :
    exchangingTwo.referencesAfter (twoNodes.applyAll exchangingEntry)
        ([.object 1, .null, .object 0].map .setReturnObject) 0 = 2 := by
  have built : construct 0 exchange none [.handle (.object 0), .handle (.object 1), .handle .null]
      .strict = (.ok exchangingTwo, exchangingEntry) := rfl
  have counted : (ScriptType.counted "Node").CountsObjects := ⟨"Node", rfl⟩
  have gained (n : Nat) : Effect.gained n exchangingEntry = if n = 1 then 1 else 0 := by
    simp [exchangingEntry, Effect.gains, ScriptType.counted, ScriptType.reference, eq_comm]
  have affords : twoNodes.Affords exchangingEntry := by
    intro n
    have lost : Effect.lost n exchangingEntry = 0 := rfl
    rw [references_twoNodes, gained, lost]
    rcases n with _ | _ | n <;> simp
  have lost (n : Nat) : Effect.lost n exchangingTwo.abandon = if n < 2 then 1 else 0 := by
    have released : exchangingTwo.unreleased =
        [(.counted "Node", .object 0), (.counted "Node", .object 1)] := rfl
    rw [lost_abandon_of_handle counted rfl rfl rfl, released]
    rcases n with _ | _ | n <;>
      simp [counted.lost_release]
  have owned (n : Nat) : Effect.lost n exchangingTwo.abandon ≤
      (twoNodes.applyAll exchangingEntry).references (.object n) := by
    rw [lost, references_construct built affords, references_twoNodes]
    split <;> omega
  have live : exchangingTwo.LendsLive (twoNodes.applyAll exchangingEntry)
      ([.object 1, .null, .object 0].map .setReturnObject) := by
    refine ⟨?_, ?_, ?_, trivial⟩ <;> intro b there <;> obtain rfl := List.mem_singleton.mp there
    · exact .inr (by decide)
    · exact .inl rfl
    · exact .inr (by decide)
  obtain ⟨-, -, after, -⟩ := references_lent_returned built counted rfl affords owned live
  have account := after 0
  rw [lost, references_twoNodes, gained] at account
  exact Nat.add_right_cancel account

/-- An object with two references is lent to an automatic return: once the returned handle has been
discarded, it has three. -/
theorem lent_object_is_counted_twice :
    (construct 0 find none [] .strict).1 = .ok finding ∧
      oneNode.references (.object 0) = 2 ∧
      finding.referencesAfter oneNode [.setReturnObject (.object 0)] 0 = 3 := by
  decide

end Frame

end CallingConvention
