import CallingConvention.Proofs.ReturnedHandle
import Mathlib.Data.List.SplitBy

/-!
# Runs of a returned handle

Three operations share the return slot for handles, and what each of them does depends on the
address that is there. Over a whole history of them there is less to say. Cut it into maximal runs
that return the same address, the slot before the history being a run of null
(`Operation.returnRuns`). Then hooks run only where a run gives way to the next one: the object of
the new run is counted, if its first operation does not give the object away, and after that the
address of the old run is given up with a warning (`Operation.handovers`).
-/

namespace CallingConvention

variable {op next : Operation} {ops : List Operation}

namespace Operation

/-! ## Runs -/

/-- Operations cut into maximal runs that return the same address. -/
def runs (ops : List Operation) : List (List Operation) :=
  ops.splitBy fun op next ↦ op.returned? = next.returned?

/-- The runs of a history of returns. The slot holds null before it, which counts as a run. -/
def returnRuns (ops : List Operation) : List (List Operation) :=
  runs (.setReturnAddress .null :: ops)

/-- The address that a run returns. -/
def runAddress (run : List Operation) : Address := (run.head?.bind returned?).getD .null

/-- Whether a run begins with an object that is not given away. -/
def beginsLent : List Operation → Bool
  | .setReturnObject _ :: _ => true
  | _ => false

/-- The address that is returned last. -/
def lastReturned : Address → List Operation → Address
  | current, [] => current
  | current, op :: ops => lastReturned (op.returned?.getD current) ops

private theorem runAddress_cons {a : Address} (sets : op.returned? = some a)
    (same : List Operation) : runAddress (op :: same) = a := by
  rw [runAddress, List.head?_cons, Option.bind_some, sets, Option.getD_some]

private theorem exists_runs_cons (op : Operation) (ops : List Operation) :
    ∃ same later, runs (op :: ops) = (op :: same) :: later := by
  have whole : (runs (op :: ops)).flatten = op :: ops := List.flatten_splitBy ..
  have full : [] ∉ runs (op :: ops) := List.nil_notMem_splitBy _ _
  cases cut : runs (op :: ops) with
  | nil => simp [cut] at whole
  | cons run later =>
    cases run with
    | nil => simp [cut] at full
    | cons first same =>
      obtain ⟨rfl, -⟩ : first = op ∧ _ := by simpa [cut] using whole
      exact ⟨same, later, rfl⟩

/-- An operation that returns another address than the next one is a run of its own. -/
private theorem runs_cons_cons_of_ne (h : op.returned? ≠ next.returned?) :
    runs (op :: next :: ops) = [op] :: runs (next :: ops) :=
  List.splitBy_append_cons (l := [op]) ops (by simpa using h)

/-- An operation that returns the same address as the next one joins its run. -/
private theorem runs_cons_cons_of_eq (h : op.returned? = next.returned?) (ops : List Operation) :
    ∃ same later, runs (next :: ops) = (next :: same) :: later ∧
      runs (op :: next :: ops) = (op :: next :: same) :: later := by
  obtain ⟨same, later, cut⟩ := exists_runs_cons next ops
  refine ⟨same, later, cut, List.splitBy_eq_iff.mpr ?_⟩
  obtain ⟨whole, full, alike, maximal⟩ := List.splitBy_eq_iff.mp cut
  rw [List.isChain_cons] at maximal ⊢
  refine ⟨?_, ?_, fun run there ↦ ?_, fun run there ↦ ?_, maximal.2⟩
  · rw [whole, List.flatten_cons, List.flatten_cons]
    rfl
  · simpa using full
  · rcases List.mem_cons.mp there with rfl | there
    · exact List.isChain_cons_cons.mpr ⟨decide_eq_true h, alike _ List.mem_cons_self⟩
    · exact alike run (List.mem_cons_of_mem _ there)
  · obtain ⟨_, nonempty, differ⟩ := maximal.1 run there
    exact ⟨List.cons_ne_nil _ _, nonempty, differ⟩

/-! ## What happens between runs -/

/-- What is done for an address that another one replaces. -/
def giveUp (function : String) (t : ScriptType) (a : Address) : List Effect :=
  if a.isNull then []
  else
    .log (.protocolWarning function "handle return overwritten; releasing previous") :: t.release a

/-- What is done when a run of returns begins in place of an address. -/
def handover (function : String) (t : ScriptType) (previous : Address) (run : List Operation) :
    List Effect :=
  (if beginsLent run then t.addRef (runAddress run) else []) ++ giveUp function t previous

/-- What is done for all runs but the first one, which is there already. -/
def handovers (function : String) (t : ScriptType) : List (List Operation) → List Effect
  | run :: next :: runs =>
    handover function t (runAddress run) next ++ handovers function t (next :: runs)
  | _ => []

end Operation

open Operation

namespace Frame

variable {f : Frame} {t : ScriptType} {auto : Bool} {previous a : Address}

private theorem setReturnAddress_of_handle (returns : f.signature.returns = .handle t auto)
    (result : f.result = .handle previous) (a : Address) :
    f.setReturnAddress a =
      ⟨.ok (), { f with result := .handle a },
        if previous = a then [] else giveUp f.signature.name t previous⟩ := by
  rw [setReturnAddress, result, returns, giveUp]
  by_cases same : previous = a
  · simp [same, Reaction.done]
  · by_cases null : previous = .null <;> simp [same, null, Reaction.done]

theorem perform_returned_of_eq (returns : f.signature.returns = .handle t auto)
    (result : f.result = .handle a) (sets : op.returned? = some a) :
    f.perform op = ⟨.ok .done, f, []⟩ := by
  have stored (b : Address) (same : b = a) : f.setReturnAddress b = ⟨.ok (), f, []⟩ := by
    rw [setReturnAddress_of_handle returns result, if_pos same.symm, same, ← result]
  cases op with
  | setReturnAddress b =>
    rw [perform, stored b (Option.some.inj sets)]
    rfl
  | setReturnHandle h =>
    rw [perform, setReturnHandle, result, stored _ (Option.some.inj sets)]
    rfl
  | setReturnObject b =>
    rw [perform, setReturnObject_of_handle returns result, if_pos (Option.some.inj sets).symm]
    rfl
  | _ => cases sets

theorem perform_returned_of_ne (returns : f.signature.returns = .handle t auto)
    (result : f.result = .handle previous) (sets : op.returned? = some a) (differs : previous ≠ a)
    (same : List Operation) :
    f.perform op =
      ⟨.ok .done, { f with result := .handle a },
        handover f.signature.name t previous (op :: same)⟩ := by
  have stored (b : Address) (new : b = a) :
      f.setReturnAddress b =
        ⟨.ok (), { f with result := .handle a }, giveUp f.signature.name t previous⟩ := by
    rw [setReturnAddress_of_handle returns result, new, if_neg differs]
  rw [handover, runAddress_cons sets]
  cases op with
  | setReturnAddress b =>
    rw [perform, stored b (Option.some.inj sets)]
    rfl
  | setReturnHandle h =>
    rw [perform, setReturnHandle, result, stored _ (Option.some.inj sets)]
    rfl
  | setReturnObject b =>
    obtain rfl := Option.some.inj sets
    rw [perform, setReturnObject_of_handle returns result, if_neg differs, stored b rfl]
    rfl
  | _ => cases sets

/-- A history of returns, from a slot that holds what an earlier operation returned. -/
theorem run_returned (returns : f.signature.returns = .handle t auto)
    (result : f.result = .handle previous) (before : op.returned? = some previous)
    (setters : ∀ op ∈ ops, ∃ a, op.returned? = some a) :
    f.run ops =
      ⟨ops.map fun _ ↦ .ok .done, { f with result := .handle (lastReturned previous ops) },
        handovers f.signature.name t (runs (op :: ops))⟩ := by
  induction ops generalizing f previous op with
  | nil =>
    rw [lastReturned, ← result]
    rfl
  | cons next ops ih =>
    obtain ⟨a, sets⟩ := setters next List.mem_cons_self
    have rest := fun op there ↦ setters op (List.mem_cons_of_mem next there)
    rw [run, lastReturned, sets, Option.getD_some]
    by_cases same : previous = a
    · subst same
      obtain ⟨more, later, cut, joined⟩ := runs_cons_cons_of_eq (before.trans sets.symm) ops
      have first : runAddress (op :: next :: more) = runAddress (next :: more) := by
        rw [runAddress_cons before, runAddress_cons sets]
      rw [perform_returned_of_eq returns result sets, ih returns result sets rest, joined, cut]
      cases later with
      | nil => rfl
      | cons run later => rw [handovers, handovers, first]; rfl
    · obtain ⟨more, later, cut⟩ := exists_runs_cons next ops
      have apart : op.returned? ≠ next.returned? := by rw [before, sets]; simpa using same
      rw [perform_returned_of_ne returns result sets same more, ih _ rfl sets rest,
        runs_cons_cons_of_ne apart, cut, handovers, runAddress_cons before]
      · rfl
      · exact returns

end Frame

/-! ## Hooks -/

namespace Effect

/-- The reference that is taken. -/
def addRef? : Effect → Option (ScriptType × Address)
  | addRef t a => some (t, a)
  | _ => none

/-- The reference that is given up. -/
def release? : Effect → Option (ScriptType × Address)
  | release t a => some (t, a)
  | _ => none

/-- The function that is warned about, with the warning. -/
def warning? : Effect → Option (String × String)
  | log (.protocolWarning function warning) => some (function, warning)
  | _ => none

end Effect

namespace Operation

variable {function : String} {t : ScriptType}

private theorem addRef?_handover (counted : t.isCounted = true) (previous : Address)
    (run : List Operation) :
    (handover function t previous run).filterMap Effect.addRef? =
      if beginsLent run && !(runAddress run).isNull then [(t, runAddress run)] else [] := by
  have kept : (giveUp function t previous).filterMap Effect.addRef? = [] := by
    unfold giveUp ScriptType.release
    repeat' split
    all_goals rfl
  rw [handover, List.filterMap_append, kept, List.append_nil]
  cases beginsLent run with
  | false => rfl
  | true =>
    cases null : (runAddress run).isNull with
    | false => rw [if_pos rfl, ScriptType.addRef_eq counted null]; rfl
    | true => rw [if_pos rfl, Address.isNull_iff.mp null, ScriptType.addRef_null]; rfl

private theorem filterMap_handover_of_addRef {β : Type} {g : Effect → Option β}
    (spares : ∀ t a, g (.addRef t a) = none) (previous : Address) (run : List Operation) :
    (handover function t previous run).filterMap g = (giveUp function t previous).filterMap g := by
  have lent : (t.addRef (runAddress run)).filterMap g = [] := by
    unfold ScriptType.addRef
    split
    · rfl
    · simp [spares]
  rw [handover, List.filterMap_append]
  split
  · rw [lent, List.nil_append]
  · rfl

private theorem release?_giveUp (counted : t.isCounted = true) (a : Address) :
    (giveUp function t a).filterMap Effect.release? = if a.isNull then [] else [(t, a)] := by
  rw [giveUp]
  cases null : a.isNull with
  | false => rw [if_neg Bool.false_ne_true, ScriptType.release_eq counted null]; rfl
  | true => rfl

private theorem warning?_giveUp (counted : t.isCounted = true) (a : Address) :
    (giveUp function t a).filterMap Effect.warning? =
      if a.isNull then [] else [(function, "handle return overwritten; releasing previous")] := by
  rw [giveUp]
  cases null : a.isNull with
  | false => rw [if_neg Bool.false_ne_true, ScriptType.release_eq counted null]; rfl
  | true => rfl

/-- References are taken at the beginning of runs, but not of the first one. -/
private theorem addRef?_handovers (counted : t.isCounted = true) (run : List Operation)
    (later : List (List Operation)) :
    (handovers function t (run :: later)).filterMap Effect.addRef? =
      (later.filter fun run ↦ beginsLent run && !(runAddress run).isNull).map
        fun run ↦ (t, runAddress run) := by
  induction later generalizing run with
  | nil => rfl
  | cons next later ih =>
    rw [handovers, List.filterMap_append, addRef?_handover counted, ih, List.filter_cons]
    split <;> rfl

/-- What is done once for an address that is given up happens at the end of runs, but not of the
last one. -/
private theorem filterMap_handovers {β : Type} {g : Effect → Option β} {c : Address → β}
    (spares : ∀ t a, g (.addRef t a) = none)
    (each : ∀ a, (giveUp function t a).filterMap g = if a.isNull then [] else [c a])
    (runs : List (List Operation)) :
    (handovers function t runs).filterMap g =
      (runs.dropLast.filter fun run ↦ !(runAddress run).isNull).map
        fun run ↦ c (runAddress run) := by
  induction runs with
  | nil => rfl
  | cons run runs ih =>
    cases runs with
    | nil => rfl
    | cons next later =>
      rw [handovers, List.filterMap_append, filterMap_handover_of_addRef spares, each, ih,
        List.dropLast_cons_cons, List.filter_cons]
      cases (runAddress run).isNull <;> rfl

end Operation

namespace Frame

variable {f : Frame} {t : ScriptType} {auto : Bool}

/-- **Runs of a returned handle.** Only the run that an address belongs to matters: where one run
gives way to the next, the address that is replaced is given up, and an object that is not given
away is counted. -/
theorem effects_of_runs (returns : f.signature.returns = .handle t auto)
    (result : f.result = .handle .null) (counted : t.isCounted = true)
    (setters : ∀ op ∈ ops, ∃ a, op.returned? = some a) :
    (f.run ops).replies = ops.map (fun _ ↦ .ok .done) ∧
      (f.run ops).frame = { f with result := .handle (lastReturned .null ops) } ∧
      (f.run ops).effects = handovers f.signature.name t (returnRuns ops) ∧
      (f.run ops).effects.filterMap Effect.addRef? =
        ((returnRuns ops).filter fun run ↦ beginsLent run && !(runAddress run).isNull).map
          (fun run ↦ (t, runAddress run)) ∧
      (f.run ops).effects.filterMap Effect.release? =
        ((returnRuns ops).dropLast.filter fun run ↦ !(runAddress run).isNull).map
          (fun run ↦ (t, runAddress run)) ∧
      (f.run ops).effects.filterMap Effect.warning? =
        ((returnRuns ops).dropLast.filter fun run ↦ !(runAddress run).isNull).map
          (fun _ ↦ (f.signature.name, "handle return overwritten; releasing previous")) ∧
      ∀ before op after, ops = before ++ op :: after →
        op.returned? = some (lastReturned .null before) →
          (f.run before).frame.perform op = ⟨.ok .done, (f.run before).frame, []⟩ := by
  have null : (Operation.setReturnAddress .null).returned? = some .null := rfl
  have course {ops : List Operation} (setters : ∀ op ∈ ops, ∃ a, op.returned? = some a) :=
    run_returned returns result null setters
  obtain ⟨same, later, cut⟩ :
      ∃ same later, returnRuns ops = (.setReturnAddress .null :: same) :: later :=
    exists_runs_cons _ _
  have ran : f.run ops = ⟨_, _, handovers f.signature.name t (returnRuns ops)⟩ := course setters
  refine ⟨by rw [ran], by rw [ran], by rw [ran], ?_, ?_, ?_, ?_⟩
  · rw [ran, cut, addRef?_handovers counted]
    rfl
  · rw [ran, filterMap_handovers (fun _ _ ↦ rfl) (release?_giveUp counted)]
  · rw [ran, filterMap_handovers (fun _ _ ↦ rfl) (warning?_giveUp counted)]
  · rintro before op after rfl sets
    have done : f.run before = _ :=
      course fun op there ↦ setters op (List.mem_append_left _ there)
    rw [done]
    exact perform_returned_of_eq returns rfl sets

/-- An object that is returned twice in a row, then null, then a handle to the object. -/
def threeRuns : List Operation :=
  [.setReturnObject (.object 0), .setReturnAddress (.object 0), .setReturnObject .null,
    .setReturnHandle (some nodeHandle)]

/-- The object is counted once and given up once, and it is in the slot in the end. -/
theorem effects_of_runs_getting :
    (getting.run threeRuns).effects.filterMap Effect.addRef? = [(.counted "Node", .object 0)] ∧
      (getting.run threeRuns).effects.filterMap Effect.release? =
        [(.counted "Node", .object 0)] ∧
      (getting.run threeRuns).frame.result = .handle (.object 0) := by
  have setters : ∀ op ∈ threeRuns, ∃ a, op.returned? = some a := by
    simp [threeRuns, Operation.returned?]
  have returns : getting.signature.returns = .handle (.counted "Node") false := rfl
  obtain ⟨-, last, -, taken, givenUp, -⟩ := effects_of_runs returns rfl rfl setters
  exact ⟨taken, givenUp, by rw [last]; rfl⟩

end Frame

end CallingConvention
