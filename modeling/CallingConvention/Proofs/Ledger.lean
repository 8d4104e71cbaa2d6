import CallingConvention.Proofs.Books
import CallingConvention.Proofs.Registration

/-!
# The books of a session

What is counted of calls agrees with what is told of them, and both agree with what came of the
calls (`Ledger.Balances`). Counters have 64 bits and start again at zero, so that what they show
agrees as far as words do (`Ledger.Tallies`).

A session is a sequence of things that happen (`Proceeds`). The one of them that contains others is
the call of a function: between its two ends native code runs, and what happens then is again a
sequence, on the same store and with calls of its own. So everything about sessions is shown by
induction on their nesting, with a case for each thing that can happen.

Frames can be used without a function, too. Whoever has such a frame may keep it for any time, and
their lives overlap with each other and with calls. Calls nest, and the frame of a call is built
before everything that happens in the call, and torn down after it (`Bracketed`).
-/

namespace CallingConvention

/-! ## Brackets -/

/-- Logs that are well bracketed, between frames that are used without a call to begin with and in
the end. Those are built and torn down at any time, and the frame of a call encloses what is told of
it. -/
inductive Bracketed : List String → List LogEntry → List String → Prop
  | nothing (names : List String) : Bracketed names [] names
  | append {names names' names'' : List String} {entries more : List LogEntry}
      (first : Bracketed names entries names') (later : Bracketed names' more names'') :
      Bracketed names (entries ++ more) names''
  | build (name : String) (names : List String) (arguments : Nat) :
      Bracketed names [.frameConstruct name arguments] (name :: names)
  | tearDown (before : List String) (name : String) (after : List String) (released : Nat) :
      Bracketed (before ++ name :: after) [.frameTeardown name released] (before ++ after)
  | call {names names' : List String} {entries : List LogEntry} (name : String)
      (arguments released : Nat) (returned : Bool) (inside : Bracketed names entries names') :
      Bracketed names
        ([.frameConstruct name arguments, .genericCall name arguments] ++ entries
          ++ .frameTeardown name released :: if returned then [.genericReturn name] else []) names'

namespace Bracketed

variable {names names' : List String} {entries : List LogEntry}

theorem count_eq (h : Bracketed names entries names') (name : String) :
    names.count name + entries.countP (LogEntry.constructs name) =
      names'.count name + entries.countP (LogEntry.tearsDown name) := by
  induction h with
  | nothing => rfl
  | append _ _ first later =>
    rw [List.countP_append, List.countP_append]
    omega
  | build => simp [LogEntry.constructs, LogEntry.tearsDown, List.count_cons]
  | tearDown =>
    simp [LogEntry.constructs, LogEntry.tearsDown, List.count_cons]
    omega
  | call other _ _ returned _ inside =>
    cases returned <;>
      simp [LogEntry.constructs, LogEntry.tearsDown, List.countP_cons] <;> omega

/-- At no moment have more frames been torn down than there were and have been built. -/
theorem count_le_of_prefix (h : Bracketed names entries names') {early : List LogEntry}
    (start : early <+: entries) (name : String) :
    early.countP (LogEntry.tearsDown name) ≤
      names.count name + early.countP (LogEntry.constructs name) := by
  induction h generalizing early with
  | nothing =>
    obtain rfl := List.prefix_nil.mp start
    exact Nat.zero_le _
  | append first _ ihFirst ihLater =>
    rcases prefix_append_cases start with within | ⟨rest, beyond, rfl⟩
    · exact ihFirst within
    · have enough := ihLater beyond
      have all := first.count_eq name
      rw [List.countP_append, List.countP_append]
      omega
  | build =>
    rcases List.prefix_cons_iff.mp start with rfl | ⟨rest, rfl, beyond⟩
    · exact Nat.zero_le _
    · obtain rfl := List.prefix_nil.mp beyond
      exact Nat.zero_le _
  | tearDown before other after released =>
    have most := start.sublist.countP_le (p := LogEntry.tearsDown name)
    have one : [LogEntry.frameTeardown other released].countP (LogEntry.tearsDown name) ≤
        (before ++ other :: after).count name := by
      simp [LogEntry.tearsDown, List.count_cons]
      omega
    omega
  | @call names names' entries other arguments released returned inside ih =>
    have opening : [LogEntry.frameConstruct other arguments,
        .genericCall other arguments].countP (LogEntry.tearsDown name) = 0 := rfl
    rcases prefix_append_cases start with within | ⟨rest, beyond, rfl⟩
    · rcases prefix_append_cases within with soon | ⟨rest, beyond, rfl⟩
      · have most := soon.sublist.countP_le (p := LogEntry.tearsDown name)
        omega
      · have enough := ih beyond
        rw [List.countP_append, List.countP_append]
        omega
    · have enough := ih (List.prefix_refl _)
      have most := beyond.sublist.countP_le (p := LogEntry.tearsDown name)
      have own : (LogEntry.frameTeardown other released ::
            if returned then [.genericReturn other] else []).countP (LogEntry.tearsDown name) =
          [LogEntry.frameConstruct other arguments, .genericCall other arguments].countP
            (LogEntry.constructs name) := by
        cases returned <;> simp [LogEntry.constructs, LogEntry.tearsDown, List.countP_cons]
      simp only [List.countP_append]
      omega

end Bracketed

/-! ## Sessions -/

/-- What there is at a moment of a session. -/
structure Scene where
  /-- The frame of the call whose native code runs, if some does. -/
  own : Option Frame
  /-- The frames that are used without a call. -/
  loose : List Frame
  /-- The store. -/
  store : Store

namespace Scene

/-- The beginning of a session. -/
def start : Scene := ⟨none, [], .empty⟩

/-- The functions of the frames that are used without a call. -/
def names (c : Scene) : List String := c.loose.map (·.signature.name)

/-- Every frame is well typed. -/
structure WellTyped (c : Scene) : Prop where
  /-- The frame of the call is well typed, -/
  own : ∀ f, c.own = some f → f.WellTyped
  /-- and so are the others. -/
  loose : ∀ f ∈ c.loose, f.WellTyped

end Scene

/-- What happened in a session besides the books, in order. -/
structure Ledger where
  /-- The frames that were built. -/
  built : List Frame
  /-- The frames that native code was run on. -/
  run : List Frame
  /-- The frames that ended, as they were then. -/
  ended : List Frame
  /-- What came of the calls of functions that were found. -/
  outcomes : List (Except CallError Outcome)

namespace Ledger

/-- Nothing happened. -/
def nothing : Ledger := ⟨[], [], [], []⟩

/-- One thing after another. -/
def append (l m : Ledger) : Ledger :=
  ⟨l.built ++ m.built, l.run ++ m.run, l.ended ++ m.ended, l.outcomes ++ m.outcomes⟩

/-- A call that begins with one frame, ends with another and comes to an outcome. -/
def call (l : Ledger) (f g : Frame) (o : Except CallError Outcome) : Ledger :=
  ⟨f :: l.built, f :: l.run, l.ended ++ [g], l.outcomes ++ [o]⟩

/-- Number of calls that returned. -/
def returned (l : Ledger) : Nat := l.outcomes.countP Outcome.isReturned

end Ledger

/-- How a session goes on from one moment to another. -/
inductive Proceeds : Scene → Ledger → Scene → Prop
  | nothing (c : Scene) : Proceeds c .nothing c
  | andThen {c d e : Scene} {l m : Ledger} (first : Proceeds c l d) (later : Proceeds d m e) :
      Proceeds c (l.append m) e
  /-- Something happens that is not about calls. -/
  | befall {own : Option Frame} {loose : List Frame} {s : Store} {i : Incident}
      (quiet : i.IsQuiet) : Proceeds ⟨own, loose, s⟩ .nothing ⟨own, loose, s.befall i⟩
  /-- Native code does an operation on its call. -/
  | perform {f : Frame} {loose : List Frame} {s : Store} (op : Operation) :
      Proceeds ⟨some f, loose, s⟩ .nothing
        ⟨some (f.perform op).frame, loose, s.applyAll (f.perform op).effects⟩
  /-- An operation is done on a frame that is used without a call. -/
  | performLoose {own : Option Frame} {before : List Frame} {f : Frame} {after : List Frame}
      {s : Store} (op : Operation) :
      Proceeds ⟨own, before ++ f :: after, s⟩ .nothing
        ⟨own, before ++ (f.perform op).frame :: after, s.applyAll (f.perform op).effects⟩
  /-- A frame is built without a call. -/
  | construct {own : Option Frame} {loose : List Frame} {s : Store} {sig : Signature}
      {receiver : Option Address} {args : List Argument} {policy : Policy} {f : Frame}
      (built : (Frame.construct s.newFrame.1 sig receiver args policy).1 = .ok f) :
      Proceeds ⟨own, loose, s⟩ ⟨[f], [], [], []⟩
        ⟨own, f :: loose, s.newFrame.2.applyAll
          (Frame.construct s.newFrame.1 sig receiver args policy).2⟩
  | refuseConstruct {own : Option Frame} {loose : List Frame} {s : Store} {sig : Signature}
      {receiver : Option Address} {args : List Argument} {policy : Policy} {e : CallError}
      (refused : (Frame.construct s.newFrame.1 sig receiver args policy).1 = .error e) :
      Proceeds ⟨own, loose, s⟩ .nothing
        ⟨own, loose, s.newFrame.2.applyAll
          (Frame.construct s.newFrame.1 sig receiver args policy).2⟩
  /-- A frame that is used without a call ends: it is finished or abandoned. -/
  | finish {own : Option Frame} {before : List Frame} {f : Frame} {after : List Frame}
      {s : Store} {effects : List Effect} (ends : effects = f.finish.2 ∨ effects = f.abandon) :
      Proceeds ⟨own, before ++ f :: after, s⟩ ⟨[], [], [f], []⟩
        ⟨own, before ++ after, s.applyAll effects⟩
  /-- A function is called, and its native code runs. -/
  | call {own : Option Frame} {loose loose' : List Frame} {s s' : Store} {fn : Function}
      {native : Native} {receiver : Option Address} {args : List Argument} {f g : Frame}
      {effects : List Effect} {l : Ledger}
      (entered : fn.enter s.newFrame.1 receiver args = (.ok f, effects))
      (body : Proceeds ⟨some f, loose, s.newFrame.2.applyAll effects⟩ l ⟨some g, loose', s'⟩)
      (ran : native f (s.newFrame.2.applyAll effects) = (g, s')) :
      Proceeds ⟨own, loose, s⟩ (l.call f g (fn.invoke native receiver args s).1)
        ⟨own, loose', (fn.invoke native receiver args s).2⟩
  | refuse (native : Native) {own : Option Frame} {loose : List Frame} {s : Store}
      {fn : Function} {receiver : Option Address} {args : List Argument} {e : CallError}
      {effects : List Effect}
      (refused : fn.enter s.newFrame.1 receiver args = (.error e, effects)) :
      Proceeds ⟨own, loose, s⟩ ⟨[], [], [], [(fn.invoke native receiver args s).1]⟩
        ⟨own, loose, (fn.invoke native receiver args s).2⟩
  /-- A function is called that the registry does not know, by number or by name. -/
  | unknown {own : Option Frame} {loose : List Frame} {s : Store} {r : Registry EntryPoint}
      {id : FunctionId} {receiver : Option Address} {args : List Argument} {name : String}
      (unknown : (r.call id receiver args s).1 = .error (.unknownFunction name)) :
      Proceeds ⟨own, loose, s⟩ .nothing ⟨own, loose, (r.call id receiver args s).2⟩
  | unknownName {own : Option Frame} {loose : List Frame} {s : Store} {r : Registry EntryPoint}
      {called : String} {receiver : Option Address} {args : List Argument} {name : String}
      (unknown : (r.callByName called receiver args s).1 = .error (.unknownFunction name)) :
      Proceeds ⟨own, loose, s⟩ .nothing ⟨own, loose, (r.callByName called receiver args s).2⟩

/-- **Balanced books.** What a log tells and what counters were moved by, against what happened in a
session. To begin with there are frames of some functions that are used without a call, and in the
end there are others. -/
structure Ledger.Balances (l : Ledger) (entries : List LogEntry) (counts : Counter → Nat)
    (names names' : List String) : Prop where
  /-- Every call of a function that was found returned, raised an exception or failed. -/
  outcomes : l.outcomes.length =
    l.returned + counts .exceptionsRaised + counts .marshalErrors
  /-- Native code ran for every call that is counted, -/
  run : counts .callsMade = l.run.length
  /-- and every such call is told. -/
  called : entries.filterMap LogEntry.called? =
    l.run.map fun f ↦ (f.signature.name, f.slots.length)
  /-- Every return is told. -/
  returned : (entries.filterMap LogEntry.returned?).length = l.returned
  /-- Every frame that was built is told. -/
  built : entries.filterMap LogEntry.constructed? =
    l.built.map fun f ↦ (f.signature.name, f.slots.length)
  /-- Every frame that ended is told, with the handles that were not claimed. -/
  ended : entries.filterMap LogEntry.tornDown? =
    l.ended.map fun f ↦ (f.signature.name, f.unclaimed)
  /-- The handles that were released are those that are told. -/
  released : counts .handlesReleased = ((entries.filterMap LogEntry.tornDown?).map Prod.snd).sum
  /-- The log is well bracketed. -/
  bracketed : Bracketed names entries names'

/-- **Balanced counters.** The same for counters of 64 bits, of which only the sums agree. -/
structure Ledger.Tallies (l : Ledger) (entries : List LogEntry) (s : Statistics) : Prop where
  /-- Every call of a function that was found returned, raised an exception or failed. -/
  outcomes : UInt64.ofNat l.outcomes.length =
    .ofNat l.returned + s.shown .exceptionsRaised + s.shown .marshalErrors
  /-- Native code ran for every call that is counted. -/
  run : s.shown .callsMade = .ofNat l.run.length
  /-- The handles that were released are those that are told. -/
  released : s.shown .handlesReleased =
    .ofNat ((entries.filterMap LogEntry.tornDown?).map Prod.snd).sum
  /-- As long as nothing was counted 2⁶⁴ times, the counters show what was counted. -/
  exact : ∀ k, s.value k < 2 ^ 64 → (s.shown k).toNat = s.value k

namespace Ledger

theorem Balances.tallies {l : Ledger} {entries : List LogEntry} {s : Statistics}
    {names names' : List String} (balances : l.Balances entries s.value names names') :
    l.Tallies entries s where
  outcomes := by
    rw [balances.outcomes, UInt64.ofNat_add, UInt64.ofNat_add]
    rfl
  run := congrArg UInt64.ofNat balances.run
  released := congrArg UInt64.ofNat balances.released
  exact _ few := Statistics.toNat_shown few

private theorem balances_nothing (names : List String) :
    nothing.Balances [] (fun _ ↦ 0) names names :=
  ⟨rfl, rfl, rfl, rfl, rfl, rfl, rfl, .nothing names⟩

theorem Balances.append {l m : Ledger} {entries more : List LogEntry}
    {counts further : Counter → Nat} {names names' names'' : List String}
    (first : l.Balances entries counts names names')
    (later : m.Balances more further names' names'') :
    (l.append m).Balances (entries ++ more) (fun c ↦ counts c + further c) names names'' where
  outcomes := by
    rw [Ledger.append, Ledger.returned, List.length_append, List.countP_append, first.outcomes,
      later.outcomes, ← Ledger.returned, ← Ledger.returned]
    omega
  run := by rw [Ledger.append, List.length_append, first.run, later.run]
  called := by
    rw [Ledger.append, List.filterMap_append, List.map_append, first.called, later.called]
  returned := by
    rw [Ledger.append, Ledger.returned, List.filterMap_append, List.length_append,
      List.countP_append, first.returned, later.returned, ← Ledger.returned, ← Ledger.returned]
  built := by rw [Ledger.append, List.filterMap_append, List.map_append, first.built, later.built]
  ended := by rw [Ledger.append, List.filterMap_append, List.map_append, first.ended, later.ended]
  released := by
    rw [List.filterMap_append, List.map_append, List.sum_append, first.released, later.released]
  bracketed := first.bracketed.append later.bracketed

private theorem balances_built (f : Frame) (names : List String) :
    Balances ⟨[f], [], [], []⟩ [.frameConstruct f.signature.name f.slots.length] (fun _ ↦ 0) names
      (f.signature.name :: names) :=
  ⟨rfl, rfl, rfl, rfl, rfl, rfl, rfl, .build _ names _⟩

private theorem balances_ended (f : Frame) (before after : List String) :
    Balances ⟨[], [], [f], []⟩ [.frameTeardown f.signature.name f.unclaimed]
      (fun c ↦ if c = .handlesReleased then f.unclaimed else 0)
      (before ++ f.signature.name :: after) (before ++ after) :=
  ⟨rfl, rfl, rfl, rfl, rfl, rfl, rfl, .tearDown before _ after _⟩

private theorem balances_refused (o : Except CallError Outcome)
    (failed : Outcome.isReturned o = false) (names : List String) :
    Balances ⟨[], [], [], [o]⟩ [] (fun c ↦ if c = .marshalErrors then 1 else 0) names names := by
  refine ⟨?_, rfl, rfl, ?_, rfl, rfl, rfl, .nothing names⟩
  · simp [Ledger.returned, failed]
  · simp [Ledger.returned, failed]

/-- A call adds its own beginning and end to what its native code did. -/
theorem Balances.call {l : Ledger} {entries : List LogEntry} {counts closing : Counter → Nat}
    {names names' : List String} (inside : l.Balances entries counts names names')
    {f g : Frame} (same : g.signature = f.signature) {o : Except CallError Outcome}
    (made : closing .callsMade = 0) (released : closing .handlesReleased = g.unclaimed)
    (one : (if Outcome.isReturned o then 1 else 0) + closing .exceptionsRaised
      + closing .marshalErrors = 1) :
    (l.call f g o).Balances
      ([.frameConstruct f.signature.name f.slots.length,
          .genericCall f.signature.name f.slots.length] ++ entries
        ++ .frameTeardown g.signature.name g.unclaimed ::
          if Outcome.isReturned o then [.genericReturn f.signature.name] else [])
      (fun c ↦ (if c = .callsMade then 1 else 0) + counts c + closing c) names names' := by
  have outcomes := inside.outcomes
  rw [same]
  constructor
  · simp only [Ledger.call, Ledger.returned, List.length_append, List.length_singleton,
      List.countP_append, List.countP_singleton, reduceCtorEq, if_false, Nat.zero_add] at outcomes ⊢
    omega
  · simp only [Ledger.call, List.length_cons, inside.run, made, if_true]
    omega
  · cases Outcome.isReturned o <;>
      simp [Ledger.call, LogEntry.called?, inside.called, List.filterMap_cons]
  · cases ret : Outcome.isReturned o <;>
      simp [Ledger.call, Ledger.returned, LogEntry.returned?, inside.returned,
        List.filterMap_cons, ret]
  · cases Outcome.isReturned o <;>
      simp [Ledger.call, LogEntry.constructed?, inside.built, List.filterMap_cons]
  · cases Outcome.isReturned o <;>
      simp [Ledger.call, LogEntry.tornDown?, inside.ended, List.filterMap_cons, same]
  · cases Outcome.isReturned o <;>
      simp [LogEntry.tornDown?, inside.released, List.filterMap_cons, released]
  · exact .call _ _ _ _ inside.bracketed

end Ledger

/-! ## What a session keeps -/

/-- What native code cannot change about its call. -/
def Frame.identity (f : Frame) : Nat × Signature := (f.number, f.signature)

private theorem Frame.identity_perform (f : Frame) (op : Operation) :
    (f.perform op).frame.identity = f.identity := by
  have same := (change_perform f op).sameCall
  rw [identity, identity, same.number, same.signature]

private theorem Frame.effects_of_construct_error {number : Nat} {sig : Signature}
    {receiver : Option Address} {args : List Argument} {policy : Policy} {e : CallError}
    (refused : (construct number sig receiver args policy).1 = .error e) :
    (construct number sig receiver args policy).2 = [] := by
  rcases sig.accepts_or_firstFault receiver args policy with accepts | ⟨fault, first⟩
  · obtain ⟨slots, effects, -, -, built⟩ := construct_of_accepts accepts number
    rw [built] at refused
    cases refused
  · rw [construct_of_firstFault first]

namespace Registry

private theorem call_unknown {r : Registry EntryPoint} {id : FunctionId} {receiver : Option Address}
    {args : List Argument} {s : Store} {name : String}
    (unknown : (r.call id receiver args s).1 = .error (.unknownFunction name)) :
    (r.call id receiver args s).2 = s := by
  unfold call at unknown ⊢
  split at unknown
  · next l found => exact absurd unknown (Function.invoke_ne_unknownFunction _ _ _ _ _ _)
  · rfl

private theorem callByName_unknown {r : Registry EntryPoint} {called : String}
    {receiver : Option Address} {args : List Argument} {s : Store} {name : String}
    (unknown : (r.callByName called receiver args s).1 = .error (.unknownFunction name)) :
    (r.callByName called receiver args s).2 = s := by
  unfold callByName at unknown ⊢
  split at unknown
  · next l found => exact absurd unknown (Function.invoke_ne_unknownFunction _ _ _ _ _ _)
  · rfl

end Registry

namespace Function

variable {fn : Function} {native : Native} {receiver : Option Address} {args : List Argument}
  {s : Store}

private theorem invoke_of_enter {f g : Frame} {s' : Store} {effects : List Effect}
    (entered : fn.enter s.newFrame.1 receiver args = (.ok f, effects))
    (ran : native f (s.newFrame.2.applyAll effects) = (g, s')) :
    fn.invoke native receiver args s = ((fn.leave g).1, s'.applyAll (fn.leave g).2) := by
  simp only [invoke, entered, ran]

private theorem invoke_of_refused {e : CallError} {effects : List Effect}
    (refused : fn.enter s.newFrame.1 receiver args = (.error e, effects)) :
    fn.invoke native receiver args s =
      (.error e, s.newFrame.2.applyAll [.tally .marshalErrors 1]) := by
  simp only [invoke, refused, effects_of_enter refused]

end Function

namespace Proceeds

variable {c d : Scene} {l : Ledger}

/-- Native code stays in its call. -/
private theorem identity_own (h : Proceeds c l d) :
    d.own.map Frame.identity = c.own.map Frame.identity := by
  induction h with
  | andThen _ _ first later => exact later.trans first
  | perform op => exact congrArg some (Frame.identity_perform _ op)
  | _ => rfl

theorem wellTyped (h : Proceeds c l d) (typed : c.WellTyped) : d.WellTyped := by
  induction h with
  | nothing => exact typed
  | andThen _ _ first later => exact later (first typed)
  | befall | refuseConstruct | refuse | unknown | unknownName => exact ⟨typed.own, typed.loose⟩
  | perform op =>
    refine ⟨?_, typed.loose⟩
    rintro _ ⟨⟩
    exact (typed.own _ rfl).perform op
  | performLoose op =>
    obtain ⟨before, here, after⟩ := List.forall_mem_append.mp typed.loose |>.imp_right
      List.forall_mem_cons.mp
    exact ⟨typed.own, List.forall_mem_append.mpr
      ⟨before, List.forall_mem_cons.mpr ⟨here.perform op, after⟩⟩⟩
  | construct built =>
    exact ⟨typed.own, List.forall_mem_cons.mpr ⟨Frame.wellTyped_of_construct built, typed.loose⟩⟩
  | finish =>
    obtain ⟨before, -, after⟩ := List.forall_mem_append.mp typed.loose |>.imp_right
      List.forall_mem_cons.mp
    exact ⟨typed.own, List.forall_mem_append.mpr ⟨before, after⟩⟩
  | call entered body ran ih =>
    obtain ⟨built, -⟩ := Function.construct_of_enter entered
    refine ⟨typed.own, (ih ⟨?_, typed.loose⟩).loose⟩
    rintro _ ⟨⟩
    exact Frame.wellTyped_of_construct built

end Proceeds

/-! ## The books -/

/-- Whether the books at a later moment are those at an earlier one and what a ledger says. -/
def Ledger.Accounts (l : Ledger) (c d : Scene) : Prop :=
  ∃ entries counts,
    d.store.callEntries .trace = c.store.callEntries .trace ++ entries ∧
    (∀ k, d.store.statistics.value k = c.store.statistics.value k + counts k) ∧
    l.Balances entries counts c.names d.names

namespace Ledger

private theorem accounts_nothing {c d : Scene}
    (told : d.store.callEntries .trace = c.store.callEntries .trace)
    (counted : ∀ k, d.store.statistics.value k = c.store.statistics.value k)
    (names : d.names = c.names) : nothing.Accounts c d :=
  ⟨[], fun _ ↦ 0, told.trans (List.append_nil _).symm, counted, names ▸ balances_nothing _⟩

theorem Accounts.append {l m : Ledger} {c d e : Scene} (first : l.Accounts c d)
    (later : m.Accounts d e) : (l.append m).Accounts c e := by
  obtain ⟨entries, counts, told, counted, balanced⟩ := first
  obtain ⟨more, further, told', counted', balanced'⟩ := later
  refine ⟨entries ++ more, fun k ↦ counts k + further k, ?_, fun k ↦ ?_,
    balanced.append balanced'⟩
  · rw [told', told, List.append_assoc]
  · rw [counted', counted, Nat.add_assoc]

private theorem accounts_applyAll {l : Ledger} {c d : Scene} (s : Store) {es : List Effect}
    {entries : List LogEntry} {counts : Counter → Nat}
    (before : s.callEntries .trace = c.store.callEntries .trace ∧ s.statistics = c.store.statistics)
    (store : d.store = s.applyAll es) (told : Effect.told es = entries)
    (counted : ∀ k, Effect.counted es k = counts k)
    (balanced : l.Balances entries counts c.names d.names) : l.Accounts c d := by
  refine ⟨entries, counts, ?_, fun k ↦ ?_, balanced⟩
  · rw [store, Store.callEntries_applyAll, told, before.1]
  · rw [store, (Store.value_applyAll _ _).1, counted, before.2]

/-- Effects that are not about calls are not accounted for. -/
private theorem accounts_of_isQuiet {c d : Scene} {es : List Effect}
    (store : d.store = c.store.applyAll es) (quiet : ∀ e ∈ es, e.IsQuiet)
    (names : d.names = c.names) : nothing.Accounts c d :=
  accounts_applyAll _ ⟨rfl, rfl⟩ store (Effect.told_eq_nil quiet) (Effect.counted_eq_zero quiet)
    (names ▸ balances_nothing _)

theorem Accounts.call {l : Ledger} {own : Option Frame} {loose loose' : List Frame} {s s' : Store}
    {fn : Function} {native : Native} {receiver : Option Address} {args : List Argument}
    {f g : Frame} {effects : List Effect}
    (entered : fn.enter s.newFrame.1 receiver args = (.ok f, effects))
    (inside : l.Accounts ⟨some f, loose, s.newFrame.2.applyAll effects⟩ ⟨some g, loose', s'⟩)
    (ran : native f (s.newFrame.2.applyAll effects) = (g, s')) (typed : g.WellTyped)
    (same : g.signature = f.signature) :
    (l.call f g (fn.invoke native receiver args s).1).Accounts ⟨own, loose, s⟩
      ⟨own, loose', (fn.invoke native receiver args s).2⟩ := by
  obtain ⟨entries, counts, told, counted, balanced⟩ := inside
  obtain ⟨opened, begun⟩ := Function.books_enter entered
  obtain ⟨closed, made, released, one⟩ := fn.books_leave typed
  have declared : f.signature = fn.signature :=
    (Frame.signature_exception_of_construct (Function.construct_of_enter entered).1).1
  rw [Function.invoke_of_enter entered ran]
  refine ⟨_, _, ?_, fun k ↦ ?_, balanced.call same made released one⟩
  · rw [Store.callEntries_applyAll, told, Store.callEntries_applyAll, opened, closed, declared]
    simp only [List.append_assoc]
    rfl
  · rw [(s'.value_applyAll _).1, counted, (Store.value_applyAll _ _).1, begun]
    simp only [Nat.add_assoc]
    rfl

end Ledger

/-- **The books are kept**, whatever happens in a session. -/
theorem Proceeds.accounts {c d : Scene} {l : Ledger} (h : Proceeds c l d) (typed : c.WellTyped) :
    l.Accounts c d := by
  induction h with
  | nothing c => exact Ledger.accounts_nothing rfl (fun _ ↦ rfl) rfl
  | andThen first later ihFirst ihLater =>
    exact (ihFirst typed).append (ihLater (first.wellTyped typed))
  | befall quiet =>
    obtain ⟨told, counted, -⟩ := Store.keeps_befall _ quiet
    exact Ledger.accounts_nothing told counted rfl
  | perform op => exact Ledger.accounts_of_isQuiet rfl (Frame.isQuiet_perform _ op) rfl
  | performLoose op =>
    refine Ledger.accounts_of_isQuiet rfl (Frame.isQuiet_perform _ op) ?_
    simp only [Scene.names, List.map_append, List.map_cons,
      (Frame.change_perform _ op).sameCall.signature]
  | @construct own loose s _ _ _ _ f built =>
    obtain ⟨told, counted⟩ := Frame.books_construct built
    exact Ledger.accounts_applyAll s.newFrame.2 ⟨rfl, rfl⟩ rfl told counted
      (Ledger.balances_built _ _)
  | refuseConstruct refused =>
    rw [Frame.effects_of_construct_error refused]
    exact Ledger.accounts_nothing rfl (fun _ ↦ rfl) rfl
  | @finish own before f after s effects ends =>
    obtain ⟨told, counted⟩ := (typed.loose f (by simp)).books_end ends
    refine Ledger.accounts_applyAll s ⟨rfl, rfl⟩ rfl told counted ?_
    simpa only [Scene.names, List.map_append, List.map_cons] using
      Ledger.balances_ended f (before.map (·.signature.name)) (after.map (·.signature.name))
  | @call own loose loose' s s' fn native receiver args f g effects l entered body ran ih =>
    have inner : Scene.WellTyped ⟨some f, loose, s.newFrame.2.applyAll effects⟩ := by
      refine ⟨?_, typed.loose⟩
      rintro _ ⟨⟩
      exact Frame.wellTyped_of_construct (Function.construct_of_enter entered).1
    have identity : g.identity = f.identity := Option.some.inj body.identity_own
    exact (ih inner).call entered ran ((body.wellTyped inner).own g rfl)
      (congrArg Prod.snd identity)
  | @refuse native own loose s fn receiver args e effects refused =>
    rw [Function.invoke_of_refused refused]
    refine Ledger.accounts_applyAll s.newFrame.2 ⟨rfl, rfl⟩ rfl rfl (fun k ↦ ?_)
      (Ledger.balances_refused _ rfl _)
    cases k <;> rfl
  | unknown unknown =>
    rw [Registry.call_unknown unknown]
    exact Ledger.accounts_nothing rfl (fun _ ↦ rfl) rfl
  | unknownName unknown =>
    rw [Registry.callByName_unknown unknown]
    exact Ledger.accounts_nothing rfl (fun _ ↦ rfl) rfl

/-! ## Each frame once -/

namespace Proceeds

variable {c d : Scene} {l : Ledger}

/-- Frames are numbered in the order in which they are built. -/
theorem sublist_range (h : Proceeds c l d) : ∃ k, d.store.frames = c.store.frames + k ∧
    (l.built.map Frame.number).Sublist (List.range' c.store.frames k) := by
  -- if nothing is built, then numbers may at most be left out
  have still {c d : Scene} (le : c.store.frames ≤ d.store.frames) : ∃ k,
      d.store.frames = c.store.frames + k ∧
        (([] : List Frame).map Frame.number).Sublist (List.range' c.store.frames k) := by
    obtain ⟨k, more⟩ := Nat.exists_eq_add_of_le le
    exact ⟨k, more, List.nil_sublist _⟩
  induction h with
  | nothing => exact still (Nat.le_refl _)
  | andThen _ _ first later =>
    obtain ⟨k, more, numbers⟩ := first
    obtain ⟨k', more', numbers'⟩ := later
    refine ⟨k + k', by rw [more', more, Nat.add_assoc], ?_⟩
    rw [more] at numbers'
    rw [Ledger.append, List.map_append, ← List.range'_append_1]
    exact numbers.append numbers'
  | befall quiet => exact still (Store.keeps_befall _ quiet).2.2
  | perform op => exact still (Nat.le_of_eq (Store.value_applyAll _ _).2.symm)
  | performLoose op => exact still (Nat.le_of_eq (Store.value_applyAll _ _).2.symm)
  | finish => exact still (Nat.le_of_eq (Store.value_applyAll _ _).2.symm)
  | construct built =>
    refine ⟨1, (Store.value_applyAll _ _).2, ?_⟩
    obtain ⟨slots, -, -, rfl, -⟩ := Frame.exists_filledAll_of_construct built
    exact List.Sublist.refl _
  | refuseConstruct refused =>
    rw [Frame.effects_of_construct_error refused]
    exact still (Nat.le_succ _)
  | @call own loose loose' s s' fn native receiver args f g effects l entered body ran ih =>
    obtain ⟨k, more, numbers⟩ := ih
    rw [Function.invoke_of_enter entered ran]
    refine ⟨k + 1, ?_, ?_⟩
    · rw [(Store.value_applyAll _ _).2, more, (Store.value_applyAll _ _).2, Nat.add_comm k 1,
        ← Nat.add_assoc]
      rfl
    · obtain ⟨slots, -, -, rfl, -⟩ :=
        Frame.exists_filledAll_of_construct (Function.construct_of_enter entered).1
      rw [(Store.value_applyAll _ _).2] at numbers
      exact numbers.cons_cons _
  | refuse native refused =>
    rw [Function.invoke_of_refused refused]
    exact still (Nat.le_succ _)
  | unknown unknown =>
    rw [Registry.call_unknown unknown]
    exact still (Nat.le_refl _)
  | unknownName unknown =>
    rw [Registry.callByName_unknown unknown]
    exact still (Nat.le_refl _)

/-- The frames that have ended or are still in use are those that were in use or were built. -/
theorem count_number (h : Proceeds c l d) (n : Nat) :
    (l.ended.map Frame.number).count n + (d.loose.map Frame.number).count n =
      (c.loose.map Frame.number).count n + (l.built.map Frame.number).count n := by
  induction h with
  | nothing => exact Nat.zero_add _
  | andThen _ _ first later =>
    simp only [Ledger.append, List.map_append, List.count_append]
    omega
  | performLoose op =>
    simp only [List.map_append, List.map_cons, (Frame.change_perform _ op).sameCall.number]
    exact Nat.zero_add _
  | construct =>
    simp only [List.map_cons, List.map_nil, List.count_cons, List.count_nil]
    omega
  | finish =>
    simp only [List.map_append, List.map_cons, List.map_nil, List.count_append, List.count_cons,
      List.count_nil]
    omega
  | call entered body ran ih =>
    have same := congrArg Prod.fst (Option.some.inj body.identity_own)
    simp only [Frame.identity] at same
    simp only [Ledger.call, List.map_append, List.map_cons, List.map_nil, List.count_append,
      List.count_cons, List.count_nil, same] at ih ⊢
    omega
  | befall | perform | refuseConstruct | refuse | unknown | unknownName => exact Nat.zero_add _

theorem callRegistered {own : Option Frame} {loose loose' : List Frame} {s s' : Store}
    {r : Registry EntryPoint} {id : FunctionId} {linked : Linked EntryPoint}
    (found : r.get? id = some linked) {receiver : Option Address} {args : List Argument}
    {f g : Frame} {effects : List Effect}
    (entered : linked.function.enter s.newFrame.1 receiver args = (.ok f, effects))
    (body : Proceeds ⟨some f, loose, s.newFrame.2.applyAll effects⟩ l ⟨some g, loose', s'⟩)
    (ran : linked.code linked.function.auxiliary f (s.newFrame.2.applyAll effects) = (g, s')) :
    Proceeds ⟨own, loose, s⟩ (l.call f g (r.call id receiver args s).1)
      ⟨own, loose', (r.call id receiver args s).2⟩ := by
  have resolved : r.resolve id = .ok linked := by simp only [Registry.resolve, found]
  have called : r.call id receiver args s = linked.invoke receiver args s := by
    simp only [Registry.call, resolved]
  rw [called]
  exact .call entered body ran

end Proceeds

/-! ## Whole sessions -/

/-- **Balance.** Whenever no call is going on, the log, read at the lowest threshold, and the
statistics balance with what happened. Every frame that was built has ended once or is still used
without a call, and calls of functions that are not known change nothing at all. -/
theorem balances_of_session {d : Scene} {l : Ledger} (session : Proceeds .start l d) :
    l.Balances (d.store.callEntries .trace) d.store.statistics.value [] d.names ∧
      l.Tallies (d.store.callEntries .trace) d.store.statistics ∧
      (∀ name early, early <+: d.store.callEntries .trace →
        early.countP (LogEntry.tearsDown name) ≤ early.countP (LogEntry.constructs name)) ∧
      (l.built.map Frame.number).Nodup ∧
      ((l.ended ++ d.loose).map Frame.number).Perm (l.built.map Frame.number) ∧
      (∀ (r : Registry EntryPoint) id receiver args s name,
        (r.call id receiver args s).1 = .error (.unknownFunction name) →
          (r.call id receiver args s).2 = s) ∧
      ∀ (r : Registry EntryPoint) called receiver args s name,
        (r.callByName called receiver args s).1 = .error (.unknownFunction name) →
          (r.callByName called receiver args s).2 = s := by
  have typed : Scene.start.WellTyped := by
    constructor
    · rintro f ⟨⟩
    · rintro f ⟨⟩
  obtain ⟨entries, counts, told, counted, balanced⟩ := session.accounts typed
  -- in the beginning nothing has been told and all counters stand at zero
  have all : d.store.callEntries .trace = entries := told
  have values : d.store.statistics.value = counts := by
    funext k
    rw [counted]
    cases k <;> exact Nat.zero_add _
  obtain ⟨k, -, numbers⟩ := session.sublist_range
  rw [← values] at balanced
  rw [all]
  refine ⟨balanced, balanced.tallies, fun name early start ↦ ?_,
    numbers.nodup List.nodup_range', ?_, ?_, ?_⟩
  · have enough := balanced.bracketed.count_le_of_prefix start name
    rwa [Scene.names, Scene.start, List.map_nil, List.count_nil, Nat.zero_add] at enough
  · refine List.perm_iff_count.mpr fun n ↦ ?_
    rw [List.map_append, List.count_append, session.count_number]
    exact Nat.zero_add _
  · intro r id receiver args s name unknown
    exact Registry.call_unknown unknown
  · intro r called receiver args s name unknown
    exact Registry.callByName_unknown unknown

/-- Native code that raises an exception. -/
def raising : Native := fun f s ↦
  ((f.perform (.raise "no")).frame, s.applyAll (f.perform (.raise "no")).effects)

/-- Native code that calls a function which raises an exception. -/
def relaying : Native := fun f s ↦
  (f, ((Function.ofSignature Registry.reset).invoke raising none [] s).2)

/-- A registry with a function that relays to another one. -/
def relays : Registry EntryPoint :=
  ((Registry.empty .strict).registerFunction Registry.reset fun _ ↦ relaying).registry

/-- A frame is built that is lent an object and given it as well. While it is in use, a registered
function is called whose native code makes a call that raises an exception, and a call is
refused. -/
theorem balances_of_session_nested :
    ∃ d l, Proceeds .start l d ∧
      d.store.statistics = ⟨2, 1, 2, 1⟩ ∧ l.outcomes.length = 3 ∧ l.returned = 1 ∧
      l.Balances (d.store.callEntries .trace) d.store.statistics.value [] d.names := by
  have made : Proceeds .start .nothing ⟨none, [], Frame.oneNode⟩ :=
    .befall (i := .newObject "node" (.counted 2) (.word 1)) (List.forall_mem_nil _)
  have kept := made.andThen (.construct (rfl : (Frame.construct _ Frame.exchange none
    [.handle (.object 0), .handle (.object 0), .handle .null] .strict).1 = _))
  have called := kept.andThen (.callRegistered (rfl : relays.get? 0 = _)
    (rfl : Function.enter _ _ none [] = _)
    (.call (rfl : (Function.ofSignature Registry.reset).enter _ none [] = _)
      (.perform (.raise "no")) (rfl : raising _ _ = _))
    rfl)
  have refused := called.andThen (.refuse raising
    (rfl : (Function.ofSignature Registry.reset).enter _ none [.handle .null] = _))
  have session := refused.andThen (@Proceeds.finish _ [] _ [] _ _ (.inr rfl))
  exact ⟨_, _, session, rfl, rfl, rfl, (balances_of_session session).1⟩

end CallingConvention
