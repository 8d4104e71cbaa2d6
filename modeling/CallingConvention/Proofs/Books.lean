import CallingConvention.Proofs.Custody
import CallingConvention.Proofs.Exception
import CallingConvention.Proofs.Incident
import Mathlib.Algebra.GroupWithZero.Nat

/-!
# What is told and counted of calls

Calls and frames are told in the log and counted in the statistics, and nothing else is told or
counted in that way (`Effect.IsQuiet`). So the books about calls, which are these log entries and
the counters, change with a few effects only: when a frame is built or ends, and when a call is
entered or left. The lemmas whose names begin with `books` say for each of these what is told and
what is counted, in whatever state the frame is.
-/

namespace CallingConvention

/-! ## What the log tells of calls -/

namespace LogEntry

/-- The function and the number of arguments of a frame that was built. -/
def constructed? : LogEntry → Option (String × Nat)
  | frameConstruct function arguments => some (function, arguments)
  | _ => none

/-- The function and the number of arguments of a call whose native code starts. -/
def called? : LogEntry → Option (String × Nat)
  | genericCall function arguments => some (function, arguments)
  | _ => none

/-- The function of a call that returned. -/
def returned? : LogEntry → Option String
  | genericReturn function => some function
  | _ => none

/-- The function of a frame that was torn down, and the number of handles that it released. -/
def tornDown? : LogEntry → Option (String × Nat)
  | frameTeardown function released => some (function, released)
  | _ => none

/-- Whether an entry tells of a call or of a frame. -/
def isOfCall : LogEntry → Bool
  | frameConstruct _ _ | genericCall _ _ | genericReturn _ | frameTeardown _ _ => true
  | _ => false

/-- Whether an entry says that a frame for a function was built. -/
def constructs (name : String) : LogEntry → Bool
  | frameConstruct function _ => function == name
  | _ => false

/-- Whether an entry says that a frame for a function was torn down. -/
def tearsDown (name : String) : LogEntry → Bool
  | frameTeardown function _ => function == name
  | _ => false

end LogEntry

/-- The log entry in a line of the journal. -/
def Report.entry? : Report → Option LogEntry
  | effect (.log e) _ => some e
  | _ => none

/-- What the log tells of calls and frames, to a reader who wants entries up to a threshold. -/
def Store.callEntries (s : Store) (threshold : Severity) : List LogEntry :=
  (s.journal.toList.filterMap Report.entry?).filter fun e ↦
    e.isOfCall && e.severity.shownAt threshold

/-- What a counter stands at. -/
def Statistics.value (s : Statistics) : Counter → Nat
  | .callsMade => s.callsMade
  | .exceptionsRaised => s.exceptionsRaised
  | .handlesReleased => s.handlesReleased
  | .marshalErrors => s.marshalErrors

/-- What a counter of 64 bits shows, which goes on from zero after the greatest number. -/
def Statistics.shown (s : Statistics) (k : Counter) : UInt64 := .ofNat (s.value k)

/-- Counters of 64 bits are moved by what is counted. -/
theorem Statistics.shown_add (s : Statistics) (counter : Counter) (amount : Nat) (k : Counter) :
    (s.add counter amount).shown k = s.shown k + if counter = k then .ofNat amount else 0 := by
  cases counter <;> cases k <;> simp [shown, add, value, UInt64.ofNat_add]

theorem Statistics.toNat_shown {s : Statistics} {k : Counter} (few : s.value k < 2 ^ 64) :
    (s.shown k).toNat = s.value k :=
  UInt64.toNat_ofNat_of_lt' few

namespace Effect

/-- The entry about a call that an effect makes in the log. -/
def callEntry? : Effect → Option LogEntry
  | log e => if e.isOfCall then some e else none
  | _ => none

/-- By how much an effect moves a counter. -/
def amount (counter : Counter) : Effect → Nat
  | tally c k => if c = counter then k else 0
  | _ => 0

/-- The entries about calls that effects make in the log, in order. -/
def told (es : List Effect) : List LogEntry := es.filterMap callEntry?

/-- By how much effects move a counter. -/
def counted (es : List Effect) (counter : Counter) : Nat := (es.map (amount counter)).sum

@[simp] theorem told_append (es fs : List Effect) : told (es ++ fs) = told es ++ told fs :=
  List.filterMap_append

@[simp] theorem counted_append (es fs : List Effect) (counter : Counter) :
    counted (es ++ fs) counter = counted es counter + counted fs counter := by
  rw [counted, counted, counted, List.map_append, List.sum_append]

/-- Whether an effect is about something else than calls. -/
def IsQuiet (e : Effect) : Prop := e.callEntry? = none ∧ ∀ counter, e.amount counter = 0

theorem told_eq_nil {es : List Effect} (quiet : ∀ e ∈ es, e.IsQuiet) : told es = [] :=
  List.filterMap_eq_nil_iff.mpr fun e there ↦ (quiet e there).1

theorem counted_eq_zero {es : List Effect} (quiet : ∀ e ∈ es, e.IsQuiet) (counter : Counter) :
    counted es counter = 0 := by
  induction es with
  | nil => rfl
  | cons e es ih =>
    obtain ⟨first, rest⟩ := List.forall_mem_cons.mp quiet
    rw [counted, List.map_cons, List.sum_cons, first.2, ← counted, ih rest]

end Effect

namespace Store

variable (s : Store)

private theorem callEntries_apply (e : Effect) :
    (s.apply e).callEntries .trace = s.callEntries .trace ++ (Effect.callEntry? e).toList := by
  cases e with
  | log e =>
    have shown : e.severity.shownAt .trace = true := by cases e <;> rfl
    have journal : (s.apply (.log e)).journal.toList =
        s.journal.toList ++ [.effect (.log e) none] :=
      Array.toList_push
    rw [callEntries, journal, List.filterMap_append, List.filter_append, ← callEntries]
    cases call : e.isOfCall <;> simp [Effect.callEntry?, Report.entry?, call, shown]
  | _ =>
    obtain ⟨new, tells, journal⟩ := s.exists_tells _
    rw [callEntries, journal, List.filterMap_append, List.filter_append, ← callEntries]
    congr 1
    cases tells <;> rfl

theorem callEntries_applyAll (es : List Effect) :
    (s.applyAll es).callEntries .trace = s.callEntries .trace ++ Effect.told es := by
  induction es generalizing s with
  | nil => exact (List.append_nil _).symm
  | cons e es ih =>
    rw [applyAll_cons, ih, callEntries_apply, List.append_assoc]
    congr 1
    exact (List.filterMap_append (l := [e])).symm

private theorem keeps_addReference (a : Address) :
    (s.addReference a).statistics = s.statistics ∧ (s.addReference a).frames = s.frames := by
  unfold addReference
  split
  · split <;> exact ⟨rfl, rfl⟩
  · exact ⟨rfl, rfl⟩

private theorem keeps_releaseReference (a : Address) :
    (s.releaseReference a).statistics = s.statistics ∧
      (s.releaseReference a).frames = s.frames := by
  unfold releaseReference
  split
  · split <;> exact ⟨rfl, rfl⟩
  · exact ⟨rfl, rfl⟩

private theorem keeps_count (k : Int) (a : Address) :
    (s.count k a).statistics = s.statistics ∧ (s.count k a).frames = s.frames := by
  unfold count
  split
  · split <;> exact ⟨rfl, rfl⟩
  · exact ⟨rfl, rfl⟩

private theorem value_apply (e : Effect) :
    (∀ counter, (s.apply e).statistics.value counter =
        s.statistics.value counter + e.amount counter) ∧
      (s.apply e).frames = s.frames := by
  have still {t : Store} (keeps : t.statistics = s.statistics ∧ t.frames = s.frames) :
      (∀ counter, t.statistics.value counter = s.statistics.value counter + 0) ∧
        t.frames = s.frames :=
    ⟨fun counter ↦ by rw [keeps.1, Nat.add_zero], keeps.2⟩
  unfold apply
  split
  · split
    · exact still (keeps_addReference (s.report _) _)
    · exact still (keeps_count (s.report _) _ _)
    · exact still ⟨rfl, rfl⟩
  · split
    · exact still (keeps_releaseReference (s.report _) _)
    · exact still (keeps_count (s.report _) _ _)
    · exact still ⟨rfl, rfl⟩
  · split <;> exact still ⟨rfl, rfl⟩
  · split <;> exact still ⟨rfl, rfl⟩
  · split <;> exact still ⟨rfl, rfl⟩
  · exact still ⟨rfl, rfl⟩
  · exact still ⟨rfl, rfl⟩
  · next c k =>
    refine ⟨fun counter ↦ ?_, rfl⟩
    cases c <;> cases counter <;> rfl

theorem value_applyAll (es : List Effect) :
    (∀ counter, (s.applyAll es).statistics.value counter =
        s.statistics.value counter + Effect.counted es counter) ∧
      (s.applyAll es).frames = s.frames := by
  induction es generalizing s with
  | nil => exact ⟨fun _ ↦ rfl, rfl⟩
  | cons e es ih =>
    obtain ⟨values, frames⟩ := s.value_apply e
    obtain ⟨later, still⟩ := ih (s.apply e)
    refine ⟨fun counter ↦ ?_, still.trans frames⟩
    rw [applyAll_cons, later, values, Nat.add_assoc]
    rfl

end Store

/-! ## What is not about calls -/

/-- Whether what happens is about something else than calls: it makes no entry about calls and
moves no counter. -/
def Incident.IsQuiet (i : Incident) : Prop := ∀ e ∈ Incident.effects [i], e.IsQuiet

theorem Store.keeps_befall (s : Store) {i : Incident} (quiet : i.IsQuiet) :
    (s.befall i).callEntries .trace = s.callEntries .trace ∧
      (∀ counter, (s.befall i).statistics.value counter = s.statistics.value counter) ∧
      s.frames ≤ (s.befall i).frames := by
  cases i with
  | effect e =>
    have silent : e.IsQuiet := quiet e List.mem_cons_self
    obtain ⟨values, frames⟩ := s.value_apply e
    refine ⟨?_, fun counter ↦ ?_, Nat.le_of_eq frames.symm⟩
    · rw [befall, callEntries_apply, silent.1]
      exact List.append_nil _
    · rw [befall, values, silent.2, Nat.add_zero]
  | newFrame => exact ⟨rfl, fun _ ↦ rfl, Nat.le_succ _⟩
  | newObject name t value =>
    refine ⟨?_, fun _ ↦ rfl, Nat.le_refl _⟩
    have journal : (s.befall (.newObject name t value)).journal.toList =
        s.journal.toList ++ [.effect (.log .objectNew) none] :=
      Array.toList_push
    rw [callEntries, journal, List.filterMap_append, List.filter_append]
    exact List.append_nil _
  | newRegion => exact ⟨rfl, fun _ ↦ rfl, Nat.le_refl _⟩
  | newCell => exact ⟨rfl, fun _ ↦ rfl, Nat.le_refl _⟩

private theorem Effect.isQuiet_of_isUpkeep {es : List Effect} (h : ∀ e ∈ es, e.isUpkeep = true) :
    ∀ e ∈ es, e.IsQuiet := by
  intro e there
  have kind := h e there
  cases e with
  | addRef | release | destruct => exact ⟨rfl, fun _ ↦ rfl⟩
  | _ => cases kind

namespace Frame

theorem isQuiet_perform (f : Frame) (op : Operation) :
    ∀ e ∈ (f.perform op).effects, e.IsQuiet := by
  intro e there
  cases emits_perform f op e there with
  | counting kind =>
    have upkeep := Effect.isUpkeep_of_isCounting kind
    exact Effect.isQuiet_of_isUpkeep (List.forall_mem_singleton.mpr upkeep) e List.mem_cons_self
  | _ => exact ⟨rfl, fun _ ↦ rfl⟩

private theorem isQuiet_of_filledAll {policy : Policy} {frame index : Nat} {ps : List Param}
    {args : List Argument} {slots : List Slot} {effects : List Effect}
    (h : Slot.FilledAll policy frame index ps args slots effects) : ∀ e ∈ effects, e.IsQuiet := by
  induction h with
  | nil => exact List.forall_mem_nil _
  | cons head tail ih =>
    refine List.forall_mem_append.mpr ⟨?_, ih⟩
    cases head with
    | primitive => exact List.forall_mem_nil _
    | reference => exact List.forall_mem_nil _
    | handle =>
      split
      · exact Effect.isQuiet_of_isUpkeep (ScriptType.isUpkeep_addRef _ _)
      · exact List.forall_mem_nil _
    | object => exact List.forall_mem_singleton.mpr ⟨rfl, fun _ ↦ rfl⟩

end Frame

/-! ## What is about calls -/

/-- Whether a slot has a handle that is not null and was not claimed. -/
def Slot.isUnclaimed : Slot → Bool
  | handle a false => !a.isNull
  | _ => false

/-- Number of handles that are not null and were not claimed. -/
def Frame.unclaimed (f : Frame) : Nat := f.slots.countP Slot.isUnclaimed

/-- Whether a call returned. -/
def Outcome.isReturned : Except CallError Outcome → Bool
  | .ok (.returned _) => true
  | _ => false

namespace Frame

private theorem WellTyped.length_unreleased {f : Frame} (typed : f.WellTyped) :
    f.unreleased.length = f.unclaimed := by
  have each : (fun x : Param × Slot ↦
      ((x.2.unreleased? x.1 f.hasException).map (x.1.type, ·)).isSome) =
        Slot.isUnclaimed ∘ Prod.snd := by
    funext ⟨p, slot⟩
    cases slot with
    | handle a claimed =>
      cases claimed <;> cases null : a.isNull <;>
        simp [Slot.unreleased?, Slot.isUnclaimed, null]
    | _ => rfl
  have pairs : (f.signature.params.zip f.slots).map Prod.snd = f.slots :=
    List.map_snd_zip (Nat.le_of_eq typed.arity)
  rw [unreleased, List.length_filterMap_eq_countP, each, ← List.countP_map, pairs, unclaimed]

theorem books_construct {number : Nat} {sig : Signature} {receiver : Option Address}
    {args : List Argument} {policy : Policy} {f : Frame}
    (built : (construct number sig receiver args policy).1 = .ok f) :
    Effect.told (construct number sig receiver args policy).2 =
        [.frameConstruct f.signature.name f.slots.length] ∧
      ∀ counter, Effect.counted (construct number sig receiver args policy).2 counter = 0 := by
  obtain ⟨slots, effects, filled, rfl, entry⟩ := exists_filledAll_of_construct built
  have quiet := isQuiet_of_filledAll filled
  rw [entry]
  constructor
  · rw [Effect.told_append, Effect.told_eq_nil quiet]
    rfl
  · intro counter
    rw [Effect.counted_append, Effect.counted_eq_zero quiet]
    rfl

/-- Tearing a frame down is told and counted with the handles that were not claimed. -/
theorem WellTyped.books_teardown {f : Frame} (typed : f.WellTyped) :
    Effect.told f.teardown = [.frameTeardown f.signature.name f.unclaimed] ∧
      ∀ counter, Effect.counted f.teardown counter =
        if counter = .handlesReleased then f.unclaimed else 0 := by
  have released := Effect.isQuiet_of_isUpkeep f.isUpkeep_unreleased
  have discarded := Effect.isQuiet_of_isUpkeep f.isUpkeep_discard
  rw [teardown, typed.length_unreleased]
  constructor
  · rw [Effect.told_append, Effect.told_append, Effect.told_eq_nil released,
      Effect.told_eq_nil discarded]
    rfl
  · intro counter
    rw [Effect.counted_append, Effect.counted_append, Effect.counted_eq_zero released,
      Effect.counted_eq_zero discarded]
    cases counter <;> simp [Effect.counted, Effect.amount]

theorem WellTyped.books_end {f : Frame} (typed : f.WellTyped) {effects : List Effect}
    (ends : effects = f.finish.2 ∨ effects = f.abandon) :
    Effect.told effects = [.frameTeardown f.signature.name f.unclaimed] ∧
      ∀ counter, Effect.counted effects counter =
        if counter = .handlesReleased then f.unclaimed else 0 := by
  have outcome := Effect.isQuiet_of_isUpkeep f.isUpkeep_outcome
  have result := Effect.isQuiet_of_isUpkeep f.isUpkeep_discardResult
  obtain ⟨told, counted⟩ := typed.books_teardown
  rcases ends with rfl | rfl
  · rw [finish_eq]
    refine ⟨?_, fun counter ↦ ?_⟩
    · rw [Effect.told_append, Effect.told_eq_nil outcome, told, List.nil_append]
    · rw [Effect.counted_append, Effect.counted_eq_zero outcome, counted, Nat.zero_add]
  · rw [teardown] at told counted
    simp only [Effect.told_append, Effect.counted_append] at told counted
    refine ⟨?_, fun counter ↦ ?_⟩
    · simp only [abandon, Effect.told_append, Effect.told_eq_nil result, List.append_nil]
      exact told
    · simp only [abandon, Effect.counted_append, Effect.counted_eq_zero result, Nat.add_zero]
      exact counted counter

end Frame

namespace Function

theorem books_enter {fn : Function} {number : Nat} {receiver : Option Address}
    {args : List Argument} {f : Frame} {effects : List Effect}
    (entered : fn.enter number receiver args = (.ok f, effects)) :
    Effect.told effects =
        [.frameConstruct f.signature.name f.slots.length,
          .genericCall f.signature.name f.slots.length] ∧
      ∀ counter, Effect.counted effects counter = if counter = .callsMade then 1 else 0 := by
  obtain ⟨built, rfl⟩ := construct_of_enter entered
  obtain ⟨told, counted⟩ := Frame.books_construct built
  rw [(Frame.signature_exception_of_construct built).1] at told ⊢
  constructor
  · rw [Effect.told_append, told]
    rfl
  · intro counter
    rw [Effect.counted_append, counted]
    cases counter <;> rfl

/-- Leaving a call tells of the teardown first, and then of a return if there is one. Either there
is a return, or an exception or an error is counted. -/
theorem books_leave (fn : Function) {f : Frame} (typed : f.WellTyped) :
    Effect.told (fn.leave f).2 =
        .frameTeardown f.signature.name f.unclaimed ::
          (if Outcome.isReturned (fn.leave f).1 then [.genericReturn fn.signature.name] else []) ∧
      Effect.counted (fn.leave f).2 .callsMade = 0 ∧
      Effect.counted (fn.leave f).2 .handlesReleased = f.unclaimed ∧
      (if Outcome.isReturned (fn.leave f).1 then 1 else 0)
        + Effect.counted (fn.leave f).2 .exceptionsRaised
        + Effect.counted (fn.leave f).2 .marshalErrors = 1 := by
  obtain ⟨told, counted⟩ := typed.books_end (.inl rfl)
  unfold leave
  split
  all_goals
    next finished =>
      rw [finished] at told counted
      simp only [Effect.told_append, Effect.counted_append, told, counted]
      simp [Effect.told, Effect.counted, Effect.callEntry?, Effect.amount, LogEntry.isOfCall,
        Outcome.isReturned]

end Function

end CallingConvention
