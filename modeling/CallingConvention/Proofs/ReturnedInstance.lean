import CallingConvention.Proofs.Lifetime
import CallingConvention.Store

/-!
# What a returned instance is copied from

A call that returns an instance by value takes a copy of an object that native code gives it. What
is in the return storage by then ends first. So the copy is made of a live instance if the object is
alive apart from the return storage, and only then: given the return storage itself, in which native
code built an instance or to which one was copied before, the call ends that instance and copies
what is left of it.

Which instances are alive is followed through the moments of a call (`Moment.living`), and
`Frame.CopiesLive` says that every copy is made of one of them. Storage is followed with destructors
that leave anything at all behind (`Store.applyLeaving`), as nothing is promised about what they
leave.
-/

namespace CallingConvention

/-! ## Live instances -/

/-- The instances that are alive after a moment. Instances of one type may share an address, so one
may be alive more than once. -/
def Moment.living (alive : List Instance) : Moment → List Instance
  | begins i => i :: alive
  | ends i => alive.erase i

namespace Effect

/-- The instance that an effect makes a copy of. -/
def original? : Effect → Option Instance
  | copy t _ source => some ⟨t, source⟩
  | _ => none

/-- The instances that are alive after effects. -/
def living (alive : List Instance) (es : List Effect) : List Instance :=
  (moments es).foldl Moment.living alive

/-- Whether every copy is made of an instance that is alive then. -/
def CopiesLive (alive : List Instance) : List Effect → Prop
  | [] => True
  | e :: es => (∀ i, e.original? = some i → i ∈ alive) ∧ CopiesLive (living alive [e]) es

private theorem living_append (alive : List Instance) (es fs : List Effect) :
    living alive (es ++ fs) = living (living alive es) fs := by
  rw [living, moments_append, List.foldl_append]
  rfl

private theorem copiesLive_append {alive : List Instance} {es fs : List Effect} :
    CopiesLive alive (es ++ fs) ↔ CopiesLive alive es ∧ CopiesLive (living alive es) fs := by
  induction es generalizing alive with
  | nil => exact (and_iff_right trivial).symm
  | cons e es ih =>
    rw [List.cons_append, CopiesLive, CopiesLive, ih, and_assoc, ← living_append,
      List.singleton_append]

private theorem copiesLive_singleton {alive : List Instance} {e : Effect} :
    CopiesLive alive [e] ↔ ∀ i, e.original? = some i → i ∈ alive :=
  and_iff_left trivial

private theorem copiesLive_of_original {alive : List Instance} {es : List Effect}
    (none : ∀ e ∈ es, e.original? = none) : CopiesLive alive es := by
  induction es generalizing alive with
  | nil => trivial
  | cons e es ih =>
    obtain ⟨first, others⟩ := List.forall_mem_cons.mp none
    exact ⟨fun i copied ↦ absurd (copied.symm.trans first) (Option.some_ne_none i), ih others⟩

private theorem copiesLive_of_moments {alive : List Instance} {es : List Effect}
    (quiet : moments es = []) : CopiesLive alive es := by
  refine copiesLive_of_original fun e there ↦ ?_
  have none : e.moment? = none := List.filterMap_eq_nil_iff.mp quiet e there
  cases e with
  | copy => cases none
  | _ => rfl

end Effect

private theorem ScriptType.original?_destruct (t : ScriptType) (a : Address) :
    ∀ e ∈ t.destruct a, e.original? = none := by
  unfold destruct
  split
  · exact List.forall_mem_nil _
  · exact List.forall_mem_singleton.mpr rfl

/-! ## Storage that destructors leave -/

namespace Store

variable (leaves : Store → Address → List Byte)

/-- Carry out one effect, where `leaves` says what a destructor puts into the storage that it
leaves. -/
def applyLeaving (s : Store) (e : Effect) : Store :=
  match e with
  | .destruct _ a => (s.apply e).put a (leaves s a)
  | _ => s.apply e

/-- Carry out effects in order, where `leaves` says what destructors leave. -/
def applyAllLeaving (s : Store) (es : List Effect) : Store :=
  es.foldl (applyLeaving leaves) s

@[simp] theorem applyAllLeaving_nil (s : Store) : s.applyAllLeaving leaves [] = s := rfl

@[simp] theorem applyAllLeaving_cons (s : Store) (e : Effect) (es : List Effect) :
    s.applyAllLeaving leaves (e :: es) = (s.applyLeaving leaves e).applyAllLeaving leaves es := rfl

@[simp] theorem applyAllLeaving_append (s : Store) (es fs : List Effect) :
    s.applyAllLeaving leaves (es ++ fs) =
      (s.applyAllLeaving leaves es).applyAllLeaving leaves fs :=
  List.foldl_append

theorem bytes_applyLeaving_destruct (s : Store) (t : ScriptType) (a b : Address) :
    (s.applyLeaving leaves (.destruct t a)).bytes b = (s.put a (leaves s a)).bytes b := by
  have announced : (s.apply (.destruct t a)).bytes = s.bytes := by
    rw [apply]
    split <;> rfl
  by_cases same : b = a
  · -- what is left goes over what was there, and the hook alone changed nothing there
    subst same
    rw [applyLeaving, bytes_put_self, bytes_put_self, announced]
  · rw [applyLeaving, bytes_put_of_ne _ _ same, bytes_put_of_ne _ _ same, announced]

private theorem read_applyLeaving_copy {t : ScriptType} {hook : CopyHook}
    (copied : t.behaviours.copy = some hook) (s : Store) (a source : Address) :
    (s.applyLeaving leaves (.copy t a source)).read a hook.shape = s.read source hook.shape := by
  have done : s.applyLeaving leaves (.copy t a source) = s.apply (.copy t a source) := rfl
  rw [done, apply, copied]
  exact read_copy_self _ a source hook.shape

end Store

/-! ## The returned instance -/

namespace Frame

/-- The instances in the return storage of a call that returns a type by value. -/
def occupants (f : Frame) (t : ScriptType) : List Instance :=
  if f.isOccupied then [⟨t, f.resultAddress⟩] else []

/-- The instances that are alive after an operation of native code. -/
def living (f : Frame) (alive : List Instance) (op : Operation) : List Instance :=
  (f.inPlace op ++ Effect.moments (f.perform op).effects).foldl Moment.living alive

/-- Whether every copy that operations make is made of an instance that is alive then. -/
def CopiesLive (f : Frame) (alive : List Instance) : List Operation → Prop
  | [] => True
  | op :: ops =>
    Effect.CopiesLive alive (f.perform op).effects ∧
      (f.perform op).frame.CopiesLive (f.living alive op) ops

theorem setReturnObject_of_value {f : Frame} {t : ScriptType} {constructed : Bool}
    (returns : f.signature.returns = .value t) (result : f.result = .object constructed)
    (copied : t.behaviours.copy.isSome = true) {a : Address} (given : a ≠ .null) :
    f.setReturnObject a = .done () { f with result := .object true }
      ((if f.isOccupied then t.destruct f.resultAddress else []) ++
        [.copy t f.resultAddress a]) := by
  have there : a.isNull = false := Bool.eq_false_iff.mpr (mt Address.isNull_iff.mp given)
  rw [setReturnObject, returns, isOccupied_of_result result]
  simp only [there, ScriptType.copy, copied, result, if_true, Bool.false_eq_true, if_false]

private theorem foldl_living_endings {f : Frame} {t : ScriptType}
    (destructed : t.isDestructed = true) (others : List Instance) :
    (if f.isOccupied then Instance.endings ⟨t, f.resultAddress⟩ else []).foldl Moment.living
      (f.occupants t ++ others) = others := by
  rw [occupants, Instance.endings, if_pos destructed]
  cases f.isOccupied with
  | false => rfl
  | true => exact List.erase_cons_head _ _

/-- The copy is made of a live instance if and only if the object is alive apart from the return
storage. -/
private theorem copiesLive_setReturnObject {f : Frame} {t : ScriptType} {constructed : Bool}
    (returns : f.signature.returns = .value t) (result : f.result = .object constructed)
    (copied : t.behaviours.copy.isSome = true) (destructed : t.isDestructed = true) {a : Address}
    (given : a ≠ .null) {others : List Instance} :
    Effect.CopiesLive (f.occupants t ++ others) (f.setReturnObject a).effects ↔
      ⟨t, a⟩ ∈ others := by
  have ending : Effect.CopiesLive (f.occupants t ++ others)
      (if f.isOccupied then t.destruct f.resultAddress else []) := by
    refine Effect.copiesLive_of_original fun e there ↦ ?_
    split at there
    · exact t.original?_destruct _ e there
    · exact absurd there List.not_mem_nil
  rw [setReturnObject_of_value returns result copied given, Reaction.done,
    Effect.copiesLive_append, and_iff_right ending, Effect.living, apply_ite Effect.moments,
    ScriptType.moments_destruct, Effect.moments, List.filterMap_nil,
    foldl_living_endings destructed, Effect.copiesLive_singleton]
  exact ⟨fun h ↦ h _ rfl, fun h i original ↦ Option.some.inj original ▸ h⟩

/-- The store in which an object is copied that is to be returned: what was in the return storage
has ended. -/
def vacated (leaves : Store → Address → List Byte) (f : Frame) (t : ScriptType) (s : Store) :
    Store :=
  s.applyAllLeaving leaves (if f.isOccupied then t.destruct f.resultAddress else [])

/-- The return storage then holds what the object held when the copy was made. -/
theorem read_setReturnObject {f : Frame} {t : ScriptType} {constructed : Bool} {hook : CopyHook}
    (returns : f.signature.returns = .value t) (result : f.result = .object constructed)
    (copied : t.behaviours.copy = some hook) {a : Address} (given : a ≠ .null)
    (leaves : Store → Address → List Byte) (s : Store) :
    (s.applyAllLeaving leaves (f.setReturnObject a).effects).read f.resultAddress hook.shape =
      (f.vacated leaves t s).read a hook.shape := by
  have hooked : t.behaviours.copy.isSome = true := by rw [copied]; rfl
  rw [setReturnObject_of_value returns result hooked given, Reaction.done,
    Store.applyAllLeaving_append, Store.applyAllLeaving_cons, Store.applyAllLeaving_nil,
    Store.read_applyLeaving_copy _ copied]
  rfl

/-- An instance that ends leaves its storage to its destructor. -/
theorem bytes_vacated_resultAddress {f : Frame} {t : ScriptType} (full : f.isOccupied = true)
    (destructed : t.isDestructed = true) (leaves : Store → Address → List Byte) (s : Store) :
    (f.vacated leaves t s).bytes f.resultAddress =
      (s.put f.resultAddress (leaves s f.resultAddress)).bytes f.resultAddress := by
  have there : t.behaviours.destruct.isSome = true := destructed
  rw [vacated, full, if_pos rfl, ScriptType.destruct, Option.isNone_eq_false_iff.mpr there,
    if_neg Bool.false_ne_true, Store.applyAllLeaving_cons, Store.applyAllLeaving_nil,
    Store.bytes_applyLeaving_destruct]

theorem bytes_vacated {f : Frame} {t : ScriptType} {a : Address}
    (apart : a ≠ f.resultAddress ∨ f.isOccupied = false ∨ t.isDestructed = false)
    (leaves : Store → Address → List Byte) (s : Store) :
    (f.vacated leaves t s).bytes a = s.bytes a := by
  have unended (nothing : t.destruct f.resultAddress = [] ∨ f.isOccupied = false) :
      f.vacated leaves t s = s := by
    rw [vacated]
    rcases nothing with nothing | vacant
    · rw [nothing, ite_self, Store.applyAllLeaving_nil]
    · rw [vacant, if_neg Bool.false_ne_true, Store.applyAllLeaving_nil]
  rcases apart with elsewhere | vacant | undestructed
  · cases full : f.isOccupied with
    | false => rw [unended (.inr full)]
    | true =>
      rw [vacated, full, if_pos rfl, ScriptType.destruct]
      split
      · rfl
      · rw [Store.applyAllLeaving_cons, Store.applyAllLeaving_nil,
          Store.bytes_applyLeaving_destruct, Store.bytes_put_of_ne _ _ elsewhere]
  · rw [unended (.inr vacant)]
  · refine congrArg (Store.bytes · a) (unended (.inl ?_))
    rw [ScriptType.destruct, Option.not_isSome_iff_eq_none.mp (ne_true_of_eq_false undestructed)]
    rfl

theorem living_perform {f : Frame} {t : ScriptType} {constructed : Bool}
    (returns : f.signature.returns = .value t) (result : f.result = .object constructed)
    (destructed : t.isDestructed = true) {op : Operation}
    (vacant : op = .markConstructed → f.isOccupied = false) (others : List Instance) :
    f.living (f.occupants t ++ others) op = (f.perform op).frame.occupants t ++ others := by
  have moved (g : Frame) (there : g.result = .object true) (same : f.SameCall g) :
      g.occupants t = [⟨t, f.resultAddress⟩] := by
    rw [occupants, isOccupied_of_result there, if_pos rfl, same.resultAddress]
  have same := (change_perform f op).sameCall
  cases turnover_perform returns result op with
  | still unchanged quiet none =>
    rw [living, quiet, none, occupants, occupants, isOccupied, isOccupied, unchanged,
      same.resultAddress]
    rfl
  | replaced there quiet replacing =>
    rw [living, quiet, replacing, List.nil_append, List.foldl_append,
      foldl_living_endings destructed, moved _ there same]
    rfl
  | built mark there new none =>
    rw [living, new, none, List.append_nil, moved _ there same, occupants, vacant mark]
    rfl

/-- An operation makes its copies of live instances, unless it is asked to return an object that is
not alive apart from the return storage. -/
theorem copiesLive_perform {f : Frame} {t : ScriptType} {constructed : Bool}
    (returns : f.signature.returns = .value t) (result : f.result = .object constructed)
    (copied : t.behaviours.copy.isSome = true) (destructed : t.isDestructed = true)
    (op : Operation) (others : List Instance) :
    Effect.CopiesLive (f.occupants t ++ others) (f.perform op).effects ↔
      ∀ a, op = .setReturnObject a → a ≠ .null → ⟨t, a⟩ ∈ others := by
  have other (none : Effect.moments (f.perform op).effects = [])
      (different : ∀ a, op ≠ .setReturnObject a) :
      Effect.CopiesLive (f.occupants t ++ others) (f.perform op).effects ↔
        ∀ a, op = .setReturnObject a → a ≠ .null → ⟨t, a⟩ ∈ others :=
    iff_of_true (Effect.copiesLive_of_moments none) fun a asked ↦ absurd asked (different a)
  cases op with
  | setReturnObject a =>
    by_cases given : a = .null
    · -- null is refused before anything is copied
      subst given
      refine iff_of_true ?_ fun b asked given ↦ ?_
      · rw [perform, Reaction.effects_map, setReturnObject, returns]
        exact trivial
      · exact absurd (Operation.setReturnObject.inj asked).symm given
    · rw [perform, Reaction.effects_map,
        copiesLive_setReturnObject returns result copied destructed given]
      constructor
      · rintro live b asked -
        exact Operation.setReturnObject.inj asked ▸ live
      · exact fun live ↦ live a rfl given
  | setReturnAddress a => exact other (moments_setReturnAddress f a) fun _ ↦ Operation.noConfusion
  | setReturnHandle h => exact other (moments_setReturnHandle f h) fun _ ↦ Operation.noConfusion
  | _ => exact other (moments_effects_perform f rfl) fun _ ↦ Operation.noConfusion

/-! ## Sequences of operations -/

theorem WellTyped.copiesLive_iff {f : Frame} (typed : f.WellTyped) {t : ScriptType}
    (returns : f.signature.returns = .value t) (copied : t.behaviours.copy.isSome = true)
    (destructed : t.isDestructed = true) {ops : List Operation} (vacant : f.MarksVacant ops)
    (others : List Instance) :
    f.CopiesLive (f.occupants t ++ others) ops ↔
      ∀ a, .setReturnObject a ∈ ops → a ≠ .null → ⟨t, a⟩ ∈ others := by
  induction ops generalizing f with
  | nil => exact iff_of_true trivial fun a there ↦ absurd there List.not_mem_nil
  | cons op ops ih =>
    obtain ⟨now, later⟩ := vacant
    obtain ⟨constructed, result⟩ := typed.exists_object returns
    have rest := ih (typed.perform op) ((change_perform f op).sameCall.signature ▸ returns) later
    rw [CopiesLive, copiesLive_perform returns result copied destructed,
      living_perform returns result destructed now, rest]
    constructor
    · rintro ⟨first, others⟩ a there given
      rcases List.mem_cons.mp there with asked | there
      · exact first a asked.symm given
      · exact others a there given
    · intro all
      exact ⟨fun a asked ↦ all a (asked ▸ List.mem_cons_self),
        fun a there ↦ all a (List.mem_cons_of_mem op there)⟩

theorem WellTyped.living_run {f : Frame} (typed : f.WellTyped) {t : ScriptType}
    (returns : f.signature.returns = .value t) (destructed : t.isDestructed = true)
    {ops : List Operation} (vacant : f.MarksVacant ops) (others : List Instance) :
    (f.moments ops).foldl Moment.living (f.occupants t ++ others) =
      (f.run ops).frame.occupants t ++ others := by
  induction ops generalizing f with
  | nil => rfl
  | cons op ops ih =>
    obtain ⟨now, later⟩ := vacant
    obtain ⟨constructed, result⟩ := typed.exists_object returns
    have rest := ih (typed.perform op) ((change_perform f op).sameCall.signature ▸ returns) later
    have first := living_perform returns result destructed now others
    rw [living] at first
    rw [moments, List.foldl_append, first, rest, frame_run_cons]

/-- **What a returned instance is copied from.** The return storage holds what the object held,
unless the object is the instance that is already there. That one ends first, and what its
destructor left is copied. -/
theorem returned_object_copied {number : Nat} {sig : Signature} {receiver : Option Address}
    {args : List Argument} {policy : Policy} {f : Frame} {t : ScriptType} {hook : CopyHook}
    {ops : List Operation} (built : (construct number sig receiver args policy).1 = .ok f)
    (returns : sig.returns = .value t) (copied : t.behaviours.copy = some hook)
    (destructed : t.isDestructed = true) (vacant : f.MarksVacant ops) (others : List Instance) :
    (f.run ops).frame.returnLocation = f.resultAddress ∧
      (f.moments ops).foldl Moment.living others = (f.run ops).frame.occupants t ++ others ∧
      (∀ a, a ≠ .null →
        ((f.run ops).frame.setReturnObject a).answer = .ok () ∧
          ((f.run ops).frame.setReturnObject a).frame.isOccupied = true ∧
          (Effect.CopiesLive ((f.run ops).frame.occupants t ++ others)
              ((f.run ops).frame.setReturnObject a).effects ↔ ⟨t, a⟩ ∈ others) ∧
          (a ≠ f.resultAddress ∨ (f.run ops).frame.isOccupied = false → ∀ leaves (s : Store),
            (s.applyAllLeaving leaves ((f.run ops).frame.setReturnObject a).effects).read
              f.resultAddress hook.shape = s.read a hook.shape) ∧
          (a = f.resultAddress → (f.run ops).frame.isOccupied = true → ∀ leaves (s : Store),
            (s.applyAllLeaving leaves ((f.run ops).frame.setReturnObject a).effects).read
              f.resultAddress hook.shape = (s.put a (leaves s a)).read a hook.shape)) ∧
      (f.CopiesLive others ops ↔ ∀ a, .setReturnObject a ∈ ops → a ≠ .null → ⟨t, a⟩ ∈ others) := by
  have hooked : t.behaviours.copy.isSome = true := by rw [copied]; rfl
  have typed := wellTyped_of_construct built
  have empty_at_first : f.occupants t = [] := if_neg (by rw [isOccupied_of_construct built]; decide)
  obtain ⟨slots, effects, -, hf, -⟩ := exists_filledAll_of_construct built
  have declared : f.signature.returns = .value t := by rw [hf, returns]
  have same := sameCall_run f ops
  have still : (f.run ops).frame.signature.returns = .value t := same.signature ▸ declared
  obtain ⟨constructed, result⟩ := (typed.run ops).exists_object still
  -- the frame after the operations is taken for the call that one more object is returned from
  refine ⟨?_, ?_, fun a given ↦
    ⟨?_, ?_, ?_, fun apart leaves s ↦ ?_, fun own full leaves s ↦ ?_⟩, ?_⟩
  · rw [returnLocation, result, same.resultAddress]
  · have alive := typed.living_run declared destructed vacant others
    rwa [empty_at_first] at alive
  · rw [setReturnObject_of_value still result hooked given, Reaction.done]
  · rw [setReturnObject_of_value still result hooked given, Reaction.done]
    rfl
  · exact copiesLive_setReturnObject still result hooked destructed given
  · rw [← same.resultAddress] at apart ⊢
    rw [read_setReturnObject still result copied given, Store.read, Store.read,
      bytes_vacated (apart.imp_right .inl)]
  · rw [own, ← same.resultAddress] at given ⊢
    rw [read_setReturnObject still result copied given, Store.read, Store.read,
      bytes_vacated_resultAddress full destructed]
  · have all := typed.copiesLive_iff declared hooked destructed vacant others
    rwa [empty_at_first] at all

/-- A type of values that are made, copied and destroyed. -/
def badge : ScriptType where
  name := "Badge"
  category := .value
  layout := .address
  shape := .word
  behaviours := { Behaviours.none with
    construct := some ⟨.word 0, .silent⟩
    copy := some ⟨.word, .silent⟩
    destruct := some ⟨.silent⟩ }

/-- `Badge issue()`. -/
def issue : Signature where
  name := "issue"
  object := none
  params := []
  returns := .value badge

/-- A call of `issue`. -/
def issuing : Frame where
  number := 0
  signature := issue
  receiver := .null
  slots := []
  result := .object false
  policy := .strict
  exception := none

/-- A call that builds its result in place and then returns another instance. -/
theorem returned_object_copied_issuing :
    Effect.CopiesLive [⟨badge, .result 0⟩, ⟨badge, .region 0⟩]
        ((issuing.run [.markConstructed]).frame.setReturnObject (.region 0)).effects ∧
      issuing.CopiesLive [⟨badge, .region 0⟩] [.markConstructed, .setReturnObject (.region 0)] := by
  have built : (construct 0 issue none [] .strict).1 = .ok issuing := rfl
  have once : issuing.MarksVacant [.markConstructed] := ⟨fun _ ↦ rfl, trivial⟩
  have twice : issuing.MarksVacant [.markConstructed, .setReturnObject (.region 0)] :=
    ⟨fun _ ↦ rfl, Operation.noConfusion, trivial⟩
  obtain ⟨-, -, taken, -⟩ :=
    returned_object_copied built rfl rfl rfl once [⟨badge, .region 0⟩]
  obtain ⟨-, -, -, all⟩ := returned_object_copied built rfl rfl rfl twice [⟨badge, .region 0⟩]
  refine ⟨(taken (.region 0) (by decide)).2.2.1.mpr List.mem_cons_self, all.mpr ?_⟩
  rintro a there -
  have asked : a = .region 0 := by simpa using there
  exact asked ▸ List.mem_cons_self

/-- A call that builds its result in place and is then given the result where it lies: the instance
ends, the copy is made of what has ended, and what was built is lost if the destructor leaves
something else. -/
theorem own_result_is_copied_late :
    (issuing.run [.markConstructed]).frame.returnLocation = .result 0 ∧
      issuing.moments [.markConstructed] = [.begins ⟨badge, .result 0⟩] ∧
      ((issuing.run [.markConstructed]).frame.setReturnObject (.result 0)).answer = .ok () ∧
      ((issuing.run [.markConstructed]).frame.setReturnObject (.result 0)).effects =
        [.destruct badge (.result 0), .copy badge (.result 0) (.result 0)] ∧
      ¬ Effect.CopiesLive [⟨badge, .result 0⟩]
        ((issuing.run [.markConstructed]).frame.setReturnObject (.result 0)).effects ∧
      Store.empty.read (.result 0) .word = .word 0 ∧
      (Store.empty.applyAllLeaving (fun _ _ ↦ [.plain 1])
        ((issuing.run [.markConstructed]).frame.setReturnObject (.result 0)).effects).read
          (.result 0) .word = .word 1 := by
  refine ⟨rfl, rfl, rfl, rfl, ?_, rfl, rfl⟩
  rintro ⟨-, live, -⟩
  exact absurd (live ⟨badge, .result 0⟩ rfl) (by decide)

end Frame

end CallingConvention
