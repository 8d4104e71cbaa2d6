import CallingConvention.Proofs.Acceptance
import CallingConvention.Registry
import Mathlib.Algebra.Group.Nat.Defs

/-!
# Histories of a registry

A registry keeps two tables and a counter in step. `Registry.Records` says what all three come to:
the list of the functions that were registered, in order. A request that is granted appends to this
list, a request that is refused leaves the registry alone (`Records.attempt`), and so the list
answers every question about a registry after any history of requests (`Records.after`).

The numbers are words of 32 bits. The counter wraps around after `2 ^ 32` registrations, and the
histories considered here are those that do not get that far.
-/

namespace CallingConvention

namespace Registry

/-! ## Requests -/

/-- A request to a registry. -/
inductive Request (Code : Type) where
  | prepared (l : Linked Code)
  | function (s : Signature) (code : Code)
  | method (s : Signature) (code : Code)

variable {Code : Type} {r : Registry Code} {q : Request Code}

namespace Request

/-- The function to be registered, given the policy of the registry. -/
def linked (policy : Policy) : Request Code → Linked Code
  | prepared l => l
  | function s code => ⟨⟨s, policy, none⟩, code⟩
  | method s code => ⟨⟨s, policy, none⟩, code⟩

/-- The name under which the function is to be registered. -/
def qualifiedName : Request Code → String
  | prepared l => l.qualifiedName
  | function s _ => s.qualifiedName
  | method s _ => s.qualifiedName

/-- Whether the signature is of the kind that the request is for. -/
def IsProper : Request Code → Prop
  | method s _ => s.isMethod = true
  | _ => True

@[simp] theorem qualifiedName_linked (policy : Policy) (q : Request Code) :
    (q.linked policy).qualifiedName = q.qualifiedName := by
  cases q <;> rfl

end Request

/-- Make a request. -/
def attempt (r : Registry Code) : Request Code → Attempt Code
  | .prepared l => r.register l
  | .function s code => r.registerFunction s code
  | .method s code => r.registerMethod s code

/-- The registry after requests. -/
def after (r : Registry Code) (qs : List (Request Code)) : Registry Code :=
  qs.foldl (fun r q ↦ (r.attempt q).registry) r

/-- The functions of the requests that are granted, in order. -/
def granted (r : Registry Code) : List (Request Code) → List (Linked Code)
  | [] => []
  | q :: qs =>
    let a := r.attempt q
    match a.answer with
    | .ok _ => q.linked r.policy :: a.registry.granted qs
    | .error _ => a.registry.granted qs

@[simp] theorem after_cons (r : Registry Code) (q : Request Code) (qs : List (Request Code)) :
    r.after (q :: qs) = (r.attempt q).registry.after qs := rfl

private theorem granted_append (r : Registry Code) (qs later : List (Request Code)) :
    r.granted (qs ++ later) = r.granted qs ++ (r.after qs).granted later := by
  induction qs generalizing r with
  | nil => rfl
  | cons q qs ih =>
    simp only [List.cons_append, granted, after_cons, ih]
    cases (r.attempt q).answer <;> rfl

/-! ## One request -/

/-- What a registry does about a request. -/
inductive Decides (r : Registry Code) (q : Request Code) : Attempt Code → Prop
  | grant (proper : q.IsProper) (fresh : r.find? q.qualifiedName = none) :
      Decides r q ⟨.ok r.nextId, r.enter (q.linked r.policy),
        [.log (.registerFunction q.qualifiedName r.nextId.toNat
          (q.linked r.policy).function.signature.display)]⟩
  | duplicate (proper : q.IsProper) {id : FunctionId}
      (taken : r.find? q.qualifiedName = some id) :
      Decides r q ⟨.error (.duplicateFunction q.qualifiedName), r, []⟩
  | improper (improper : ¬q.IsProper) :
      Decides r q ⟨.error (.notAMethod q.qualifiedName), r, []⟩

private theorem attempt_of_isProper (r : Registry Code) (proper : q.IsProper) :
    r.attempt q = r.register (q.linked r.policy) := by
  cases q with
  | prepared l => rfl
  | function s code => rfl
  | method s code => exact if_pos proper

private theorem attempt_of_not_isProper (r : Registry Code) (improper : ¬q.IsProper) :
    r.attempt q = ⟨.error (.notAMethod q.qualifiedName), r, []⟩ := by
  cases q with
  | prepared l => exact absurd trivial improper
  | function s code => exact absurd trivial improper
  | method s code => exact if_neg improper

private theorem decides_attempt (r : Registry Code) (q : Request Code) :
    r.Decides q (r.attempt q) := by
  by_cases proper : q.IsProper
  · rw [attempt_of_isProper r proper, register, Request.qualifiedName_linked]
    cases found : r.find? q.qualifiedName with
    | none =>
      have absent : r.ids.contains q.qualifiedName = false := by
        rw [Table.contains]
        exact Option.isSome_eq_false_iff.mpr (Option.isNone_iff_eq_none.mpr found)
      rw [absent]
      exact .grant proper found
    | some id =>
      have present : r.ids.contains q.qualifiedName = true := Option.isSome_of_eq_some found
      rw [present]
      exact .duplicate proper found
  · rw [attempt_of_not_isProper r proper]
    exact .improper proper

private theorem policy_attempt (r : Registry Code) (q : Request Code) :
    (r.attempt q).registry.policy = r.policy := by
  generalize made : r.attempt q = a
  cases made ▸ decides_attempt r q <;> rfl

private theorem policy_after (r : Registry Code) (qs : List (Request Code)) :
    (r.after qs).policy = r.policy := by
  induction qs generalizing r with
  | nil => rfl
  | cons q qs ih => rw [after_cons, ih, policy_attempt]

/-! ## What a registry records -/

/-- Two tables and a counter that all record the same functions, in the order of their numbers. -/
structure Records (r : Registry Code) (ls : List (Linked Code)) : Prop where
  /-- The counter has counted them. -/
  nextId : r.nextId = BitVec.ofNat 32 ls.length
  /-- There are no others. -/
  size : r.size = ls.length
  /-- Each is found by its number, -/
  get? : ∀ id, r.get? id = ls[id.toNat]?
  /-- and by its name. -/
  find? : ∀ name id, r.find? name = some id ↔
    ∃ l, ls[id.toNat]? = some l ∧ l.qualifiedName = name

variable {ls : List (Linked Code)}

private theorem records_empty (policy : Policy) : (empty policy : Registry Code).Records [] where
  nextId := rfl
  size := rfl
  get? id := by simp [Registry.get?, empty]
  find? name id := by simp [Registry.find?, empty]

namespace Records

private theorem toNat_ofNat_of_lt {n : Nat} (small : n < 2 ^ 32) :
    (BitVec.ofNat 32 n).toNat = n :=
  (BitVec.toNat_ofNat ..).trans (Nat.mod_eq_of_lt small)

private theorem exists_find?_iff (h : r.Records ls) (few : ls.length ≤ 2 ^ 32) (name : String) :
    (∃ id, r.find? name = some id) ↔ name ∈ ls.map Linked.qualifiedName := by
  simp only [h.find?, List.mem_map]
  constructor
  · rintro ⟨id, l, there, named⟩
    exact ⟨l, List.mem_of_getElem? there, named⟩
  · rintro ⟨l, there, named⟩
    obtain ⟨i, hi, rfl⟩ := List.getElem_of_mem there
    refine ⟨BitVec.ofNat 32 i, ls[i], ?_, named⟩
    rw [toNat_ofNat_of_lt (Nat.lt_of_lt_of_le hi few), List.getElem?_eq_getElem hi]

private theorem find?_eq_none_iff (h : r.Records ls) (few : ls.length ≤ 2 ^ 32) (name : String) :
    r.find? name = none ↔ name ∉ ls.map Linked.qualifiedName := by
  rw [← h.exists_find?_iff few, not_exists]
  exact Option.eq_none_iff_forall_ne_some

private theorem toNat_nextId (h : r.Records ls) (few : ls.length < 2 ^ 32) :
    r.nextId.toNat = ls.length := by
  rw [h.nextId, toNat_ofNat_of_lt few]

theorem enter (h : r.Records ls) (few : ls.length < 2 ^ 32) {l : Linked Code}
    (fresh : r.find? l.qualifiedName = none) : (r.enter l).Records (ls ++ [l]) := by
  have number := h.toNat_nextId few
  have past : ls[r.nextId.toNat]? = none := List.getElem?_eq_none (Nat.le_of_eq number.symm)
  have unused : r.get? r.nextId = none := (h.get? _).trans past
  have here : (ls ++ [l])[r.nextId.toNat]? = some l := by
    rw [number, List.getElem?_concat_length]
  have elsewhere {id : FunctionId} (old : id ≠ r.nextId) :
      (ls ++ [l])[id.toNat]? = ls[id.toNat]? := by
    have other : id.toNat ≠ ls.length := fun e ↦ old (BitVec.eq_of_toNat_eq (e.trans number.symm))
    grind
  refine ⟨?_, ?_, fun id ↦ ?_, fun name id ↦ ?_⟩
  · simp [Registry.enter, h.nextId, BitVec.ofNat_add]
  · rw [List.length_append, List.length_singleton, ← h.size]
    exact Table.size_insert_of_get?_eq_none unused l
  · by_cases old : id = r.nextId
    · rw [old, here]
      exact Table.get?_insert_self ..
    · rw [elsewhere old, ← h.get?]
      exact Table.get?_insert_of_ne _ _ old
  · -- the new name has the new number, and no old name has it
    have lookup : (r.enter l).find? name = some id ↔
        if name = l.qualifiedName then r.nextId = id else r.find? name = some id := by
      rw [Registry.find?, Registry.enter, Table.get?_insert]
      split <;> simp [Registry.find?]
    rw [lookup]
    by_cases old : id = r.nextId
    · have never : r.find? name ≠ some r.nextId := by
        rw [Ne, h.find?, past]
        rintro ⟨_, none, -⟩
        cases none
      by_cases named : name = l.qualifiedName
      · simp [old, here, named]
      · simp [old, here, named, never, Ne.symm named]
    · rw [elsewhere old, ← h.find?]
      by_cases named : name = l.qualifiedName
      · simp [named, fresh, Ne.symm old]
      · simp [named]

theorem attempt (h : r.Records ls) (q : Request Code)
    (few : (ls ++ r.granted [q]).length ≤ 2 ^ 32) :
    (r.attempt q).registry.Records (ls ++ r.granted [q]) := by
  have decided := decides_attempt r q
  simp only [granted] at few ⊢
  generalize r.attempt q = a at decided few ⊢
  cases decided with
  | grant proper fresh =>
    rw [List.length_append, List.length_singleton] at few
    exact h.enter few (by rwa [Request.qualifiedName_linked])
  | duplicate proper taken => rwa [List.append_nil]
  | improper improper => rwa [List.append_nil]

/-- A registry records what was granted to it. -/
theorem after (h : r.Records ls) (qs : List (Request Code))
    (few : (ls ++ r.granted qs).length ≤ 2 ^ 32) : (r.after qs).Records (ls ++ r.granted qs) := by
  induction qs generalizing r ls with
  | nil => simpa [granted, Registry.after] using h
  | cons q qs ih =>
    have split : r.granted (q :: qs) = r.granted [q] ++ (r.attempt q).registry.granted qs :=
      r.granted_append [q] qs
    rw [split, ← List.append_assoc] at few ⊢
    have enough : (ls ++ r.granted [q]).length ≤ 2 ^ 32 :=
      Nat.le_trans (List.prefix_append ..).length_le few
    exact ih (h.attempt q enough) few

end Records

end Registry

/-! ## Calls -/

private theorem Frame.exists_name_of_outcome {f : Frame} {e : CallError}
    (failed : f.outcome.1 = .error e) : ∃ name, e = .returnNotConstructed name := by
  unfold outcome at failed
  repeat' split at failed
  all_goals cases failed
  exact ⟨_, rfl⟩

private theorem Function.error_of_invoke {fn : Function} {native : Native}
    {receiver : Option Address} {args : List Argument} {s : Store} {e : CallError}
    (failed : (fn.invoke native receiver args s).1 = .error e) :
    fn.signature.FirstFault receiver args fn.policy e ∨ ∃ name, e = .returnNotConstructed name := by
  rcases fn.signature.accepts_or_firstFault receiver args fn.policy with accepts | ⟨fault, first⟩
  · right
    obtain ⟨slots, effects, -, -, built⟩ := Frame.construct_of_accepts accepts s.newFrame.1
    simp only [invoke, enter, built, outcome_leave] at failed
    exact Frame.exists_name_of_outcome failed
  · left
    simp only [invoke, enter, Frame.construct_of_firstFault first] at failed
    exact Except.error.inj failed ▸ first

private theorem Argument.fault_ne_unknownFunction (index : Nat) (p : Param) (arg : Argument)
    (name : String) : arg.fault index p ≠ .unknownFunction name := by
  unfold fault
  repeat' split
  all_goals exact nofun

theorem Function.invoke_ne_unknownFunction (fn : Function) (native : Native)
    (receiver : Option Address) (args : List Argument) (s : Store) (name : String) :
    (fn.invoke native receiver args s).1 ≠ .error (.unknownFunction name) := by
  intro failed
  rcases error_of_invoke failed with first | ⟨_, other⟩
  · generalize unknown : CallError.unknownFunction name = e at first
    cases first with
    | argument => exact Argument.fault_ne_unknownFunction _ _ _ name unknown.symm
    | _ => cases unknown
  · cases other

namespace Registry

/-- A registry in which a history of requests was made. -/
def ofHistory {Code : Type} (policy : Policy) (history : List (Request Code)) : Registry Code :=
  (empty policy).after history

/-- The functions that a history of requests registers, in order. -/
def registeredBy {Code : Type} (policy : Policy) (history : List (Request Code)) :
    List (Linked Code) :=
  (empty policy).granted history

/-- The names that are taken after a history of requests. -/
def takenNames {Code : Type} (policy : Policy) (history : List (Request Code)) : List String :=
  (registeredBy policy history).map Linked.qualifiedName

theorem records_ofHistory {Code : Type} {policy : Policy} {history : List (Request Code)}
    (few : (registeredBy policy history).length ≤ 2 ^ 32) :
    (ofHistory policy history).Records (registeredBy policy history) :=
  (records_empty policy).after history few

/-- The answer to one request of a history, and what is left of it at the end. -/
theorem answer_ofHistory {Code : Type} {policy : Policy} {before later : List (Request Code)}
    {q : Request Code} (few : (registeredBy policy (before ++ q :: later)).length ≤ 2 ^ 32) :
    ((∃ id, ((ofHistory policy before).attempt q).answer = .ok id) ↔
        q.IsProper ∧ q.qualifiedName ∉ takenNames policy before) ∧
      (∀ id, ((ofHistory policy before).attempt q).answer = .ok id →
        id.toNat = (registeredBy policy before).length ∧
          (ofHistory policy (before ++ q :: later)).find? q.qualifiedName = some id ∧
          (ofHistory policy (before ++ q :: later)).get? id = some (q.linked policy)) ∧
      ∀ e, ((ofHistory policy before).attempt q).answer = .error e →
        (ofHistory policy before).attempt q = ⟨.error e, ofHistory policy before, []⟩ ∧
          (q.IsProper ∧ e = .duplicateFunction q.qualifiedName ∨
            ¬q.IsProper ∧ e = .notAMethod q.qualifiedName) := by
  have split : registeredBy policy (before ++ q :: later) =
      registeredBy policy before ++ (ofHistory policy before).granted (q :: later) :=
    granted_append ..
  have atEnd := records_ofHistory few
  have enough : (registeredBy policy before).length ≤ 2 ^ 32 :=
    Nat.le_trans (split ▸ List.prefix_append ..).length_le few
  have atFirst := records_ofHistory enough
  have free := atFirst.find?_eq_none_iff enough q.qualifiedName
  have same : (ofHistory policy before).policy = policy := policy_after _ before
  have decided := decides_attempt (ofHistory policy before) q
  rw [granted] at split
  generalize (ofHistory policy before).attempt q = a at split decided ⊢
  cases decided with
  | grant proper fresh =>
    simp only [same] at split
    have less : (registeredBy policy before).length < 2 ^ 32 := by
      rw [split, List.length_append, List.length_cons] at few
      omega
    have number := atFirst.toNat_nextId less
    have there : (registeredBy policy (before ++ q :: later))[
        (ofHistory policy before).nextId.toNat]? = some (q.linked policy) := by
      rw [split, number, List.getElem?_append_right (Nat.le_refl _), Nat.sub_self]
      rfl
    refine ⟨iff_of_true ⟨_, rfl⟩ ⟨proper, free.mp fresh⟩, ?_, nofun⟩
    rintro _ ⟨⟩
    have named := (atEnd.find? _ _).mpr ⟨_, there, q.qualifiedName_linked policy⟩
    exact ⟨number, named, (atEnd.get? _).trans there⟩
  | duplicate proper taken =>
    have present : q.qualifiedName ∈ takenNames policy before :=
      (atFirst.exists_find?_iff enough _).mp ⟨_, taken⟩
    refine ⟨iff_of_false nofun fun h ↦ h.2 present, nofun, ?_⟩
    rintro _ ⟨⟩
    exact ⟨rfl, .inl ⟨proper, rfl⟩⟩
  | improper improper =>
    refine ⟨iff_of_false nofun fun h ↦ improper h.1, nofun, ?_⟩
    rintro _ ⟨⟩
    exact ⟨rfl, .inr ⟨improper, rfl⟩⟩

theorem call_eq_invoke {r : Registry EntryPoint} {name : String} {id : FunctionId}
    {l : Linked EntryPoint} (named : r.find? name = some id) (numbered : r.get? id = some l)
    (receiver : Option Address) (args : List Argument) (s : Store) :
    r.callByName name receiver args s = l.invoke receiver args s ∧
      r.call id receiver args s = l.invoke receiver args s := by
  have resolved : r.resolve id = .ok l := by simp only [resolve, numbered]
  have found : r.resolveName name = .ok l := by simp only [resolveName, named, resolved]
  simp only [callByName, call, resolved, found, and_self]

private theorem callByName_of_find?_eq_none {r : Registry EntryPoint} {name : String}
    (absent : r.find? name = none) (receiver : Option Address) (args : List Argument) (s : Store) :
    r.callByName name receiver args s = (.error (.unknownFunction name), s) := by
  simp only [callByName, resolveName, absent]

/-- **Registration.** As long as at most `2 ^ 32` requests are granted, every granted name leads to
its own number and that to its own function for good, and a refused request changes nothing. -/
theorem registered_for_good (policy : Policy) (history : List (Request EntryPoint))
    (few : (registeredBy policy history).length ≤ 2 ^ 32) :
    (∀ before q later, history = before ++ q :: later →
      ((∃ id, ((ofHistory policy before).attempt q).answer = .ok id) ↔
        q.IsProper ∧ q.qualifiedName ∉ takenNames policy before) ∧
      (∀ id, ((ofHistory policy before).attempt q).answer = .ok id →
        id.toNat = (registeredBy policy before).length ∧
          (ofHistory policy history).find? q.qualifiedName = some id ∧
          (ofHistory policy history).get? id = some (q.linked policy)) ∧
      (∀ e, ((ofHistory policy before).attempt q).answer = .error e →
        (ofHistory policy before).attempt q = ⟨.error e, ofHistory policy before, []⟩ ∧
          (q.IsProper ∧ e = .duplicateFunction q.qualifiedName ∨
            ¬q.IsProper ∧ e = .notAMethod q.qualifiedName))) ∧
    (ofHistory policy history).size = (registeredBy policy history).length ∧
    (∀ name, (∃ id, (ofHistory policy history).find? name = some id) ↔
      name ∈ takenNames policy history) ∧
    (∀ name other id, (ofHistory policy history).find? name = some id →
      (ofHistory policy history).find? other = some id → name = other) ∧
    (∀ name id, (ofHistory policy history).find? name = some id →
      ∃ l, (ofHistory policy history).get? id = some l ∧ l.qualifiedName = name ∧
        ∀ receiver args s,
          (ofHistory policy history).callByName name receiver args s =
            l.invoke receiver args s ∧
          (ofHistory policy history).call id receiver args s = l.invoke receiver args s) ∧
    ∀ name receiver args s,
      ((∃ e, ((ofHistory policy history).callByName name receiver args s).1 =
        .error (.unknownFunction e)) ↔ name ∉ takenNames policy history) ∧
      (name ∉ takenNames policy history →
        (ofHistory policy history).callByName name receiver args s =
          (.error (.unknownFunction name), s)) := by
  have records := records_ofHistory few
  have names := records.exists_find?_iff few
  refine ⟨?_, records.size, names, ?_, ?_, fun name receiver args s ↦ ?_⟩
  · rintro before q later rfl
    exact answer_ofHistory few
  · intro name other id first second
    obtain ⟨l, there, rfl⟩ := (records.find? name id).mp first
    obtain ⟨m, same, rfl⟩ := (records.find? other id).mp second
    rw [Option.some.inj (there.symm.trans same)]
  · intro name id found
    obtain ⟨l, there, named⟩ := (records.find? name id).mp found
    have numbered := (records.get? id).trans there
    exact ⟨l, numbered, named, call_eq_invoke found numbered⟩
  · have unknown (absent : name ∉ takenNames policy history) :=
      callByName_of_find?_eq_none ((records.find?_eq_none_iff few name).mpr absent) receiver args s
    refine ⟨⟨?_, fun absent ↦ ⟨name, by rw [unknown absent]⟩⟩, unknown⟩
    rintro ⟨e, failed⟩ taken
    obtain ⟨id, found⟩ := (names name).mpr taken
    obtain ⟨l, there, -⟩ := (records.find? name id).mp found
    rw [(call_eq_invoke found ((records.get? id).trans there) receiver args s).1] at failed
    exact Function.invoke_ne_unknownFunction _ _ receiver args s e failed

/-- `void reset()`. -/
def reset : Signature := ⟨"reset", none, [], .void⟩

/-- `void Node::reset()`. -/
def nodeReset : Signature := ⟨"reset", some (.counted "Node"), [], .void⟩

/-- Native code that does nothing. -/
def idle : EntryPoint := fun _ f s ↦ (f, s)

/-- Two of four requests are granted: the second one repeats a name, and the third one is not for a
method. -/
def resets : List (Request EntryPoint) :=
  [.function reset idle, .prepared ⟨.ofSignature reset, idle⟩, .method reset idle,
    .method nodeReset idle]

/-- The second number goes to the last of these requests, with the policy of the registry. -/
theorem registered_for_good_resets :
    ((∃ id, ((ofHistory .convert (resets.take 3)).attempt (.method nodeReset idle)).answer =
        .ok id) ∧
      ∀ id, ((ofHistory .convert (resets.take 3)).attempt (.method nodeReset idle)).answer =
        .ok id → id.toNat = 1 ∧
          (ofHistory .convert resets).get? id = some ⟨⟨nodeReset, .convert, none⟩, idle⟩) ∧
      (ofHistory .convert resets).size = 2 := by
  have few : (registeredBy .convert resets).length ≤ 2 ^ 32 := by decide
  obtain ⟨answers, size, -⟩ := registered_for_good .convert resets few
  obtain ⟨granted, kept, -⟩ := answers (resets.take 3) (.method nodeReset idle) [] rfl
  refine ⟨⟨granted.mpr ⟨rfl, by decide⟩, fun id given ↦ ?_⟩, size⟩
  obtain ⟨number, -, there⟩ := kept id given
  exact ⟨number, there⟩

end Registry

end CallingConvention
