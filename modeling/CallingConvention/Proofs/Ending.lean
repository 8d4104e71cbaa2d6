import CallingConvention.Proofs.FrameOwners
import CallingConvention.Proofs.Lifetime

/-!
# Two ways to end a frame

A frame ends when it is finished or when nobody finishes it. If nobody keeps what a finished frame
gives, then the same things happen in both ways, though in another order. There is one difference: a
frame that is finished takes a reference for an automatic handle that it returns
(`Frame.autoTaken`), and a frame that is not finished takes none. Both give one up, so that a frame
that nobody finishes gives up a reference that native code only lent to it.
-/

namespace CallingConvention

namespace Frame

/-- Finish a frame and keep nothing of what it gives. -/
def finishAndDiscard (f : Frame) : List Effect := f.finish.2 ++ Outcome.discard f.finish.1

/-- The reference that is taken for an automatic handle when it is returned. -/
def autoTaken (f : Frame) : List Effect :=
  match f.exception, f.result, f.signature.returns with
  | none, .handle a, .handle t true => t.addRef a
  | _, _, _ => []

theorem effects_outcome (f : Frame) : f.outcome.2 = f.autoTaken := by
  unfold outcome autoTaken
  cases f.exception with
  | some e => rfl
  | none =>
    cases f.result with
    | object constructed => cases f.signature.returns <;> cases constructed <;> rfl
    | handle a =>
      cases f.signature.returns with
      | handle t auto => cases auto <;> rfl
      | _ => rfl
    | _ => rfl

/-- Both ways to end a frame have the same effects, but for the automatic handle that is returned.
What is in the return slot is given up before the frame is torn down or after that. -/
theorem finishAndDiscard_perm (f : Frame) :
    f.finishAndDiscard.Perm (f.autoTaken ++ f.abandon) := by
  -- what is in the return slot comes last in one order and second in the other one
  have later (released result torn instances : List Effect) :
      (released ++ [] ++ torn ++ instances ++ result).Perm
        (released ++ result ++ torn ++ instances) := by
    simp only [List.append_nil, List.append_assoc]
    refine List.Perm.append_left released ?_
    rw [← List.append_assoc]
    exact List.perm_append_comm
  have same : f.finishAndDiscard = f.autoTaken
      ++ ({ f with result := .void, exception := none }.abandon ++ f.discardResult) := by
    rw [← effects_outcome, ← discard_outcome, ← List.append_assoc]
    rfl
  rw [same, abandon, abandon, unreleased_settled]
  exact List.Perm.append_left f.autoTaken (later _ _ _ _)

private theorem moments_autoTaken (f : Frame) : Effect.moments f.autoTaken = [] := by
  unfold autoTaken
  split
  · exact ScriptType.moments_addRef _ _
  · rfl

private theorem gained_autoTaken_le {f : Frame}
    (counts : ∀ t auto, f.signature.returns = .handle t auto → t.CountsObjects) (n : Nat) :
    Effect.gained n f.autoTaken ≤ Effect.lost n f.discardResult := by
  unfold autoTaken
  split
  · next a t quiet result returns =>
    have type := counts t true returns
    rw [discardResult, hasException, quiet, result, returns, type.gained_addRef]
    exact Nat.le_of_eq (type.lost_release a n).symm
  · exact Nat.zero_le _

/-- What happens to the count of an object in both ways, if all references are counted that the
frame gives up. -/
theorem references_finishAndDiscard {f : Frame}
    (counts : ∀ t auto, f.signature.returns = .handle t auto → t.CountsObjects) {s : Store}
    (owned : ∀ n, Effect.lost n f.abandon ≤ s.references (.object n)) (n : Nat) :
    (s.applyAll f.finishAndDiscard).references (.object n) =
      (s.applyAll f.abandon).references (.object n) + Effect.gained n f.autoTaken := by
  -- what is taken is still in the return slot, so that there is a reference to it after teardown
  have affords : s.Affords f.finish.2 := by
    intro m
    have enough := owned m
    have again := gained_autoTaken_le counts m
    rw [lost_abandon] at enough
    rw [(counts_finish f m).1, (counts_finish f m).2, effects_outcome]
    omega
  have finished := Store.references_applyAll affords n
  rw [(counts_finish f n).1, (counts_finish f n).2, effects_outcome] at finished
  have enough := owned n
  rw [lost_abandon] at enough
  rw [finishAndDiscard, Store.applyAll_append]
  change ((s.applyAll f.finish.2).applyAll (Outcome.discard f.outcome.1)).references _ = _
  rw [discard_outcome, Store.references_applyAll_of_gained_eq_zero (gained_discardResult f n),
    Store.references_applyAll_of_gained_eq_zero (gained_abandon f n), lost_abandon]
  omega

theorem references_finishAndDiscard_of_nil {f : Frame} (none : f.autoTaken = []) (s : Store)
    (n : Nat) : (s.applyAll f.finishAndDiscard).references (.object n) =
      (s.applyAll f.abandon).references (.object n) := by
  have same := f.finishAndDiscard_perm
  rw [none, List.nil_append] at same
  have gained := (Effect.gained_of_perm same n).trans (gained_abandon f n)
  rw [Store.references_applyAll_of_gained_eq_zero gained, Effect.lost_of_perm same,
    Store.references_applyAll_of_gained_eq_zero (gained_abandon f n)]

/-- **Two ways to end a frame.** Finishing a frame and discarding what it gives comes to the same as
abandoning it, but for one reference that is left behind by an automatic handle. -/
theorem endings_agree (f : Frame) (s : Store) :
    f.finishAndDiscard.Perm (f.autoTaken ++ f.abandon) ∧
      (Effect.moments f.finishAndDiscard).Perm (Effect.moments f.abandon) ∧
      (f.autoTaken = [] → ∀ n, (s.applyAll f.finishAndDiscard).references (.object n) =
        (s.applyAll f.abandon).references (.object n)) ∧
      ((∀ t auto, f.signature.returns = .handle t auto → t.CountsObjects) →
        (∀ n, Effect.lost n f.abandon ≤ s.references (.object n)) →
        ∀ n, (s.applyAll f.finishAndDiscard).references (.object n) =
          (s.applyAll f.abandon).references (.object n) + Effect.gained n f.autoTaken) := by
  have same := f.finishAndDiscard_perm
  refine ⟨same, ?_, fun none ↦ references_finishAndDiscard_of_nil none s, fun counts owned ↦
    references_finishAndDiscard counts owned⟩
  have moments : (Effect.moments f.finishAndDiscard).Perm
      (Effect.moments (f.autoTaken ++ f.abandon)) := same.filterMap _
  rwa [Effect.moments_append, moments_autoTaken, List.nil_append] at moments

/-- `Node@+ find()`. -/
def find : Signature where
  name := "find"
  object := none
  params := []
  returns := .handle (.counted "Node") true

/-- A new call of `find`. -/
def finding : Frame where
  number := 0
  signature := find
  receiver := .null
  slots := []
  result := .handle .null
  policy := .strict
  exception := none

/-- The call once it returns an object that it does not give away. -/
def found : Frame := (finding.run [.setReturnAddress (.object 0)]).frame

/-- One object, with two references. -/
def oneNode : Store := (Store.empty.newObject "node" (.counted 2) (.word 1)).2

theorem references_oneNode (n : Nat) :
    oneNode.references (.object n) = if n = 0 then 2 else 0 := by
  rw [oneNode, Store.references_newObject]
  rfl

/-- Two ways to end a call that returns an object without giving it away. -/
theorem endings_agree_found :
    (oneNode.applyAll found.finishAndDiscard).references (.object 0) =
      (oneNode.applyAll found.abandon).references (.object 0) + 1 := by
  have counted : (ScriptType.counted "Node").CountsObjects := ⟨"Node", rfl⟩
  have counts (t : ScriptType) (auto : Bool)
      (returns : found.signature.returns = .handle t auto) : t.CountsObjects := by
    cases returns
    exact counted
  have owned (n : Nat) : Effect.lost n found.abandon ≤ oneNode.references (.object n) := by
    have once : Effect.lost n found.abandon = 0 + [Address.object 0].count (.object n) :=
      (lost_abandon found n).trans (congrArg (0 + ·) (counted.lost_release (.object 0) n))
    rw [once, references_oneNode]
    cases n <;> simp
  obtain ⟨-, -, -, taken⟩ := endings_agree found oneNode
  exact taken counts owned 0

/-- If nobody finishes that call, then the object loses a reference that native code only lent. -/
theorem abandon_found :
    (construct 0 find none [] .strict).1 = .ok finding ∧
      (oneNode.applyAll found.finishAndDiscard).references (.object 0) = 2 ∧
      (oneNode.applyAll found.abandon).references (.object 0) = 1 := by
  decide

end Frame

end CallingConvention
