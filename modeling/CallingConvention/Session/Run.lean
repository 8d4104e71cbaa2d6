import CallingConvention.Session.FrameAction

/-!
# Running a session

`runSession` runs steps one after the other and gives what each of them shows, and what is shown
when everything still held has been given back.

A call is entered, its native code is run step by step (`runBody`), and then it is left. What
happened before the native code, and in each of its steps, is handed out there. What happens after
it is handed out with the step that made the call.
-/

namespace CallingConvention.Session

namespace World

/-! ## Entering -/

/-- The function that a call is for, or why there is none. -/
def target (w : World) : Target → Except Mistake (Except CallError Function)
  | .function id => (lookup w.functions id).map .ok
  | .registered registry function => do
    let r ← lookup w.registries registry
    return (r.resolve (← lookup w.registered function)).map Linked.function
  | .named registry name => do
    return ((← lookup w.registries registry).resolveName name).map Linked.function

/-- The receiver that is meant, if any is. -/
def receiver (w : World) : Option Pointer → Except Mistake (Option Address)
  | some p => (w.address p).map some
  | none => .ok none

/-- Build a new frame with a number of its own. -/
def enter (w : World) (build : Nat → Except CallError Frame × List Effect) :
    Except CallError Frame × World :=
  let (number, store) := w.store.newFrame
  let (frame, effects) := build number
  (frame, { w with store }.perform effects)

/-- Begin a call. The answer is the function with its new frame, or the error that there is
instead. -/
def beginCall (w : World) (target : Target) (receiver : Option Pointer)
    (args : List ArgumentSpec) : Except Mistake (Except CallError (Function × Frame) × World) := do
  let receiver ← w.receiver receiver
  let args ← args.mapM w.argument
  match ← w.target target with
  | .error e => return (.error e, w)
  | .ok f =>
    let (frame, w) := w.enter fun number ↦ f.enter number receiver args
    return (frame.map (f, ·), w)

/-- Build a frame without a function. -/
def beginFrame (w : World) (sig : SignatureSpec) (policy : Policy) (receiver : Option Pointer)
    (args : List ArgumentSpec) : Except Mistake (Except CallError Frame × World) := do
  let sig ← w.signature sig
  let receiver ← w.receiver receiver
  let args ← args.mapM w.argument
  return w.enter fun number ↦ Frame.construct number sig receiver args policy

/-! ## Leaving -/

/-- A returned value as it is shown. -/
def showReturned (w : World) : ReturnValue → Returned
  | .void => .void
  | .primitive v => .primitive (valueText v)
  | .object i => .object i.type.name (w.contentText i.address i.type)
  | .handle none => .handle (w.nameOf .null) none
  | .handle (some h) => .handle (w.nameOf h.address) (some h.type.name)
  | .reference a => .reference (w.nameOf a)

/-- Keep what a returned value owns, or drop it. -/
def keepReturned (w : World) : Option String → ReturnValue → World
  | some id, .object i => w.keepInstance id i
  | some id, .handle (some h) => w.keepHandle id h
  | _, v => w.perform v.drop

/-- Take what a call gave. It is shown as it is before it is kept or dropped. -/
def receive (w : World) (r : Reception) : Except CallError Outcome → Ending × World
  | .error e => (.refused e, w)
  | .ok (.raised e) => (.raised e, w)
  | .ok (.returned v) =>
    (.returned (w.showReturned v)
        (r.readAs.map fun k ↦ ⟨(v.primitive? k).map valueText, v.object?.isSome⟩)
        (if r.debug then some v.debugText else none),
      w.keepReturned r.keep v)

/-- A frame as it is shown after its native code has run. -/
def viewFrame (w : World) (f : Frame) : FrameView where
  count := f.slots.length
  hasException := f.hasException
  signature := f.signature
  object := f.objectPointer.map w.nameOf

/-- End the life of a frame without a function. -/
def endFrame (w : World) (f : Frame) (native : List Event × List (Answer × List Event))
    (finish : Bool) (r : Reception) : Answer × World :=
  let view := w.viewFrame f
  let debug := if r.debug then some f.debugText else none
  if finish then
    let (outcome, effects) := f.finish
    let (ending, w) := (w.perform effects).receive r outcome
    (.finished native view debug ending, w)
  else (.abandoned native view debug, w.perform f.abandon)

/-! ## Steps -/

mutual

/-- Run one step outside of any frame. A step with a mistake does nothing. -/
def runStep (w : World) : Step → Answer × World
  | .act a =>
    match w.act a with
    | .ok done => done
    | .error m => (.mistaken m, w)
  | .onFrame _ => (.mistaken .frame, w)
  | .call target receiver args body reception =>
    match w.beginCall target receiver args with
    | .error m => (.mistaken m, w)
    | .ok (.error e, w) => (.called none (.refused e), w)
    | .ok (.ok (f, frame), w) =>
      let (entry, w) := w.handOut
      let (answers, frame, w) := runBody w frame f.auxiliary body
      let (outcome, effects) := f.leave frame
      let (ending, w) := (w.perform effects).receive reception outcome
      (.called (some (entry, answers)) ending, w)
  | .frame sig policy receiver args body finish reception =>
    match w.beginFrame sig policy receiver args with
    | .error m => (.mistaken m, w)
    | .ok (.error e, w) => (.called none (.refused e), w)
    | .ok (.ok frame, w) =>
      let (entry, w) := w.handOut
      let (answers, frame, w) := runBody w frame none body
      w.endFrame frame (entry, answers) finish reception

/-- Run the steps of native code on its frame. -/
def runBody (w : World) (f : Frame) (auxiliary : Option Auxiliary) :
    List Step → List (Answer × List Event) × Frame × World
  | [] => ([], f, w)
  | .onFrame a :: steps =>
    let (answer, f, w) :=
      match w.actOnFrame f auxiliary a with
      | .ok done => done
      | .error m => (.mistaken m, f, w)
    let (events, w) := w.handOut
    let (answers, f, w) := runBody w f auxiliary steps
    ((answer, events) :: answers, f, w)
  | step :: steps =>
    let (answer, w) := runStep w step
    let (events, w) := w.handOut
    let (answers, f, w) := runBody w f auxiliary steps
    ((answer, events) :: answers, f, w)

end

/-- Run steps outside of any frame. -/
def runSteps (w : World) : List Step → List Record × World
  | [] => ([], w)
  | step :: steps =>
    let (answer, w) := w.runStep step
    let (record, w) := w.record answer
    let (records, w) := w.runSteps steps
    (record :: records, w)

end World

/-- Run a session, with log entries shown from a threshold on. -/
def runSession (threshold : Option Severity) (steps : List Step) : List Record × Closing :=
  let (records, w) := (World.empty threshold).runSteps steps
  (records, w.close)

end CallingConvention.Session
