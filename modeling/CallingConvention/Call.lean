import CallingConvention.Frame.Context
import CallingConvention.Frame.Basic
import CallingConvention.Store

/-!
# Calls

A function is a signature with the options of its calls. The native code behind it is given to each
call: it runs on the frame and on the store and may make calls of its own.

A call enters (`Function.enter` builds the frame), runs the native code and leaves
(`Function.leave` takes the outcome and tears the frame down). Statistics and log entries are kept
on both sides, so that they hold for nested calls too.
-/

namespace CallingConvention

/-- An object of the embedder that the native code of a function can look at. -/
inductive Auxiliary where
  | value (v : Value)
  | text (s : String)
  deriving DecidableEq

namespace Auxiliary

/-- The primitive of a kind, if the object is one. -/
def value? (k : Kind) : Auxiliary → Option Value
  | value v => Value.ofKind? k v
  | text _ => none

/-- The text, if the object is one. -/
def text? : Auxiliary → Option String
  | value _ => none
  | text s => some s

end Auxiliary

/-- A function that can be called. -/
structure Function where
  /-- How the function is declared. -/
  signature : Signature
  /-- The policy of its calls. -/
  policy : Policy
  /-- What its native code can look at. -/
  auxiliary : Option Auxiliary
  deriving DecidableEq

/-- Native code: what it does to its frame and to the store. -/
abbrev Native := Frame → Store → Frame × Store

namespace Function

/-- A function with the strict policy and no auxiliary object. -/
def ofSignature (s : Signature) : Function := ⟨s, .strict, none⟩

/-- The diagnostic text of a function. -/
def debugText (f : Function) : String :=
  "FunctionCall \x7b signature: " ++ Text.quote f.signature.display
    ++ ", policy: " ++ f.policy.tag
    ++ ", auxiliary: " ++ (if f.auxiliary.isSome then "true" else "false") ++ " \x7d"

/-- Begin a call: build its frame. -/
def enter (f : Function) (number : Nat) (receiver : Option Address) (args : List Argument) :
    Except CallError Frame × List Effect :=
  match Frame.construct number f.signature receiver args f.policy with
  | (.error e, effects) => (.error e, effects ++ [.tally .marshalErrors 1])
  | (.ok frame, effects) =>
    (.ok frame,
      effects ++ [.log (.genericCall f.signature.name frame.slots.length), .tally .callsMade 1])

/-- End a call: take the outcome of its frame. -/
def leave (f : Function) (frame : Frame) : Except CallError Outcome × List Effect :=
  match frame.finish with
  | (.ok (.raised e), effects) => (.ok (.raised e), effects ++ [.tally .exceptionsRaised 1])
  | (.ok (.returned v), effects) =>
    (.ok (.returned v), effects ++ [.log (.genericReturn f.signature.name)])
  | (.error e, effects) => (.error e, effects ++ [.tally .marshalErrors 1])

/-- To leave a call is to finish its frame and to keep one record of it. -/
theorem exists_leave_eq (f : Function) (frame : Frame) :
    ∃ record : Effect, f.leave frame = (frame.finish.1, frame.finish.2 ++ [record]) ∧
      ((∃ entry, record = .log entry) ∨ ∃ counter n, record = .tally counter n) := by
  rw [leave]
  obtain ⟨outcome, effects⟩ := frame.finish
  match outcome with
  | .ok (.raised _) => exact ⟨_, rfl, .inr ⟨_, _, rfl⟩⟩
  | .ok (.returned _) => exact ⟨_, rfl, .inl ⟨_, rfl⟩⟩
  | .error _ => exact ⟨_, rfl, .inr ⟨_, _, rfl⟩⟩

@[simp]
theorem outcome_leave (f : Function) (frame : Frame) : (f.leave frame).1 = frame.finish.1 := by
  obtain ⟨_, left, -⟩ := f.exists_leave_eq frame
  rw [left]

/-- Call a function with native code. -/
def invoke (f : Function) (native : Native) (receiver : Option Address) (args : List Argument)
    (s : Store) : Except CallError Outcome × Store :=
  let (number, s) := s.newFrame
  match f.enter number receiver args with
  | (.error e, effects) => (.error e, s.applyAll effects)
  | (.ok frame, effects) =>
    let (frame, s) := native frame (s.applyAll effects)
    let (outcome, effects) := f.leave frame
    (outcome, s.applyAll effects)

end Function

/-! ## The context of a running call -/

/-- What native code is given: its frame and the auxiliary object of its function. -/
structure Context where
  /-- The frame of the call. -/
  frame : Frame
  /-- The auxiliary object of the function. -/
  auxiliary : Option Auxiliary

/-- The diagnostic text of a context. -/
def Context.debugText (c : Context) : String :=
  "GenericCall \x7b frame: " ++ c.frame.debugText
    ++ ", auxiliary: " ++ (if c.auxiliary.isSome then "true" else "false") ++ " \x7d"

/-!
## Capabilities

What an implementation of the calling convention says about itself. Every implementation makes
generic calls. One that does nothing else needs no knowledge of the machine, and is portable.
-/

/-- Something that an implementation can do. -/
inductive Capability where
  | portability
  | genericCalls
  deriving DecidableEq

namespace Capability

/-- The name of a capability. -/
def name : Capability → String
  | portability => "MAX_PORTABILITY"
  | genericCalls => "GENERIC_CALLCONV"

/-- The capabilities of this implementation. -/
def supported : List Capability := [genericCalls]

/-- Capabilities by name, with a space between them. -/
def text (cs : List Capability) : String := " ".intercalate (cs.map name)

end Capability

end CallingConvention
