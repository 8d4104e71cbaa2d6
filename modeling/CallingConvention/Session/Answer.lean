import CallingConvention.Call
import CallingConvention.Settings

/-!
# Answers of a session

What a session says about each of its steps. What storage holds and where addresses point may change
with the next step, so answers show both as text, as they were at the time. Types, signatures and
the like do not change, and stand in answers as they are.
-/

namespace CallingConvention.Session

/-- Something that happened on the side: a line that a hook announced, or a log entry. -/
inductive Event where
  | line (text : String)
  | entry (severity : Severity) (fields : List (String × LogField))
  deriving DecidableEq

/-- The event that a line of the journal shows, with log entries from a threshold on. Without a
threshold no log entry shows. -/
def Event.ofReport? (threshold : Option Severity) : Report → Option Event
  | .effect (.log e) _ =>
    if threshold.any e.severity.shownAt then some (.entry e.severity e.fields) else none
  | .effect _ announced => announced.map .line
  | .destroyed _ announced => some (.line announced)

/-- How many references there are to an object that is kept under an identifier. -/
inductive Remaining where
  | references (n : Int)
  | destroyed
  deriving DecidableEq

/-- How many references there are to an object. -/
def Remaining.ofTenure : Tenure → Remaining
  | .counted 0 => destroyed
  | .counted n => references n
  | .pinned n => references n

/-- A returned value, with what its storage holds and where its address points. -/
inductive Returned where
  | void
  | primitive (value : String)
  | object (type payload : String)
  | handle (target : String) (type : Option String)
  | reference (target : String)
  deriving DecidableEq

/-- The reading of a returned value. -/
structure Reading where
  /-- Its text in the kind that was asked for. -/
  value : Option String
  /-- Whether it is an instance. -/
  isObject : Bool
  deriving DecidableEq

/-- How a call ended. -/
inductive Ending where
  | refused (e : CallError)
  | raised (e : ScriptException)
  | returned (value : Returned) (reading : Option Reading) (debug : Option String)
  deriving DecidableEq

/-- A frame after its native code has run. -/
structure FrameView where
  /-- How many arguments there are. -/
  count : Nat
  /-- Whether an exception was raised. -/
  hasException : Bool
  /-- The signature. -/
  signature : Signature
  /-- The receiver, or why there is none. -/
  object : Except CallError String

/-- A running call as its native code sees it. -/
structure CallView where
  /-- How many arguments there are. -/
  count : Nat
  /-- The signature. -/
  signature : Signature
  /-- The policy. -/
  policy : Policy
  deriving DecidableEq

/-- Why a step cannot be done as it is written. -/
inductive Mistake where
  | payload (text : String)
  | pointer (text : String)
  | identifier (id : String)
  | frame
  deriving DecidableEq

/-- The wording of a mistake. -/
def Mistake.message : Mistake → String
  | payload text => "bad payload " ++ text
  | pointer text => "dead or unknown pointer " ++ text
  | identifier id => "unknown " ++ id
  | frame => "no frame"

/-- The answer to a step. -/
inductive Answer where
  | mistaken (m : Mistake)
  | ok
  | refused (e : CallError)
  | malformed (e : SettingsError)
  | nothing
  | truth (b : Bool)
  | number (n : Nat)
  | text (s : String)
  | type (t : ScriptType)
  | param (p : Param)
  | signature (s : Signature)
  | function (f : Function)
  | registry (policy : Policy) (size : Nat)
  | index (n : Nat)
  | object (value : Int) (aligned : Bool)
  | held (there : Bool)
  | same (b : Bool)
  | handle (target type : String) (number : Int) (debug : String)
  | cell (payload : String)
  | instanceOf (type payload : String)
  | context (view : CallView)
  | content (target : String) (payload : Option String)
  | receiver (target : String) (content : Option String)
  | givenBack (target : String) (error : Option CallError)
  | returned (read : String) (error : Option CallError)
  | called (native : Option (List Event × List (Answer × List Event))) (ending : Ending)
  | finished (native : List Event × List (Answer × List Event)) (view : FrameView)
      (debug : Option String) (ending : Ending)
  | abandoned (native : List Event × List (Answer × List Event)) (view : FrameView)
      (debug : Option String)

/-- What a session shows after a step. -/
structure Record where
  /-- What the step answers. -/
  answer : Answer
  /-- What happened in it. -/
  events : List Event
  /-- The references to the objects that are kept. -/
  remaining : List (String × Remaining)
  /-- The statistics by then. -/
  statistics : Statistics

/-- What a session shows after everything that it still holds has been given back. -/
structure Closing where
  /-- What happened then. -/
  events : List Event
  /-- The references to the objects that are kept. -/
  remaining : List (String × Remaining)

end CallingConvention.Session
