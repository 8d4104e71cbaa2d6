import CallingConvention.Log
import CallingConvention.ScriptType

/-!
# Errors and effects

What goes wrong in a call, and what a call does to everything outside its frame.
-/

namespace CallingConvention

/-!
## Errors

What one side of a call, the caller or the native function, can do wrong. Each error names its
cause, `CallError.name` is the name of the cause and `CallError.message` its wording. An exception
that a native function raises on purpose is not an error but an outcome.
-/

/-- A breach of the calling convention. -/
inductive CallError where
  | typeMismatch (index : Nat) (declared requested : String)
  | invalidArgumentIndex (index count : Nat)
  | argumentCountMismatch (expected got : Nat)
  | returnTypeMismatch (declared attempted : String)
  | notAMethod (function : String)
  | missingObject (function : String)
  | unexpectedObject (function : String)
  | nullAddress (position : String)
  | invalidLayout (type : String) (size align : Nat)
  | missingBehaviour (type behaviour : String)
  | handleAlreadyClaimed (index : Nat)
  | returnNotConstructed (function : String)
  | exceptionAlreadySet (existing : String)
  | unknownFunction (name : String)
  | duplicateFunction (name : String)
  deriving DecidableEq

namespace CallError

/-- The name of the cause. -/
def name : CallError → String
  | typeMismatch _ _ _ => "TypeMismatch"
  | invalidArgumentIndex _ _ => "InvalidArgumentIndex"
  | argumentCountMismatch _ _ => "ArgumentCountMismatch"
  | returnTypeMismatch _ _ => "ReturnTypeMismatch"
  | notAMethod _ => "NotAMethod"
  | missingObject _ => "MissingObject"
  | unexpectedObject _ => "UnexpectedObject"
  | nullAddress _ => "NullAddress"
  | invalidLayout _ _ _ => "InvalidLayout"
  | missingBehaviour _ _ => "MissingBehaviour"
  | handleAlreadyClaimed _ => "HandleAlreadyClaimed"
  | returnNotConstructed _ => "ReturnNotConstructed"
  | exceptionAlreadySet _ => "ExceptionAlreadySet"
  | unknownFunction _ => "UnknownFunction"
  | duplicateFunction _ => "DuplicateFunction"

/-- The wording of an error. -/
def message : CallError → String
  | typeMismatch index declared requested =>
    s!"type mismatch for argument {index}: declared {declared}, requested {requested}"
  | invalidArgumentIndex index count =>
    s!"argument index {index} out of range (argument count {count})"
  | argumentCountMismatch expected got => s!"expected {expected} arguments, got {got}"
  | returnTypeMismatch declared attempted =>
    s!"return type mismatch: declared {declared}, attempted {attempted}"
  | notAMethod function => s!"function '{function}' is not registered as a method"
  | missingObject function => s!"method '{function}' called without an object pointer"
  | unexpectedObject function => s!"free function '{function}' called with an object pointer"
  | nullAddress position => s!"null address passed for {position}"
  | invalidLayout type size align =>
    s!"type '{type}' has no valid layout for size {size} and alignment {align}"
  | missingBehaviour type behaviour => s!"type '{type}' lacks the {behaviour} behaviour"
  | handleAlreadyClaimed index => s!"handle argument {index} was already claimed"
  | returnNotConstructed function =>
    s!"'{function}' returned without constructing its return value"
  | exceptionAlreadySet existing => s!"exception already set for this call: {existing}"
  | unknownFunction name => s!"unknown function '{name}'"
  | duplicateFunction name => s!"function '{name}' is already registered"

end CallError

/-- An exception that a native function raised. -/
structure ScriptException where
  /-- The qualified name of the function. -/
  function : String
  /-- What the function said. -/
  message : String
  deriving DecidableEq

/-- The exception as it is reported. -/
def ScriptException.display (e : ScriptException) : String :=
  s!"exception in '{e.function}': {e.message}"

/-!
## Effects

The frame decides what is to happen to storage and counts, and the store carries it out. An effect
is one such thing: a hook to run, storage to write, a log entry to make or a statistic to count.
The order of a list of effects is the order in which they happen.

The functions on `ScriptType` give the effects of asking a type for a behaviour. Counting and
destruction are asked for freely: without the hook, or for counting on a null address, nothing
happens. Construction and copying fail without the hook.
-/

/-- What the statistics count. -/
inductive Counter where
  | callsMade
  | exceptionsRaised
  | handlesReleased
  | marshalErrors
  deriving DecidableEq

/-- One thing that happens outside a frame because of it. -/
inductive Effect where
  | addRef (type : ScriptType) (target : Address)
  | release (type : ScriptType) (target : Address)
  | construct (type : ScriptType) (target : Address)
  | copy (type : ScriptType) (target source : Address)
  | destruct (type : ScriptType) (target : Address)
  | write (target : Address) (payload : Payload)
  | log (entry : LogEntry)
  | tally (counter : Counter) (amount : Nat)
  deriving DecidableEq

namespace ScriptType

/-- Take one more reference to an instance. -/
def addRef (t : ScriptType) (a : Address) : List Effect :=
  if a.isNull || t.behaviours.addRef.isNone then [] else [.addRef t a]

/-- Give up one reference to an instance. -/
def release (t : ScriptType) (a : Address) : List Effect :=
  if a.isNull || t.behaviours.release.isNone then [] else [.release t a]

/-- End the life of an instance, for a type that has something to do then. -/
def destruct (t : ScriptType) (a : Address) : List Effect :=
  if t.behaviours.destruct.isNone then [] else [.destruct t a]

/-- The error of asking a type for a behaviour that it lacks. -/
def missing (t : ScriptType) (behaviour : String) : CallError := .missingBehaviour t.name behaviour

/-- Make a default instance in new storage. -/
def construct (t : ScriptType) (a : Address) : Except CallError (List Effect) :=
  if t.behaviours.construct.isSome then .ok [.construct t a]
  else .error (t.missing "default constructor")

/-- Make a copy of an instance in new storage. -/
def copy (t : ScriptType) (target source : Address) : Except CallError (List Effect) :=
  if t.behaviours.copy.isSome then .ok [.copy t target source]
  else .error (t.missing "copy constructor")

theorem eq_of_copy_eq_ok {t : ScriptType} {target source : Address} {effects : List Effect}
    (h : t.copy target source = .ok effects) : effects = [.copy t target source] := by
  unfold copy at h
  split at h
  · exact (Except.ok.inj h).symm
  · cases h

@[simp] theorem addRef_null (t : ScriptType) : t.addRef .null = [] := by
  simp [addRef]

@[simp] theorem release_null (t : ScriptType) : t.release .null = [] := by
  simp [release]

end ScriptType

end CallingConvention
