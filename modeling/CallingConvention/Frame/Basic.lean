import CallingConvention.Frame.Slot

/-!
# Call frames

A frame holds the arguments, the receiver and the return slot of one invocation. Frames are
numbered, and the number is part of the addresses of the frame's own storage.

`Frame.construct` decides whether a call is well formed. It looks at the receiver first, then at
the number of arguments, then at the arguments in order, and touches no reference and no instance
before all of this is settled.
-/

namespace CallingConvention

/-- The storage of one invocation. -/
structure Frame where
  /-- The number of the frame. -/
  number : Nat
  /-- How the function that is called is declared. -/
  signature : Signature
  /-- The object that a method is called on, and null for a function. -/
  receiver : Address
  /-- The arguments in order. -/
  slots : List Slot
  /-- What is to be returned. -/
  result : ReturnSlot
  /-- What happens to primitives of other kinds. -/
  policy : Policy
  /-- The exception that was raised, if one was. -/
  exception : Option ScriptException
  deriving DecidableEq

namespace Frame

/-- Check the receiver of a call: methods need one and functions must not have one. -/
def checkReceiver (sig : Signature) (receiver : Address) : Except CallError Unit :=
  match sig.isMethod, receiver.isNull with
  | true, true => .error (.missingObject sig.qualifiedName)
  | false, false => .error (.unexpectedObject sig.qualifiedName)
  | _, _ => .ok ()

/-- Check everything that the caller gives. -/
def check (sig : Signature) (receiver : Address) (args : List Argument) (policy : Policy) :
    Except CallError Unit :=
  match checkReceiver sig receiver with
  | .error e => .error e
  | .ok () =>
    if args.length = sig.arity then Argument.checkAll policy 0 sig.params args
    else .error (.argumentCountMismatch sig.arity args.length)

/-- The frame of a call, or the first error in what the caller gives. A receiver that is absent or
null is no receiver. -/
def construct (number : Nat) (sig : Signature) (receiver : Option Address) (args : List Argument)
    (policy : Policy) : Except CallError Frame × List Effect :=
  let receiver := receiver.getD .null
  match check sig receiver args policy with
  | .error e => (.error e, [])
  | .ok () =>
    match Slot.fillAll policy number 0 sig.params args with
    | (.error e, effects) => (.error e, effects)
    | (.ok slots, effects) =>
      (.ok ⟨number, sig, receiver, slots, .initial sig.returns, policy, none⟩,
        effects ++ [.log (.frameConstruct sig.name slots.length)])

/-- Address of the storage of a slot. -/
def slotAddress (f : Frame) (index : Nat) : Address := .argument f.number index

/-- Address of the return storage, which is where an instance that is returned by value is. -/
def resultAddress (f : Frame) : Address :=
  match f.signature.returns with
  | .value t => t.place (.result f.number)
  | _ => .result f.number

/-- Whether an exception has been raised. -/
def hasException (f : Frame) : Bool := f.exception.isSome

/-- The address of the receiver of a method. -/
def objectPointer (f : Frame) : Except CallError Address :=
  if f.signature.isMethod && !f.receiver.isNull then .ok f.receiver
  else .error (.notAMethod f.signature.qualifiedName)

/-- The diagnostic text of a frame. -/
def debugText (f : Frame) : String :=
  let receiver := if f.receiver.isNull then "None" else "Some(" ++ f.receiver.debugText ++ ")"
  "CallFrame \x7b function: " ++ Text.quote f.signature.qualifiedName
    ++ ", object: " ++ receiver
    ++ ", slots: [" ++ ", ".intercalate (f.slots.map Slot.debugText)
    ++ "], return: " ++ Text.quote f.result.describe
    ++ ", exception: " ++ (if f.hasException then "true" else "false") ++ " \x7d"

end Frame

/-!
## Leaving a frame

A frame ends in one of two ways. The caller finishes it and gets an outcome: what the callee
returned, or the exception that it raised. Or the caller abandons it, and the frame gives back what
its return slot owns by itself. Either way the frame is torn down: the handles that nobody claimed
are released in the order of the parameters, and then the frame's copies of instances are destroyed
in the same order.

After an exception the return slot is neither read nor destroyed.
-/

/-- What a call that succeeded hands to the caller. -/
inductive ReturnValue where
  | void
  | primitive (v : Value)
  | object (i : Instance)
  | handle (h : Option Handle)
  | reference (a : Address)
  deriving DecidableEq

namespace ReturnValue

/-- The value, if it is a primitive of the kind asked for. -/
def primitive? (k : Kind) : ReturnValue → Option Value
  | primitive v => Value.ofKind? k v
  | _ => none

/-- The instance, if there is one. -/
def object? : ReturnValue → Option Instance
  | object i => some i
  | _ => none

/-- The diagnostic text of a returned value. -/
def debugText : ReturnValue → String
  | void => "Void"
  | primitive v => "Primitive(" ++ v.debugText ++ ")"
  | object i => "Object(" ++ i.debugText ++ ")"
  | handle none => "Handle(None)"
  | handle (some h) => "Handle(Some(" ++ h.debugText ++ "))"
  | reference a => "Reference(" ++ a.debugText ++ ")"

/-- Give back what a returned value owns. -/
def drop : ReturnValue → List Effect
  | object i => i.drop
  | handle h => dropHandle? h
  | _ => []

end ReturnValue

/-- How a call ended. -/
inductive Outcome where
  | returned (value : ReturnValue)
  | raised (exception : ScriptException)
  deriving DecidableEq

/-- Give back what an outcome owns. -/
def Outcome.drop : Outcome → List Effect
  | returned v => v.drop
  | raised _ => []

/-- The diagnostic text of an exception. -/
def ScriptException.debugText (e : ScriptException) : String :=
  "ScriptException \x7b function: " ++ Text.quote e.function
    ++ ", message: " ++ Text.quote e.message ++ " \x7d"

namespace Frame

/-- The handles that are released when the frame ends, in the order of the parameters. -/
def unreleased (f : Frame) : List (ScriptType × Address) :=
  (f.signature.params.zip f.slots).filterMap fun (p, slot) ↦
    (slot.unreleased? p f.hasException).map (p.type, ·)

/-- Give back what the return slot of a frame that nobody finished owns. -/
def discardResult (f : Frame) : List Effect :=
  if f.hasException then []
  else
    match f.result, f.signature.returns with
    | .object true, .value t => t.destruct f.resultAddress
    | .handle a, .handle t _ => t.release a
    | _, _ => []

/-- End the life of a frame. -/
def abandon (f : Frame) : List Effect :=
  let unreleased := f.unreleased
  unreleased.flatMap (fun (t, a) ↦ t.release a)
    ++ f.discardResult
    ++ [.tally .handlesReleased unreleased.length,
      .log (.frameTeardown f.signature.name unreleased.length)]
    ++ f.slots.flatMap Slot.discard

/-- The outcome of a frame, with the effects of handing it over. -/
def outcome (f : Frame) : Except CallError Outcome × List Effect :=
  match f.exception with
  | some e => (.ok (.raised e), [])
  | none =>
    match f.result, f.signature.returns with
    | .primitive v, _ => (.ok (.returned (.primitive v)), [])
    | .object constructed, .value t =>
      if constructed then (.ok (.returned (.object ⟨t, f.resultAddress⟩)), [])
      else (.error (.returnNotConstructed f.signature.qualifiedName), [])
    | .handle a, .handle t auto =>
      (.ok (.returned (.handle (Handle.adopt? t a))),
        if (ownershipRule .result auto).onSuccess = .addRefThenTransfer then t.addRef a else [])
    | .reference a, _ => (.ok (.returned (.reference a)), [])
    | _, _ => (.ok (.returned .void), [])

/-- Take the outcome of a frame and end its life. The return slot and the exception have been
handed over by the time that the frame is torn down. -/
def finish (f : Frame) : Except CallError Outcome × List Effect :=
  let (outcome, effects) := f.outcome
  (outcome, effects ++ { f with result := .void, exception := none }.abandon)

end Frame

end CallingConvention
