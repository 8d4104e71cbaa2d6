import CallingConvention.Session.Text
import CallingConvention.Call

/-!
# Steps of a session

A session exercises the calling convention step by step. Steps make types, objects, storage,
handles, out cells, functions and registries, each under an identifier of its own, and make calls.
The native code of a call is itself a list of steps, among which those that act on the running frame
are allowed, and calls again.
-/

namespace CallingConvention.Session

/-- Which hooks a type has. -/
structure HookNames where
  /-- A default constructor. -/
  construct : Bool
  /-- A copy constructor. -/
  copy : Bool
  /-- A destructor. -/
  destruct : Bool
  /-- A hook that takes references. -/
  addRef : Bool
  /-- A hook that gives them up. -/
  release : Bool
  deriving DecidableEq

/-- The value types that a session has ready. -/
inductive Sample where
  | triple
  | tracked
  | wide
  | unit
  deriving DecidableEq

/-- How a type is made. -/
inductive TypeSpec where
  | primitive (k : Kind)
  | counted
  | reference (hooks : HookNames)
  | sample (s : Sample)
  | value (size align : Nat) (hooks : HookNames)
  deriving DecidableEq

/-- A parameter, with its type by name. -/
inductive ParamSpec where
  | primitive (k : Kind)
  | value (type : String)
  | handle (type : String) (auto : Bool)
  | reference (type : String) (modifier : Option Modifier)
  deriving DecidableEq

/-- A return, with its type by name. -/
inductive ReturnsSpec where
  | void
  | primitive (k : Kind)
  | value (type : String)
  | handle (type : String) (auto : Bool)
  | reference (type : String)
  deriving DecidableEq

/-- A signature, with types by name. -/
structure SignatureSpec where
  /-- The name of the function. -/
  name : String
  /-- The type of the receiver, for a method. -/
  object : Option String
  /-- The parameters. -/
  params : List ParamSpec
  /-- What is returned. -/
  returns : ReturnsSpec
  deriving DecidableEq

/-- An argument, with pointers by name. -/
inductive ArgumentSpec where
  | primitive (v : Value)
  | handle (p : Pointer)
  | object (p : Pointer)
  | reference (p : Pointer)
  deriving DecidableEq

/-- How a function is registered. -/
inductive Registration where
  | function
  | method
  | prepared (policy : Option Policy) (auxiliary : Option Auxiliary)

/-- What becomes of a claimed handle. -/
inductive Claimed where
  | drop
  | leak
  | giveBack
  | keep (id : String)
  deriving DecidableEq

/-- A step outside of any frame. -/
inductive Action where
  | defineType (id name : String) (spec : TypeSpec)
  | describeSignature (sig : SignatureSpec)
  | makeObject (id : String) (counted : Bool) (value : Int) (references : Int) (wide : Bool)
  | makeRegion (id : String) (content : Content)
  | read (p : Pointer)
  | write (p : Pointer) (content : Content)
  | addReference (p : Pointer)
  | releaseReference (p : Pointer)
  | references (p : Pointer)
  | typeAddRef (type : String) (p : Pointer)
  | typeRelease (type : String) (p : Pointer)
  | typeConstruct (type : String) (p : Pointer)
  | typeCopy (type : String) (p source : Pointer)
  | typeDestruct (type : String) (p : Pointer)
  | hold (id type : String) (p : Pointer) (borrow : Bool)
  | cloneHandle (source id : String)
  | dropHandle (id : String)
  | unwrapHandle (id : String)
  | describeHandle (id : String)
  | sameHandle (first second : String)
  | makeCell (id type : String)
  | readCell (id : String) (k : Kind)
  | cellContent (id : String)
  | takeCell (id handle : String)
  | dropCell (id : String)
  | readKept (id : String)
  | dropKept (id : String)
  | defineFunction (id : String) (sig : SignatureSpec) (policy : Option Policy)
      (auxiliary : Option Auxiliary)
  | makeRegistry (id : String) (settings : Option String)
  | describeRegistry (registry : String)
  | register (registry id : String) (sig : SignatureSpec) (how : Registration)
  | find (registry name : String)
  | getFunction (registry function : String)

/-- A step of native code on its frame. -/
inductive FrameAction where
  | info
  | debug
  | hasException
  | raise (message : String)
  | argumentType (index : Nat)
  | receiver
  | auxiliaryValue (k : Kind)
  | auxiliaryText
  | argument (index : Nat) (k : Kind)
  | typedArgument (index : Nat) (k : Kind)
  | addressOfArgument (index : Nat) (write : Option Content)
  | argumentAddress (index : Nat)
  | argumentObject (index : Nat)
  | writeThrough (index : Nat) (content : Option Content)
  | take (index : Nat) (claimed : Claimed)
  | returnValue (v : Value)
  | returnArgument (index : Nat) (k : Kind)
  | returnAddress (p : Pointer)
  | returnObject (p : Pointer)
  | returnArgumentObject (index : Nat)
  | returnHandle (id : Option String)
  | returnLocation (write : Option Content)
  | markConstructed (write : Option Content)

/-- Which function a call is for. -/
inductive Target where
  | function (id : String)
  | registered (registry function : String)
  | named (registry name : String)
  deriving DecidableEq

/-- What is done with an outcome. -/
structure Reception where
  /-- Under which identifier to keep what it owns. -/
  keep : Option String
  /-- As which kind to read it. -/
  readAs : Option Kind
  /-- Whether to give its diagnostic text. -/
  debug : Bool
  deriving DecidableEq

/-- One step of a session or of native code. -/
inductive Step where
  | act (a : Action)
  | onFrame (a : FrameAction)
  | call (target : Target) (receiver : Option Pointer) (args : List ArgumentSpec)
      (body : List Step) (reception : Reception)
  | frame (sig : SignatureSpec) (policy : Policy) (receiver : Option Pointer)
      (args : List ArgumentSpec) (body : List Step) (finish : Bool) (reception : Reception)

end CallingConvention.Session
