import CallingConvention.Call

/-!
# Registries

A registry keeps functions under numbers and under their qualified names. Numbers are given out in
the order of registration, and each name can be registered once. Two tables and a counter take part:
one table leads from names to numbers, the other from numbers to functions.

A session runs native code itself and has none in its registries. So what kind of code stands behind
a function is a parameter of the registry. Calls are for the registries of entry points.
-/

namespace CallingConvention

/-- The number of a registered function. -/
abbrev FunctionId := BitVec 32

/-- Native code, from the auxiliary object of its function. -/
abbrev EntryPoint := Option Auxiliary → Native

/-- A function with the code behind it. -/
structure Linked (Code : Type) where
  /-- The function. -/
  function : Function
  /-- The code behind it. -/
  code : Code

namespace Linked

/-- The name under which a function is registered. -/
def qualifiedName {Code : Type} (l : Linked Code) : String := l.function.signature.qualifiedName

/-- Call a function with its own code. -/
def invoke (l : Linked EntryPoint) (receiver : Option Address) (args : List Argument) (s : Store) :
    Except CallError Outcome × Store :=
  l.function.invoke (l.code l.function.auxiliary) receiver args s

end Linked

/-- Registered functions. -/
structure Registry (Code : Type) where
  /-- The policy of functions that are registered by signature alone. -/
  policy : Policy
  /-- The functions by their numbers. -/
  functions : Table FunctionId (Linked Code)
  /-- The numbers by qualified names. -/
  ids : Table String FunctionId
  /-- The number of the next function. -/
  nextId : FunctionId

namespace Registry

variable {Code : Type}

/-- What an attempt to register a function comes to. -/
structure Attempt (Code : Type) where
  /-- The number of the function, or why it is not registered. -/
  answer : Except CallError FunctionId
  /-- The registry afterwards. -/
  registry : Registry Code
  /-- What is told of it. -/
  effects : List Effect

/-- A registry without functions. -/
def empty (policy : Policy) : Registry Code := ⟨policy, .empty, .empty, 0⟩

/-- Number of functions. -/
def size (r : Registry Code) : Nat := r.functions.size

/-- The number of the function with a qualified name. -/
def find? (r : Registry Code) (name : String) : Option FunctionId := r.ids.get? name

/-- The function with a number. -/
def get? (r : Registry Code) (id : FunctionId) : Option (Linked Code) := r.functions.get? id

/-- Put a function under its name and the next number. -/
def enter (r : Registry Code) (l : Linked Code) : Registry Code :=
  { r with
    functions := r.functions.insert r.nextId l
    ids := r.ids.insert l.qualifiedName r.nextId
    nextId := r.nextId + 1 }

/-- Register a function as it is. -/
def register (r : Registry Code) (l : Linked Code) : Attempt Code :=
  let name := l.qualifiedName
  if r.ids.contains name then ⟨.error (.duplicateFunction name), r, []⟩
  else
    ⟨.ok r.nextId, r.enter l,
      [.log (.registerFunction name r.nextId.toNat l.function.signature.display)]⟩

/-- Register a signature, with the policy of the registry. -/
def registerFunction (r : Registry Code) (s : Signature) (code : Code) : Attempt Code :=
  r.register ⟨⟨s, r.policy, none⟩, code⟩

/-- Register the signature of a method. -/
def registerMethod (r : Registry Code) (s : Signature) (code : Code) : Attempt Code :=
  if s.isMethod then r.registerFunction s code else ⟨.error (.notAMethod s.qualifiedName), r, []⟩

/-- The function with a number, for a call. -/
def resolve (r : Registry Code) (id : FunctionId) : Except CallError (Linked Code) :=
  match r.get? id with
  | some l => .ok l
  | none => .error (.unknownFunction s!"#{id.toNat}")

/-- The function with a qualified name, for a call. -/
def resolveName (r : Registry Code) (name : String) : Except CallError (Linked Code) :=
  match r.find? name with
  | some id => r.resolve id
  | none => .error (.unknownFunction name)

/-- Call the function with a number, as a method of a receiver if there is one. -/
def call (r : Registry EntryPoint) (id : FunctionId) (receiver : Option Address)
    (args : List Argument) (s : Store) : Except CallError Outcome × Store :=
  match r.resolve id with
  | .ok l => l.invoke receiver args s
  | .error e => (.error e, s)

/-- Call the function with a qualified name, as a method of a receiver if there is one. -/
def callByName (r : Registry EntryPoint) (name : String) (receiver : Option Address)
    (args : List Argument) (s : Store) : Except CallError Outcome × Store :=
  match r.resolveName name with
  | .ok l => l.invoke receiver args s
  | .error e => (.error e, s)

end Registry

end CallingConvention
