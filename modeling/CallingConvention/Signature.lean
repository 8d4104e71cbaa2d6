import CallingConvention.ScriptType

/-!
# Signatures

How a function is declared: its parameters, what it returns and, for a method, the type of the
object that it is called on. A parameter is a type together with the way in which its argument is
passed, and this decides the kind of slot that stores the argument (`Param.slotKind`).
-/

namespace CallingConvention

/-- What a reference parameter may do with the instance behind it. -/
inductive Modifier where
  | input
  | output
  | inOut
  deriving DecidableEq

/-- How an argument is passed. An automatic handle leaves the caller its own reference. -/
inductive Passing where
  | byValue
  | handle (auto : Bool)
  | reference (modifier : Modifier)
  deriving DecidableEq

/-- How an argument is stored in its slot. -/
inductive SlotKind where
  | primitive (kind : Kind)
  | handle
  | object
  | reference
  deriving DecidableEq

namespace SlotKind

/-- The name of a slot kind. -/
def name : SlotKind → String
  | primitive k => k.scriptName
  | handle => "handle"
  | object => "object"
  | reference => "reference"

/-- The diagnostic text of a slot kind. -/
def debugText : SlotKind → String
  | primitive k => "Primitive(" ++ k.tag ++ ")"
  | handle => "Handle"
  | object => "Object"
  | reference => "Reference"

end SlotKind

/-- A declared parameter. -/
structure Param where
  /-- The type of the argument. -/
  type : ScriptType
  /-- How the argument is passed. -/
  passing : Passing
  deriving DecidableEq

namespace Param

/-- A primitive parameter. -/
def primitive (k : Kind) : Param := ⟨.primitive k, .byValue⟩

/-- Whether the argument is a handle. -/
def isHandle (p : Param) : Bool :=
  match p.passing with
  | .handle _ => true
  | _ => false

/-- Whether the argument is an automatic handle. -/
def isAuto (p : Param) : Bool :=
  match p.passing with
  | .handle auto => auto
  | _ => false

/-- The diagnostic text of the reference modifier. -/
def modifierText (p : Param) : String :=
  match p.passing with
  | .reference .input => "InRef"
  | .reference .output => "OutRef"
  | .reference .inOut => "InOutRef"
  | _ => "None"

/-- The kind of slot that stores the argument. What is passed by value is stored by value, except
that instances of a reference type are passed by their address. -/
def slotKind (p : Param) : SlotKind :=
  match p.passing with
  | .reference _ => .reference
  | .handle _ => .handle
  | .byValue =>
    match p.type.category with
    | .primitive k => .primitive k
    | .value => .object
    | .reference => .reference

/-- The parameter as it is declared. -/
def display (p : Param) : String :=
  p.type.name ++
    match p.passing with
    | .byValue => ""
    | .handle false => "@"
    | .handle true => "@+"
    | .reference .input => " &in"
    | .reference .output => " &out"
    | .reference .inOut => " &inout"

end Param

/-- What a function returns. -/
inductive Returns where
  | void
  | primitive (kind : Kind)
  | value (type : ScriptType)
  | handle (type : ScriptType) (auto : Bool)
  | reference (type : ScriptType)
  deriving DecidableEq

namespace Returns

/-- The type of what is returned, unless it is primitive or nothing. -/
def type? : Returns → Option ScriptType
  | void => none
  | primitive _ => none
  | value t => some t
  | handle t _ => some t
  | reference t => some t

/-- The return as it is declared. -/
def display : Returns → String
  | void => "void"
  | primitive k => k.scriptName
  | value t => t.name
  | handle t auto => t.name ++ "@" ++ if auto then "+" else ""
  | reference t => t.name ++ "&"

end Returns

/-- The declaration of a function or a method. -/
structure Signature where
  /-- Its name. -/
  name : String
  /-- The type that a method belongs to. -/
  object : Option ScriptType
  /-- Its parameters, in order. -/
  params : List Param
  /-- What it returns. -/
  returns : Returns
  deriving DecidableEq

namespace Signature

/-- Whether calls need an object. -/
def isMethod (s : Signature) : Bool := s.object.isSome

/-- Number of parameters. -/
def arity (s : Signature) : Nat := s.params.length

/-- The name of the function, after the name of its object type if it is a method. -/
def qualifiedName (s : Signature) : String :=
  match s.object with
  | some t => t.name ++ "::" ++ s.name
  | none => s.name

/-- The whole declaration. -/
def display (s : Signature) : String :=
  s.returns.display ++ " " ++ s.qualifiedName ++ "("
    ++ ", ".intercalate (s.params.map Param.display) ++ ")"

end Signature

/-!
## Ownership of handles

Who owns the reference that a handle carries, when a call begins and when it ends. One table, keyed
by where the handle stands and by whether it is automatic, decides this for every call.

| position | automatic | on entry            | on success             | on exception      |
|----------|-----------|---------------------|------------------------|-------------------|
| argument | no        | take the caller's   | release unless claimed | the same          |
| argument | yes       | take an extra one   | release unless claimed | the same          |
| return   | no        | start as null       | transfer to the caller | leave it alone    |
| return   | yes       | start as null       | add one, then transfer | leave it alone    |
-/

/-- Where a handle stands in a signature. -/
inductive Position where
  | argument
  | result
  deriving DecidableEq

/-- What happens to a handle when the frame is built. -/
inductive OnEntry where
  | adopt
  | addRef
  | initNull
  deriving DecidableEq

/-- What happens to a handle when the callee has returned. -/
inductive OnExit where
  | releaseUnclaimed
  | transfer
  | addRefThenTransfer
  | leaveUntouched
  deriving DecidableEq

/-- One row of the table. -/
structure OwnershipRule where
  /-- What happens when the frame is built. -/
  entry : OnEntry
  /-- What happens when the callee has returned. -/
  onSuccess : OnExit
  /-- What happens when the callee has raised an exception. -/
  onException : OnExit
  deriving DecidableEq

/-- The row for a position, with or without the automatic modifier. -/
def ownershipRule : Position → (auto : Bool) → OwnershipRule
  | .argument, false => ⟨.adopt, .releaseUnclaimed, .releaseUnclaimed⟩
  | .argument, true => ⟨.addRef, .releaseUnclaimed, .releaseUnclaimed⟩
  | .result, false => ⟨.initNull, .transfer, .leaveUntouched⟩
  | .result, true => ⟨.initNull, .addRefThenTransfer, .leaveUntouched⟩

/-- What happens on exit, after an exception or without one. -/
def OwnershipRule.exit (r : OwnershipRule) (exception : Bool) : OnExit :=
  if exception then r.onException else r.onSuccess

/-- The name of what happens on entry. -/
def OnEntry.name : OnEntry → String
  | adopt => "Adopt"
  | addRef => "AddRef"
  | initNull => "InitNull"

/-- The name of what happens on exit. -/
def OnExit.name : OnExit → String
  | releaseUnclaimed => "ReleaseUnclaimed"
  | transfer => "Transfer"
  | addRefThenTransfer => "AddRefThenTransfer"
  | leaveUntouched => "LeaveUntouched"

end CallingConvention
