import CallingConvention.Number.Value
import CallingConvention.Text
import CallingConvention.Log

/-!
# Settings

The settings of the calling convention: the coercion policy, and how to log. They are read from a
document with two optional tables,

```text
[marshal]
coercion = "strict"   # or "convert"

[logging]
level = "debug"
json = false
file = "calls.log"
```

in which every entry is optional and other entries are ignored. How a document is read is a
parameter here. All that matters is which fields it gives (`Fields`), and what becomes of them is
the same for every reader. The environment can override the policy.
-/

namespace CallingConvention

/-!
## Coercion policy

What happens where a primitive value of one kind meets a place of another kind. The strict policy
refuses it and the converting policy converts it; a value of the right kind passes under both.

A policy is also written as text, in settings and in the environment. The text may have blanks
around it and letters of either case.
-/

/-- What happens to a value of another kind than asked for. -/
inductive Policy where
  | strict
  | convert
  deriving DecidableEq

instance : Inhabited Policy := ⟨.strict⟩

namespace Policy

/-- The name of a policy in settings. -/
def name : Policy → String
  | strict => "strict"
  | convert => "convert"

/-- The tag of a policy in diagnostic texts. -/
def tag : Policy → String
  | strict => "Strict"
  | convert => "Convert"

/-- Bring a value to a kind, or refuse it. -/
def coerce (policy : Policy) (k : Kind) (v : Value) : Option Value :=
  if v.kind = k then some v
  else
    match policy with
    | strict => none
    | convert => some (v.convert k)

theorem coerce_of_kind_eq (policy : Policy) {k : Kind} {v : Value} (h : v.kind = k) :
    policy.coerce k v = some v :=
  if_pos h

theorem coerce_strict_eq_some_iff {k : Kind} {v u : Value} :
    strict.coerce k v = some u ↔ v.kind = k ∧ v = u := by
  simp [coerce]

theorem coerce_convert (k : Kind) (v : Value) : convert.coerce k v = some (v.convert k) := by
  by_cases h : v.kind = k
  · rw [coerce_of_kind_eq _ h, Value.convert_of_kind_eq h]
  · simp [coerce, h]

theorem kind_of_coerce_eq_some {policy : Policy} {k : Kind} {v u : Value}
    (h : policy.coerce k v = some u) : u.kind = k := by
  cases policy with
  | strict =>
    obtain ⟨hk, rfl⟩ := coerce_strict_eq_some_iff.mp h
    exact hk
  | convert =>
    rw [coerce_convert] at h
    rw [← Option.some.inj h, Value.kind_convert]

/-! ### Text of a policy -/

/-- The policy that a text names, whatever the case of its letters and the blanks around it. -/
def ofText? (text : String) : Option Policy :=
  let word := (Text.trim text.toList).flatMap Text.lowercase
  if word = strict.name.toList then some strict
  else if word = convert.name.toList then some convert
  else none

end Policy

/-! ## Fields and settings -/

/-- Why there are no settings. -/
inductive SettingsError where
  | unreadable
  | malformed
  | invalidValue (key value : String)
  deriving DecidableEq

namespace SettingsError

/-- The name of the cause. -/
def name : SettingsError → String
  | unreadable => "Io"
  | malformed => "Parse"
  | invalidValue _ _ => "InvalidValue"

/-- The wording of an invalid value, which is the only cause that has one of its own. -/
def message? : SettingsError → Option String
  | invalidValue key value => some s!"invalid value '{value}' for {key}"
  | _ => none

end SettingsError

/-- The settings. -/
structure Settings where
  /-- The policy of functions that have none of their own. -/
  coercion : Policy
  /-- The least severe level to log, as it is written. -/
  level : String
  /-- Whether log entries are written as JSON. -/
  json : Bool
  /-- The file to log to, if it is not the standard error. -/
  file : Option String
  deriving DecidableEq

/-- The fields that a document gives, each as it is written. -/
structure Fields where
  /-- The name of the policy. -/
  coercion : Option String
  /-- The name of a level. -/
  level : Option String
  /-- Whether log entries are written as JSON. -/
  json : Option Bool
  /-- The file to log to. -/
  file : Option String
  deriving DecidableEq

/-- The policy that a text names, or why it names none. -/
def Policy.parse (text : String) : Except SettingsError Policy :=
  match Policy.ofText? text with
  | some p => .ok p
  | none => .error (.invalidValue "coercion" text)

namespace Settings

/-- The settings without a document. -/
def default : Settings := ⟨.strict, "info", false, none⟩

/-- The policy of a name that is written exactly. -/
def policyOfName? (name : String) : Option Policy :=
  if name = Policy.strict.name then some .strict
  else if name = Policy.convert.name then some .convert
  else none

/-- The policy of an optional name. -/
def policyOfField? : Option String → Option Policy
  | some name => policyOfName? name
  | none => some default.coercion

/-- The settings that fields give, with defaults for those that are missing. There are none if the
policy has an unknown name. -/
def ofFields? (fields : Fields) : Option Settings :=
  (policyOfField? fields.coercion).map fun p ↦
    ⟨p, fields.level.getD default.level, fields.json.getD default.json, fields.file⟩

/-- The settings that a document gives. -/
def parse (read : String → Option Fields) (document : String) : Except SettingsError Settings :=
  match (read document).bind ofFields? with
  | some s => .ok s
  | none => .error .malformed

/-- The settings in a file with the given bytes; without a file, there are no bytes. -/
def ofFile (read : String → Option Fields) (bytes : Option ByteArray) :
    Except SettingsError Settings :=
  match bytes.bind String.fromUTF8? with
  | some document => parse read document
  | none => .error .unreadable

/-- Let a variable of the environment override the policy. A variable that is not set has no bytes.
Like it, one with bytes that are no text leaves the policy as it is. -/
def withEnvironment (s : Settings) (value : Option ByteArray) : Except SettingsError Settings :=
  match value.bind String.fromUTF8? with
  | some text => (Policy.parse text).map fun p ↦ { s with coercion := p }
  | none => .ok s

/-- How to log. -/
def log (s : Settings) : LogSettings where
  severity := LogSettings.severityOf s.level
  path := s.file
  json := s.json
  spans := false

end Settings

end CallingConvention
