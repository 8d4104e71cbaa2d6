/-!
# Log entries

What the calling convention reports about its own work. Every entry has a severity and named
fields; whether an entry is shown depends on the severity that the reader asked for.
-/

namespace CallingConvention

/-- How severe a log entry is, from the most to the least. -/
inductive Severity where
  | error
  | warn
  | info
  | debug
  | trace
  deriving DecidableEq

namespace Severity

/-- Rank of a severity: more severe is lower. -/
def rank : Severity → Nat
  | error => 1
  | warn => 2
  | info => 3
  | debug => 4
  | trace => 5

/-- The name of a severity in log output. -/
def name : Severity → String
  | error => "ERROR"
  | warn => "WARN"
  | info => "INFO"
  | debug => "DEBUG"
  | trace => "TRACE"

/-- Every severity. -/
def all : List Severity := [error, warn, info, debug, trace]

/-- The number that decimal digits make, after a plus sign or without one. -/
def rankOfText? (text : List Char) : Option Nat :=
  let digits :=
    match text with
    | '+' :: digits => digits
    | digits => digits
  if digits.isEmpty || !digits.all Char.isDigit then none
  else some (digits.foldl (fun n c ↦ 10 * n + (c.toNat - '0'.toNat)) 0)

/-- The severity that a text means, by its rank or by its name in letters of either case. -/
def ofText? (text : String) : Option Severity :=
  match rankOfText? text.toList with
  | some n => all.find? fun s ↦ s.rank == n
  | none => all.find? fun s ↦ s.name.toList == text.toList.map Char.toUpper

/-- Whether an entry of this severity shows where entries up to `threshold` are wanted. -/
def shownAt (s threshold : Severity) : Bool := s.rank ≤ threshold.rank

end Severity

/-- The content of a field of a log entry. -/
inductive LogField where
  | text (s : String)
  | number (n : Nat)
  deriving DecidableEq

/-- One log entry. Functions are named as they are declared, or qualified by their object type
where an entry is about the identity of a function or about its exception. -/
inductive LogEntry where
  | frameConstruct (function : String) (arguments : Nat)
  | genericCall (function : String) (arguments : Nat)
  | genericReturn (function : String)
  | scriptException (function message : String)
  | protocolWarning (function warning : String)
  | frameTeardown (function : String) (released : Nat)
  | registerFunction (function : String) (id : Nat) (declaration : String)
  | objectNew
  | objectDestroy
  deriving DecidableEq

namespace LogEntry

/-- The severity of an entry. -/
def severity : LogEntry → Severity
  | frameConstruct _ _ => .trace
  | genericCall _ _ => .debug
  | genericReturn _ => .trace
  | scriptException _ _ => .debug
  | protocolWarning _ _ => .warn
  | frameTeardown _ _ => .trace
  | registerFunction _ _ _ => .debug
  | objectNew => .trace
  | objectDestroy => .trace

/-- The fields of an entry. The message of a script exception stands where other entries say what
happened. -/
def fields : LogEntry → List (String × LogField)
  | frameConstruct function arguments =>
    [("event", .text "frame_construct"), ("function", .text function), ("args", .number arguments),
      ("message", .text "Call frame constructed")]
  | genericCall function arguments =>
    [("event", .text "generic_call"), ("function", .text function), ("args", .number arguments),
      ("message", .text "Generic function called")]
  | genericReturn function =>
    [("event", .text "generic_return"), ("function", .text function),
      ("message", .text "Generic function returned")]
  | scriptException function message =>
    [("event", .text "script_exception"), ("function", .text function), ("message", .text message)]
  | protocolWarning function warning =>
    [("event", .text "protocol_warning"), ("function", .text function), ("warning", .text warning),
      ("message", .text "Generic calling convention misuse")]
  | frameTeardown function released =>
    [("event", .text "frame_teardown"), ("function", .text function),
      ("released_handles", .number released), ("message", .text "Call frame torn down")]
  | registerFunction function id declaration =>
    [("event", .text "register_function"), ("function", .text function), ("id", .number id),
      ("declaration", .text declaration), ("message", .text "Generic function registered")]
  | objectNew => [("event", .text "object_new")]
  | objectDestroy => [("event", .text "object_destroy")]

end LogEntry

/-!
## Log settings

How log entries are to be shown: from which severity on, to which file, in which form. The
environment can set each of these by a variable of its own.
-/

/-- How log entries are shown. -/
structure LogSettings where
  /-- From which severity on. -/
  severity : Severity
  /-- To which file, where without one they go to the console. -/
  path : Option String
  /-- Whether as JSON. -/
  json : Bool
  /-- Whether with the spans that they belong to. -/
  spans : Bool
  deriving DecidableEq

namespace LogSettings

/-- Informative entries in readable form on the console. -/
def default : LogSettings := ⟨.info, none, false, false⟩

/-- Everything, to trace how arguments are marshalled. -/
def verbose : LogSettings := ⟨.trace, none, false, true⟩

/-- The severity that a text means; a text without meaning counts as `info`. -/
def severityOf (text : String) : Severity := (Severity.ofText? text).getD .info

/-- The settings of an environment in which the variables for the level, the file, the form and the
spans have the given values. The last two count as set with any value. -/
def ofEnvironment (level file json spans : Option String) : LogSettings where
  severity := (level.map severityOf).getD .info
  path := file
  json := json.isSome
  spans := spans.isSome

end LogSettings

/-- Where log entries are shown. -/
structure Logger where
  /-- The settings that are installed, without which entries are shown nowhere. -/
  settings : Option LogSettings
  deriving DecidableEq

namespace Logger

/-- The logger before any settings are installed. -/
def idle : Logger := ⟨none⟩

/-- Install settings. The first ones stay in force. -/
def install (l : Logger) (s : LogSettings) : Logger := ⟨some (l.settings.getD s)⟩

/-- Whether settings have been installed. -/
def isInstalled (l : Logger) : Bool := l.settings.isSome

@[simp] theorem isInstalled_install (l : Logger) (s : LogSettings) :
    (l.install s).isInstalled = true := rfl

@[simp] theorem install_install (l : Logger) (s t : LogSettings) :
    (l.install s).install t = l.install s := rfl

end Logger

end CallingConvention
