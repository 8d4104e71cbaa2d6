import CallingConvention.Toml.Document
import CallingConvention.Toml.Number
import CallingConvention.Settings

/-!
# Reading TOML

`Toml.read?` reads a whole document. Values nest at most `nestingLimit` deep, and this bound is what
the readers of values recurse on; the readers of lists recurse on the number of characters left.
-/

namespace CallingConvention.Toml

/-- Skip blanks, ends of lines and comments between the elements of an array. -/
def skipLines : Nat → List Char → List Char
  | 0, cs => cs
  | n + 1, cs =>
    let cs := skipSpaces cs
    match newline? (skipComment cs) with
    | some rest => skipLines n rest
    | none => cs

/-- The elements of an array up to the closing bracket, at most as many as given. -/
def elements? (item : Reader Node) : Nat → Reader (List Node)
  | 0, _ => none
  | n + 1, cs =>
    match skipLines cs.length cs with
    | ']' :: rest => some ([], rest)
    | cs =>
      match item cs with
      | none => none
      | some (node, rest) =>
        match skipLines rest.length rest with
        | ']' :: rest => some ([node], rest)
        | ',' :: rest => (elements? item n rest).map fun (nodes, rest) ↦ (node :: nodes, rest)
        | _ => none

/-- The entries of an inline table up to the closing brace, at most as many as given. -/
def inlineEntries? (item : Reader Node) : Nat → Entries → Reader Entries
  | 0, _, _ => none
  | n + 1, es, cs =>
    match key? cs with
    | some ((path, key), '=' :: rest) =>
      match item (skipSpaces rest) with
      | none => none
      | some (node, rest) =>
        match es.insertDotted path key node with
        | none => none
        | some es =>
          match skipSpaces rest with
          | ',' :: rest => inlineEntries? item n es rest
          | '\x7d' :: rest => some (es, rest)
          | _ => none
    | _ => none

/-- A value that is neither an array nor a table. -/
def scalar? (cs : List Char) : Option (Node × List Char) :=
  match cs with
  | '"' :: _ => (string? cs).map fun (text, rest) ↦ (.text (String.ofList text), rest)
  | '\'' :: _ => (string? cs).map fun (text, rest) ↦ (.text (String.ofList text), rest)
  | 't' :: 'r' :: 'u' :: 'e' :: rest => some (.boolean true, rest)
  | 'f' :: 'a' :: 'l' :: 's' :: 'e' :: rest => some (.boolean false, rest)
  | _ =>
    match dateTime? cs with
    | some rest => some (.dateTime, rest)
    | none =>
      match float? cs with
      | some (_, rest) => some (.float, rest)
      | none => (integer? cs).map fun (n, rest) ↦ (.integer n, rest)

/-- A value, in which arrays and inline tables nest at most as deep as given. -/
def value? : Nat → Reader Node
  | 0, cs =>
    match cs with
    | '[' :: _ => none
    | '\x7b' :: _ => none
    | _ => scalar? cs
  | depth + 1, cs =>
    match cs with
    | '[' :: rest =>
      (elements? (value? depth) (rest.length + 1) rest).map fun (items, rest) ↦ (.array items, rest)
    | '\x7b' :: rest =>
      match skipSpaces rest with
      | '\x7d' :: rest => some (.inline [], rest)
      | rest =>
        (inlineEntries? (value? depth) (rest.length + 1) [] rest).map fun (es, rest) ↦
          (.inline es, rest)
    | _ => scalar? cs

/-- A header after its opening brackets, up to the end of its line. -/
def header? (closing : List Char) (cs : List Char) :
    Option ((List String × String) × List Char) :=
  match key? cs with
  | some (name, rest) =>
    if closing.isPrefixOf rest then
      (lineEnd? (rest.drop closing.length)).map fun rest ↦ (name, rest)
    else none
  | none => none

/-- One statement of a document. -/
def statement? (d : Document) (cs : List Char) : Option (Document × List Char) :=
  match cs with
  | '[' :: '[' :: rest => do
    let ((path, key), rest) ← header? [']', ']'] rest
    let d ← d.openElement path key
    some (d, rest)
  | '[' :: rest => do
    let ((path, key), rest) ← header? [']'] rest
    let d ← d.openTable path key
    some (d, rest)
  | _ =>
    match key? cs with
    | some ((path, key), '=' :: rest) => do
      let (node, rest) ← value? nestingLimit (skipSpaces rest)
      let rest ← lineEnd? rest
      let d ← d.addValue path key node
      some (d, rest)
    | _ => none

/-- The statements of a document, at most as many as given. Lines without a statement may hold a
comment. -/
def statements? : Nat → Document → List Char → Option Document
  | 0, _, _ => none
  | n + 1, d, cs =>
    match skipSpaces cs with
    | [] => some d
    | c :: cs =>
      if c = '#' || c = '\n' || c = '\r' then
        match lineEnd? (c :: cs) with
        | some rest => statements? n d rest
        | none => none
      else
        match statement? d (c :: cs) with
        | some (d, rest) => statements? n d rest
        | none => none

/-- The entries of a document, if it is one. A byte order mark in front of it is skipped. -/
def read? (text : String) : Option Entries :=
  let cs :=
    match text.toList with
    | c :: cs => if c = Char.ofNat 0xfeff then cs else c :: cs
    | [] => []
  (statements? (cs.length + 1) .empty cs).map Document.entries

/-!
## Fields of settings

Which fields a document gives for settings. Where a table is expected, an array gives the entries in
the order that the fields have, and a date stands for a table without entries. A document in which
some field has a node of another form gives no fields at all.
-/

/-- Entries of a table by their names, which an array gives in order. -/
def section? (names : List String) : Node → Option Entries
  | .inline es => some es
  | .table _ es => some es
  | .array items => some (names.zip items)
  | .tables items => some (names.zip (items.map (.table .header)))
  | .dateTime => some []
  | _ => none

/-- Whether a node has no entries and no items. -/
def isEmptyNode : Node → Bool
  | .inline es => es.isEmpty
  | .table _ es => es.isEmpty
  | .array items => items.isEmpty
  | .tables items => items.isEmpty
  | _ => false

/-- The name of a policy: a string, or the one name in a table, which has an empty table there. -/
def policyName? : Node → Option String
  | .text name => some name
  | .inline [(name, node)] => if isEmptyNode node then some name else none
  | .table _ [(name, node)] => if isEmptyNode node then some name else none
  | _ => none

/-- A string. -/
def text? : Node → Option String
  | .text s => some s
  | _ => none

/-- A truth value. -/
def boolean? : Node → Option Bool
  | .boolean b => some b
  | _ => none

/-- Read the entry at a name, if there is one. -/
def entry? {α : Type} (es : Entries) (name : String) (read : Node → Option α) :
    Option (Option α) :=
  match es.get? name with
  | some node => (read node).map some
  | none => some none

/-- The fields among the entries of a document. -/
def fieldsOf? (es : Entries) : Option Fields := do
  let marshal ← entry? es "marshal" (section? ["coercion"])
  let logging ← entry? es "logging" (section? ["level", "json", "file"])
  let coercion ← entry? (marshal.getD []) "coercion" policyName?
  let level ← entry? (logging.getD []) "level" text?
  let json ← entry? (logging.getD []) "json" boolean?
  let file ← entry? (logging.getD []) "file" text?
  return ⟨coercion, level, json, file⟩

/-- The fields that a document gives. -/
def fields? (document : String) : Option Fields := (read? document).bind fieldsOf?

end CallingConvention.Toml
