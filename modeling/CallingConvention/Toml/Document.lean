/-!
# TOML documents

The tree that a TOML document denotes, and how its statements build it. A table remembers how it
came to be, because that decides what may still be added to it: a table with its own header is
closed to dotted keys, a table that dotted keys made is closed to a header, and a table that only
stands on the way to another one is open to a header and to nothing else. Inline tables are closed.

A statement that adds what it must not has no result.
-/

namespace CallingConvention.Toml

/-- How a table came to be: by its own header, on the way to another header, or by dotted keys. -/
inductive Origin where
  | header
  | implied
  | dotted
  deriving DecidableEq

/-- A node of a document. Numbers are kept only as far as being numbers. -/
inductive Node where
  | text (s : String)
  | integer (n : Int)
  | float
  | boolean (b : Bool)
  | dateTime
  | array (items : List Node)
  | inline (entries : List (String × Node))
  | table (origin : Origin) (entries : List (String × Node))
  | tables (items : List (List (String × Node)))

instance : Inhabited Node := ⟨.float⟩

/-- The entries of a table, in the order in which they were made. -/
abbrev Entries := List (String × Node)

namespace Entries

/-- The node at a key. -/
def get? (es : Entries) (key : String) : Option Node :=
  (es.find? fun e ↦ e.1 == key).map Prod.snd

/-- Put a node at a key, in place of one that is there. -/
def put (es : Entries) (key : String) (node : Node) : Entries :=
  if (es.get? key).isSome then es.map fun e ↦ if e.1 == key then (key, node) else e
  else es ++ [(key, node)]

/-- Put a node at a key that has none. -/
def insertNew (es : Entries) (key : String) (node : Node) : Option Entries :=
  if (es.get? key).isSome then none else some (es.put key node)

/-- Set the value of a dotted key. The tables that its path goes through must be made by dotted
keys, except that a path may pass through an implied table to a dotted one. -/
def insertDotted (es : Entries) (path : List String) (key : String) (node : Node) :
    Option Entries :=
  match path with
  | [] => es.insertNew key node
  | first :: rest =>
    match es.get? first with
    | none => (insertDotted [] rest key node).map fun inner ↦ es.put first (.table .dotted inner)
    | some (.table origin inner) =>
      if origin = .header || (origin = .implied && rest.isEmpty) then none
      else
        (insertDotted inner rest key node).map fun inner ↦ es.put first (.table origin inner)
    | some (.tables items) =>
      match items.getLast? with
      | some last =>
        if rest.isEmpty then none
        else
          (insertDotted last rest key node).map fun last ↦
            es.put first (.tables (items.dropLast ++ [last]))
      | none => none
    | some _ => none

/-- Change the table at the end of a path of headers. Missing tables on the way are implied, and a
path goes through the last table of an array of tables. -/
def update (es : Entries) (path : List String) (f : Entries → Option Entries) : Option Entries :=
  match path with
  | [] => f es
  | first :: rest =>
    match es.get? first with
    | none => (update [] rest f).map fun inner ↦ es.put first (.table .implied inner)
    | some (.table origin inner) =>
      (update inner rest f).map fun inner ↦ es.put first (.table origin inner)
    | some (.tables items) =>
      match items.getLast? with
      | some last =>
        (update last rest f).map fun last ↦ es.put first (.tables (items.dropLast ++ [last]))
      | none => none
    | some _ => none

end Entries

/-- What has been read of a document. -/
structure Document where
  /-- The entries so far. -/
  entries : Entries
  /-- The path of the last header. -/
  current : List String

namespace Document

/-- The document without statements. -/
def empty : Document := ⟨[], []⟩

/-- Add `key = value` to the current table. -/
def addValue (d : Document) (path : List String) (key : String) (node : Node) : Option Document :=
  (d.entries.update d.current fun es ↦ es.insertDotted path key node).map fun es ↦
    { d with entries := es }

/-- Open a table by its header. -/
def openTable (d : Document) (path : List String) (key : String) : Option Document :=
  let opened (es : Entries) : Option Entries :=
    match es.get? key with
    | none => some (es.put key (.table .header []))
    | some (.table .implied inner) => some (es.put key (.table .header inner))
    | some _ => none
  (d.entries.update path opened).map fun es ↦ ⟨es, path ++ [key]⟩

/-- Open a further table of an array of tables. -/
def openElement (d : Document) (path : List String) (key : String) : Option Document :=
  let opened (es : Entries) : Option Entries :=
    match es.get? key with
    | none => some (es.put key (.tables [[]]))
    | some (.tables items) => some (es.put key (.tables (items ++ [[]])))
    | some _ => none
  (d.entries.update path opened).map fun es ↦ ⟨es, path ++ [key]⟩

end Document

end CallingConvention.Toml
