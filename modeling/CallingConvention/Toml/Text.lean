/-!
# Strings, keys and blanks in TOML

Readers of the parts of a TOML document that are made of characters. A reader takes what is left of
the document and gives what it read with what is left then, or nothing if the document is wrong.
-/

namespace CallingConvention.Toml

/-- A reader of one part of a document. -/
abbrev Reader (α : Type) := List Char → Option (α × List Char)

/-- Blanks inside a line. -/
def isSpace (c : Char) : Bool := c == ' ' || c == '\t'

/-- Characters that may stand in a comment, and with further exceptions in a string. -/
def isPlain (c : Char) : Bool :=
  c == '\t' || (0x20 ≤ c.toNat && c.toNat != 0x7f)

/-- Characters of a key without quotes. -/
def isBare (c : Char) : Bool := c.isAlphanum || c == '_' || c == '-'

/-- Skip blanks inside a line. -/
def skipSpaces (cs : List Char) : List Char := cs.dropWhile isSpace

/-- Skip an end of line. -/
def newline? : List Char → Option (List Char)
  | '\n' :: cs => some cs
  | '\r' :: '\n' :: cs => some cs
  | _ => none

/-- Skip a comment, if there is one, up to the end of its line. -/
def skipComment : List Char → List Char
  | '#' :: cs => cs.dropWhile isPlain
  | cs => cs

/-- The rest of a line after a statement: blanks, a comment and an end of line. -/
def lineEnd? (cs : List Char) : Option (List Char) :=
  match skipComment (skipSpaces cs) with
  | [] => some []
  | rest => newline? rest

/-! ## Escapes -/

/-- The value of hexadecimal digits. -/
def hexNumber? (digits : List Char) : Option Nat :=
  digits.foldl (fun n c ↦ do
    let n ← n
    if c.isDigit then some (16 * n + (c.toNat - '0'.toNat))
    else if 'a' ≤ c && c ≤ 'f' then some (16 * n + (c.toNat - 'a'.toNat + 10))
    else if 'A' ≤ c && c ≤ 'F' then some (16 * n + (c.toNat - 'A'.toNat + 10))
    else none) (some 0)

/-- The character that hexadecimal digits name, unless they name none or half of a pair. -/
def hexChar? (digits : List Char) : Option Char := do
  let n ← hexNumber? digits
  if h : n.isValidChar then some ⟨n.toUInt32, by
    rcases h with h | ⟨h₁, h₂⟩
    · left
      simpa [Nat.mod_eq_of_lt (show n < 4294967296 by omega)] using h
    · right
      simpa [Nat.mod_eq_of_lt (show n < 4294967296 by omega)] using ⟨h₁, h₂⟩⟩
  else none

/-- The character that a backslash and a letter stand for. -/
def simpleEscape? : Char → Option Char
  | 'b' => some '\x08'
  | 't' => some '\t'
  | 'n' => some '\n'
  | 'f' => some '\x0c'
  | 'r' => some '\r'
  | '"' => some '"'
  | '\\' => some '\\'
  | _ => none

/-- Put a character in front of what a reader of characters read. -/
def prepend (c : Char) (read : Option (List Char × List Char)) : Option (List Char × List Char) :=
  read.map fun (text, rest) ↦ (c :: text, rest)

/-! ## Strings -/

/-- The rest of a string between quotation marks. -/
def basicRest : Reader (List Char)
  | [] => none
  | '"' :: rest => some ([], rest)
  | '\\' :: 'u' :: a :: b :: c :: d :: rest =>
    match hexChar? [a, b, c, d] with
    | some x => prepend x (basicRest rest)
    | none => none
  | '\\' :: 'U' :: a :: b :: c :: d :: e :: f :: g :: h :: rest =>
    match hexChar? [a, b, c, d, e, f, g, h] with
    | some x => prepend x (basicRest rest)
    | none => none
  | '\\' :: c :: rest =>
    match simpleEscape? c with
    | some x => prepend x (basicRest rest)
    | none => none
  | c :: rest => if isPlain c && c != '\\' then prepend c (basicRest rest) else none

/-- The rest of a string between apostrophes, in which nothing is escaped. -/
def literalRest : Reader (List Char)
  | [] => none
  | '\'' :: rest => some ([], rest)
  | c :: rest => if isPlain c then prepend c (literalRest rest) else none

/-- The end of a string that three marks close: up to two more marks belong to the string. -/
def closing (mark : Char) (rest : List Char) : List Char × List Char :=
  match rest with
  | a :: b :: more =>
    if a = mark && b = mark then ([mark, mark], more)
    else if a = mark then ([mark], b :: more)
    else ([], rest)
  | [a] => if a = mark then ([mark], []) else ([], rest)
  | [] => ([], [])

/-- The rest of a string between three quotation marks. After a backslash at the end of a line,
`skipping` holds, and blanks and ends of lines are dropped. -/
def multilineBasicRest (skipping : Bool) : Reader (List Char)
  | [] => none
  | '"' :: '"' :: '"' :: rest => some (closing '"' rest)
  | '\n' :: rest =>
    if skipping then multilineBasicRest true rest else prepend '\n' (multilineBasicRest false rest)
  | '\r' :: '\n' :: rest =>
    if skipping then multilineBasicRest true rest else prepend '\n' (multilineBasicRest false rest)
  | '\\' :: 'u' :: a :: b :: c :: d :: rest =>
    match hexChar? [a, b, c, d] with
    | some x => prepend x (multilineBasicRest false rest)
    | none => none
  | '\\' :: 'U' :: a :: b :: c :: d :: e :: f :: g :: h :: rest =>
    match hexChar? [a, b, c, d, e, f, g, h] with
    | some x => prepend x (multilineBasicRest false rest)
    | none => none
  | '\\' :: c :: rest =>
    match simpleEscape? c with
    | some x => prepend x (multilineBasicRest false rest)
    | none =>
      if (newline? (skipSpaces (c :: rest))).isSome then multilineBasicRest true (c :: rest)
      else none
  | c :: rest =>
    if skipping && isSpace c then multilineBasicRest true rest
    else if isPlain c && c != '\\' then prepend c (multilineBasicRest false rest)
    else none

/-- The rest of a string between three apostrophes. -/
def multilineLiteralRest : Reader (List Char)
  | [] => none
  | '\'' :: '\'' :: '\'' :: rest => some (closing '\'' rest)
  | '\n' :: rest => prepend '\n' (multilineLiteralRest rest)
  | '\r' :: '\n' :: rest => prepend '\n' (multilineLiteralRest rest)
  | c :: rest => if isPlain c then prepend c (multilineLiteralRest rest) else none

/-- Skip the end of line that may follow the opening marks. -/
def skipFirstNewline (cs : List Char) : List Char := (newline? cs).getD cs

/-- A string in any of the four forms. -/
def string? (cs : List Char) : Option (List Char × List Char) :=
  match cs with
  | '"' :: '"' :: '"' :: rest => multilineBasicRest false (skipFirstNewline rest)
  | '"' :: rest => basicRest rest
  | '\'' :: '\'' :: '\'' :: rest => multilineLiteralRest (skipFirstNewline rest)
  | '\'' :: rest => literalRest rest
  | _ => none

/-! ## Keys -/

/-- One part of a key: in quotes, or bare. -/
def keyPart? (cs : List Char) : Option (String × List Char) :=
  match cs with
  | '"' :: rest => (basicRest rest).map fun (text, rest) ↦ (String.ofList text, rest)
  | '\'' :: rest => (literalRest rest).map fun (text, rest) ↦ (String.ofList text, rest)
  | _ =>
    let (text, rest) := cs.span isBare
    if text.isEmpty then none else some (String.ofList text, rest)

/-- Longest path of a dotted key, and deepest nesting of arrays and inline tables. -/
def nestingLimit : Nat := 79

/-- The parts of a dotted key, at most as many as given, with blanks around them. -/
def keyParts? : Nat → Reader (List String)
  | 0, _ => none
  | n + 1, cs =>
    match keyPart? (skipSpaces cs) with
    | none => none
    | some (part, rest) =>
      match skipSpaces rest with
      | '.' :: rest => (keyParts? n rest).map fun (parts, rest) ↦ (part :: parts, rest)
      | rest => some ([part], rest)

/-- A dotted key: the path to its table and the key there. -/
def key? (cs : List Char) : Option ((List String × String) × List Char) :=
  match keyParts? nestingLimit cs with
  | some (parts, rest) => parts.getLast?.map fun last ↦ ((parts.dropLast, last), rest)
  | none => none

end CallingConvention.Toml
