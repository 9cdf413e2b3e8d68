import Multipath.Text.Numeral
import Multipath.Toml.Value

/-! Reading TOML documents. All forms of keys, strings, integers, arrays and tables are
read. A document with a number with a fraction, a truth value or a time is refused, since
nothing here is configured by one. -/
namespace Multipath.Toml

def isBlank (c : Char) : Bool := c = ' ' || c = '\t'

def skipBlanks (s : List Char) : List Char := s.dropWhile isBlank

/-- A character of a comment or a string: no control character except the tabulator. -/
def isPlain (c : Char) : Bool := c = '\t' || (0x20 ≤ c.toNat && c.toNat ≠ 0x7f)

def newline? : List Char → Option (List Char)
  | '\n' :: rest => some rest
  | '\r' :: '\n' :: rest => some rest
  | _ => none

/-- The text behind the end of a line, at which a comment may stand. -/
def lineEnd? (s : List Char) : Option (List Char) :=
  let s := match skipBlanks s with
    | '#' :: rest => rest.dropWhile isPlain
    | s => s
  if s.isEmpty then some [] else newline? s

def skipLines : Nat → List Char → List Char
  | 0, s => s
  | fuel + 1, s =>
    match skipBlanks s with
    | '#' :: rest =>
      match newline? (rest.dropWhile isPlain) with
      | some rest => skipLines fuel rest
      | none => '#' :: rest
    | s =>
      match newline? s with
      | some rest => skipLines fuel rest
      | none => s

def hexNumber? (digits : List Char) : Option Nat :=
  (digits.mapM Text.hexDigit?).map fun values => values.foldl (fun n d => n * 16 + d) 0

/-- The character of a number, unless the number is that of half a surrogate pair or is
too large. -/
def scalar? (digits : List Char) : Option Char := do
  let n ← hexNumber? digits
  if n.isValidChar then some (Char.ofNat n) else none

def shortEscape? : Char → Option Char
  | 'b' => some (Char.ofNat 8)
  | 't' => some '\t'
  | 'n' => some '\n'
  | 'f' => some (Char.ofNat 12)
  | 'r' => some '\r'
  | '"' => some '"'
  | '\\' => some '\\'
  | _ => none

def prepend (c : Char) : List Char × List Char → List Char × List Char
  | (chars, rest) => (c :: chars, rest)

def basicRest : List Char → Option (List Char × List Char)
  | [] => none
  | '"' :: rest => some ([], rest)
  | '\\' :: 'u' :: a :: b :: c :: d :: rest => do
    let char ← scalar? [a, b, c, d]
    (basicRest rest).map (prepend char)
  | '\\' :: 'U' :: a :: b :: c :: d :: e :: f :: g :: h :: rest => do
    let char ← scalar? [a, b, c, d, e, f, g, h]
    (basicRest rest).map (prepend char)
  | '\\' :: letter :: rest => do
    let char ← shortEscape? letter
    (basicRest rest).map (prepend char)
  | c :: rest => if isPlain c && c ≠ '\\' then (basicRest rest).map (prepend c) else none

def literalRest : List Char → Option (List Char × List Char)
  | [] => none
  | '\x27' :: rest => some ([], rest)
  | c :: rest => if isPlain c then (literalRest rest).map (prepend c) else none

/-- The text of a string over several lines. A backslash at the end of a line removes the
line end and all blank space behind it, which is what `skipping` says. Up to two quotes
may stand directly before the three that close the string. -/
def longBasicRest : (skipping : Bool) → List Char → Option (List Char × List Char)
  | _, [] => none
  | _, '"' :: '"' :: '"' :: '"' :: '"' :: rest => some (['"', '"'], rest)
  | _, '"' :: '"' :: '"' :: '"' :: rest => some (['"'], rest)
  | _, '"' :: '"' :: '"' :: rest => some ([], rest)
  | skipping, '\n' :: rest =>
    if skipping then longBasicRest true rest
    else (longBasicRest false rest).map (prepend '\n')
  | skipping, '\r' :: '\n' :: rest =>
    if skipping then longBasicRest true rest
    else (longBasicRest false rest).map (prepend '\n')
  | _, '\\' :: 'u' :: a :: b :: c :: d :: rest => do
    let char ← scalar? [a, b, c, d]
    (longBasicRest false rest).map (prepend char)
  | _, '\\' :: 'U' :: a :: b :: c :: d :: e :: f :: g :: h :: rest => do
    let char ← scalar? [a, b, c, d, e, f, g, h]
    (longBasicRest false rest).map (prepend char)
  | _, '\\' :: c :: rest =>
    if (newline? (skipBlanks (c :: rest))).isSome then longBasicRest true (c :: rest)
    else do
      let char ← shortEscape? c
      (longBasicRest false rest).map (prepend char)
  | skipping, c :: rest =>
    if skipping && isBlank c then longBasicRest true rest
    else if isPlain c && c ≠ '\\' then (longBasicRest false rest).map (prepend c)
    else none

def longLiteralRest : List Char → Option (List Char × List Char)
  | [] => none
  | '\x27' :: '\x27' :: '\x27' :: '\x27' :: '\x27' :: rest => some (['\x27', '\x27'], rest)
  | '\x27' :: '\x27' :: '\x27' :: '\x27' :: rest => some (['\x27'], rest)
  | '\x27' :: '\x27' :: '\x27' :: rest => some ([], rest)
  | '\n' :: rest => (longLiteralRest rest).map (prepend '\n')
  | '\r' :: '\n' :: rest => (longLiteralRest rest).map (prepend '\n')
  | c :: rest => if isPlain c then (longLiteralRest rest).map (prepend c) else none

/-- A line end directly behind the opening quotes does not belong to the text. -/
def skipNewline (s : List Char) : List Char := (newline? s).getD s

def string? (read : List Char → Option (List Char × List Char)) (s : List Char) :
    Option (String × List Char) :=
  (read s).map fun (chars, rest) => (String.ofList chars, rest)

def isBare (c : Char) : Bool := c.isAlphanum || c = '_' || c = '-'

def simpleKey? : List Char → Option (String × List Char)
  | '"' :: rest => string? basicRest rest
  | '\x27' :: rest => string? literalRest rest
  | s =>
    let name := s.takeWhile isBare
    if name.isEmpty then none else some (String.ofList name, s.dropWhile isBare)

/-- The parts of a dotted key, and the text behind the blanks after it. -/
def key? : Nat → List Char → Option (List String × List Char)
  | 0, _ => none
  | fuel + 1, s => do
    let (name, rest) ← simpleKey? (skipBlanks s)
    match skipBlanks rest with
    | '.' :: rest =>
      let (names, rest) ← key? fuel rest
      pure (name :: names, rest)
    | rest => pure ([name], rest)

/-- The number of digits that single underscores may separate. -/
def digitsNumber? (base : Nat) (digits : List Char) : Option Nat := do
  if (digits.splitOn '_').any List.isEmpty then none
  else
    let values ← (digits.filter (· ≠ '_')).mapM Text.hexDigit?
    if values.all (· < base) then some (values.foldl (fun n d => n * base + d) 0) else none

def integerValue? (i : Int) : Option Value :=
  if -0x8000000000000000 ≤ i ∧ i ≤ 0x7fffffffffffffff then some (.integer i) else none

def decimal? (digits : List Char) : Option Nat :=
  match digits with
  | '0' :: _ :: _ => none
  | _ => digitsNumber? 10 digits

def isDigitLike (c : Char) : Bool := c.isAlphanum || c = '_'

def integer? (s : List Char) : Option (Value × List Char) := do
  let (sign, unsigned) := match s with
    | '-' :: rest => (some (-1 : Int), rest)
    | '+' :: rest => (some 1, rest)
    | _ => (none, s)
  let digits := unsigned.takeWhile isDigitLike
  let n ← match sign, digits with
    | none, '0' :: 'x' :: digits => digitsNumber? 16 digits
    | none, '0' :: 'o' :: digits => digitsNumber? 8 digits
    | none, '0' :: 'b' :: digits => digitsNumber? 2 digits
    | _, _ => decimal? digits
  let value ← integerValue? (sign.getD 1 * n)
  pure (value, unsigned.dropWhile isDigitLike)

mutual

/-- A value at the start of a text. Each nested call is at a later place of the text, so a
depth of its length is never used up. -/
def value? : Nat → List Char → Option (Value × List Char)
  | 0, _ => none
  | depth + 1, s =>
    match s with
    | '"' :: '"' :: '"' :: rest =>
      (string? (longBasicRest false) (skipNewline rest)).map fun (text, rest) =>
        (.string text, rest)
    | '"' :: rest => (string? basicRest rest).map fun (text, rest) => (.string text, rest)
    | '\x27' :: '\x27' :: '\x27' :: rest =>
      (string? longLiteralRest (skipNewline rest)).map fun (text, rest) => (.string text, rest)
    | '\x27' :: rest => (string? literalRest rest).map fun (text, rest) => (.string text, rest)
    | '[' :: rest => (items? depth rest).map fun (items, rest) => (.array items, rest)
    | '{' :: rest =>
      match skipBlanks rest with
      | '}' :: rest => some (.table .inline [], rest)
      | rest => (fields? depth [] rest).map fun (entries, rest) => (.table .inline entries, rest)
    | _ => integer? s

def items? : Nat → List Char → Option (List Value × List Char)
  | 0, _ => none
  | depth + 1, s =>
    match skipLines s.length s with
    | ']' :: rest => some ([], rest)
    | s => do
      let (item, rest) ← value? depth s
      match skipLines rest.length rest with
      | ',' :: rest =>
        let (items, rest) ← items? depth rest
        pure (item :: items, rest)
      | ']' :: rest => pure ([item], rest)
      | _ => none

def fields? : Nat → Entries → List Char → Option (Entries × List Char)
  | 0, _, _ => none
  | depth + 1, entries, s => do
    let (key, '=' :: rest) ← key? s.length s | none
    let (value, rest) ← value? depth (skipBlanks rest)
    let entries ← entries.assign key.dropLast (key.getLastD "") value
    match skipBlanks rest with
    | ',' :: rest => fields? depth entries rest
    | '}' :: rest => pure (entries, rest)
    | _ => none

end

/-- One statement of a document and the line end behind it: a header, which changes the
table that later keys belong to, a key with its value, or nothing. -/
def statement? (table : List String) (entries : Entries) (s : List Char) :
    Option ((List String × Entries) × List Char) := do
  match s with
  | '[' :: '[' :: rest =>
    let (key, ']' :: ']' :: rest) ← key? rest.length rest | none
    let entries ← entries.openElement key.dropLast (key.getLastD "")
    pure ((key, entries), ← lineEnd? rest)
  | '[' :: rest =>
    let (key, ']' :: rest) ← key? rest.length rest | none
    let entries ← entries.openTable key.dropLast (key.getLastD "")
    pure ((key, entries), ← lineEnd? rest)
  | _ =>
    match lineEnd? s with
    | some rest => pure ((table, entries), rest)
    | none =>
      let (key, '=' :: rest) ← key? s.length s | none
      let (value, rest) ← value? rest.length (skipBlanks rest)
      let entries ← entries.assignIn table key.dropLast (key.getLastD "") value
      pure ((table, entries), ← lineEnd? rest)

def statements? : Nat → List String → Entries → List Char → Option Entries
  | _, _, entries, [] => some entries
  | 0, _, _, _ => none
  | fuel + 1, table, entries, s => do
    let ((table, entries), rest) ← statement? table entries (skipBlanks s)
    statements? fuel table entries rest

/-- The table that a document describes. A byte order mark before it is passed over. -/
def parse? (text : String) : Option Entries :=
  let s := match text.toList with
    | '\ufeff' :: rest => rest
    | s => s
  statements? (s.length + 1) [] [] s

end Multipath.Toml
