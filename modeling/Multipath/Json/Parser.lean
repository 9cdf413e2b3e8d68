import Multipath.Json.Value

/-! Reading JSON text. The grammar is the strict one: four kinds of blanks, no comments, no
trailing commas, no leading zeros, no control character inside a string, and nothing after
the value. A text that is legal but holds what no document of this library holds is read
all the same, so that a reader can pass over the fields that it does not know. -/
namespace Multipath.Json

def isBlank (c : Char) : Bool := c = ' ' || c = '\t' || c = '\n' || c = '\r'

def skipBlanks (s : List Char) : List Char := s.dropWhile isBlank

def quad? (a b c d : Char) : Option Nat := do
  let a ← Text.hexDigit? a
  let b ← Text.hexDigit? b
  let c ← Text.hexDigit? c
  let d ← Text.hexDigit? d
  pure (((a * 16 + b) * 16 + c) * 16 + d)

def isHighSurrogate (n : Nat) : Bool := 0xd800 ≤ n && n ≤ 0xdbff
def isLowSurrogate (n : Nat) : Bool := 0xdc00 ≤ n && n ≤ 0xdfff

def shortEscape? : Char → Option Char
  | '"' => some '"'
  | '\\' => some '\\'
  | '/' => some '/'
  | 'b' => some (Char.ofNat 8)
  | 'f' => some (Char.ofNat 12)
  | 'n' => some '\n'
  | 'r' => some '\r'
  | 't' => some '\t'
  | _ => none

/-- A piece of a string: a character, or half of a surrogate pair. -/
inductive Piece where
  | char (c : Char)
  | half (n : Nat)
  deriving DecidableEq, Repr

def Piece.ofNumber (n : Nat) : Piece :=
  if isHighSurrogate n || isLowSurrogate n then .half n else .char (Char.ofNat n)

/-- The pieces of a string behind its opening quote, and the text behind the closing one. -/
def stringRest : List Char → Option (List Piece × List Char)
  | [] => none
  | '"' :: rest => some ([], rest)
  | '\\' :: 'u' :: a :: b :: c :: d :: rest => do
    let n ← quad? a b c d
    let (pieces, after) ← stringRest rest
    pure (.ofNumber n :: pieces, after)
  | '\\' :: letter :: rest => do
    let c ← shortEscape? letter
    let (pieces, after) ← stringRest rest
    pure (.char c :: pieces, after)
  | c :: rest =>
    if c.toNat < 0x20 || c = '\\' then none
    else do
      let (pieces, after) ← stringRest rest
      pure (.char c :: pieces, after)

/-- The characters of a string. Two halves make one character if the first is a high one
and the second a low one; a half alone makes none. -/
def characters? : List Piece → Option (List Char)
  | [] => some []
  | .char c :: pieces => (characters? pieces).map (c :: ·)
  | .half high :: .half low :: pieces =>
    if isHighSurrogate high && isLowSurrogate low then
      let c := Char.ofNat (0x10000 + (high - 0xd800) * 0x400 + (low - 0xdc00))
      (characters? pieces).map (c :: ·)
    else none
  | .half _ :: _ => none

def text? (pieces : List Piece) : Option String := (characters? pieces).map String.ofList

def before (whole rest : List Char) : String :=
  String.ofList (whole.take (whole.length - rest.length))

def stringValue (whole : List Char) (pieces : List Piece) (rest : List Char) : Value :=
  match text? pieces with
  | some s => .string s
  | none => .other (before whole rest)

def digits? (s : List Char) : Option (List Char × List Char) :=
  let digits := s.takeWhile Char.isDigit
  if digits.isEmpty then none else some (digits, s.dropWhile Char.isDigit)

/-- The whole part of a number: a zero alone, or digits that do not begin with zero. -/
def whole? : List Char → Option (List Char × List Char)
  | '0' :: rest => some (['0'], rest)
  | s => digits? s

def fraction? : List Char → Option (List Char)
  | '.' :: rest => (digits? rest).map Prod.snd
  | s => some s

def exponent? : List Char → Option (List Char)
  | 'e' :: '+' :: rest | 'e' :: '-' :: rest | 'e' :: rest
  | 'E' :: '+' :: rest | 'E' :: '-' :: rest | 'E' :: rest => (digits? rest).map Prod.snd
  | s => some s

/-- A number. Only digits alone make a natural number. -/
def number? (s : List Char) : Option (Value × List Char) :=
  match s with
  | '-' :: positive => do
    let (_, rest) ← whole? positive
    let rest ← fraction? rest >>= exponent?
    pure (.other (before s rest), rest)
  | _ => do
    let (digits, plain) ← whole? s
    let rest ← fraction? plain >>= exponent?
    let value := if rest.length = plain.length then .natural (Nat.ofDigitChars 10 digits 0)
      else .other (before s rest)
    pure (value, rest)

def word? (word : List Char) (value : Value) (s : List Char) : Option (Value × List Char) :=
  if word.isPrefixOf s then some (value, s.drop word.length) else none

/-- The fields of an object, unless a name has half of a surrogate pair alone in it. -/
def fieldsValue (whole rest : List Char) (fields : List (Option String × Value)) : Value :=
  match fields.mapM fun (name, value) => name.map (·, value) with
  | some fields => .object fields
  | none => .other (before whole rest)

mutual

/-- A value at the start of a text, behind blanks. Each nested call is at a later place of
the text, so a depth of its length is never used up. -/
def value? : Nat → List Char → Option (Value × List Char)
  | 0, _ => none
  | depth + 1, s =>
    let s := skipBlanks s
    match s with
    | '"' :: rest => do
      let (pieces, after) ← stringRest rest
      pure (stringValue s pieces after, after)
    | '[' :: rest =>
      match skipBlanks rest with
      | ']' :: after => some (.array [], after)
      | rest => do
        let (items, after) ← items? depth rest
        pure (.array items, after)
    | '{' :: rest =>
      match skipBlanks rest with
      | '}' :: after => some (.object [], after)
      | rest => do
        let (fields, after) ← fields? depth rest
        pure (fieldsValue s after fields, after)
    | 'n' :: _ => word? "null".toList .null s
    | 't' :: _ => word? "true".toList (.bool true) s
    | 'f' :: _ => word? "false".toList (.bool false) s
    | _ => number? s

def items? : Nat → List Char → Option (List Value × List Char)
  | 0, _ => none
  | depth + 1, s => do
    let (item, rest) ← value? depth s
    match skipBlanks rest with
    | ',' :: rest =>
      let (items, after) ← items? depth rest
      pure (item :: items, after)
    | ']' :: after => pure ([item], after)
    | _ => none

def fields? : Nat → List Char → Option (List (Option String × Value) × List Char)
  | 0, _ => none
  | depth + 1, s => do
    let '"' :: rest := skipBlanks s | none
    let (pieces, rest) ← stringRest rest
    let ':' :: rest := skipBlanks rest | none
    let (value, rest) ← value? depth rest
    match skipBlanks rest with
    | ',' :: rest =>
      let (fields, after) ← fields? depth rest
      pure ((text? pieces, value) :: fields, after)
    | '}' :: after => pure ([(text? pieces, value)], after)
    | _ => none

end

def parse? (text : String) : Option Value := do
  let s := text.toList
  let (value, rest) ← value? (s.length + 1) s
  if (skipBlanks rest).isEmpty then pure value else none

end Multipath.Json
