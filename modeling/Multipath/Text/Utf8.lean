/-! UTF-8 as a machine that reads one byte at a time. What it cannot read it hands back
as pieces, each the longest start of a character that was broken off, so that one
reader serves both uses: strict decoding refuses any broken piece, lenient decoding
writes the replacement character for each. -/
namespace Multipath.Text.Utf8

/-- What the bytes read so far promise: `missing` further bytes, the next of them
between `low` and `high`, to complete `bits`. -/
structure Partial where
  taken : List UInt8
  missing : Nat
  low : UInt8
  high : UInt8
  bits : Nat
  deriving DecidableEq, Repr

/-- A character, or bytes that start none. -/
inductive Piece where
  | char (c : Char)
  | broken (bytes : List UInt8)
  deriving DecidableEq, Repr

/-- The promise made by a first byte. The bounds on the second byte exclude overlong
forms, surrogates and numbers above the last character. -/
def lead? (b : UInt8) : Option Partial :=
  let n := b.toNat
  if n < 0xc2 then none
  else if n < 0xe0 then some ⟨[b], 1, 0x80, 0xbf, n - 0xc0⟩
  else if n = 0xe0 then some ⟨[b], 2, 0xa0, 0xbf, 0⟩
  else if n = 0xed then some ⟨[b], 2, 0x80, 0x9f, 0xd⟩
  else if n < 0xf0 then some ⟨[b], 2, 0x80, 0xbf, n - 0xe0⟩
  else if n = 0xf0 then some ⟨[b], 3, 0x90, 0xbf, 0⟩
  else if n < 0xf4 then some ⟨[b], 3, 0x80, 0xbf, n - 0xf0⟩
  else if n = 0xf4 then some ⟨[b], 3, 0x80, 0x8f, 4⟩
  else none

def start (b : UInt8) : List Piece × Option Partial :=
  if b < 0x80 then ([.char (Char.ofNat b.toNat)], none)
  else match lead? b with
    | some p => ([], some p)
    | none => ([.broken [b]], none)

/-- Read a byte: a promise is extended, kept, or broken off before this byte. -/
def step (b : UInt8) : Option Partial → List Piece × Option Partial
  | none => start b
  | some p =>
    if p.low ≤ b ∧ b ≤ p.high then
      let bits := p.bits * 64 + (b.toNat - 0x80)
      if p.missing ≤ 1 then ([.char (Char.ofNat bits)], none)
      else ([], some ⟨p.taken ++ [b], p.missing - 1, 0x80, 0xbf, bits⟩)
    else
      let (pieces, next) := start b
      (.broken p.taken :: pieces, next)

def scan : Option Partial → List UInt8 → List Piece
  | none, [] => []
  | some p, [] => [.broken p.taken]
  | state, b :: bytes =>
    let (pieces, next) := step b state
    pieces ++ scan next bytes

def pieces (bytes : List UInt8) : List Piece := scan none bytes

def Piece.char? : Piece → Option Char
  | .char c => some c
  | .broken _ => none

def Piece.orReplacement : Piece → Char
  | .char c => c
  | .broken _ => Char.ofNat 0xfffd

def decode? (bytes : List UInt8) : Option (List Char) :=
  (pieces bytes).mapM Piece.char?

/-- The text that the bytes encode, with a replacement character where they encode none. -/
def decodeLossy (bytes : List UInt8) : List Char :=
  (pieces bytes).map Piece.orReplacement

def encode (s : List Char) : List UInt8 := s.flatMap String.utf8EncodeChar

def size : List Char → Nat
  | [] => 0
  | c :: s => c.utf8Size + size s

/-- Cut a text behind a number of bytes. There is no cut inside of a character. -/
def splitAt? : Nat → List Char → Option (List Char × List Char)
  | 0, s => some ([], s)
  | _, [] => none
  | n, c :: s =>
    if c.utf8Size ≤ n then (splitAt? (n - c.utf8Size) s).map fun (left, right) => (c :: left, right)
    else none

@[simp] theorem pieces_nil : pieces [] = [] := rfl

@[simp] theorem decodeLossy_nil : decodeLossy [] = [] := rfl

-- Two broken characters in a row leave two pieces, whatever their length.
example : pieces [0xe2, 0x82, 0xc3] = [.broken [0xe2, 0x82], .broken [0xc3]] := by decide

end Multipath.Text.Utf8
