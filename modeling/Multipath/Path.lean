import Multipath.Text.Utf8
import Multipath.Text.Quoted

/-! Paths of files. A path is a sequence of bytes, which need not be text: a directory may
hold names in any encoding. -/
namespace Multipath

structure Path where
  bytes : List UInt8
  deriving DecidableEq, Repr, Inhabited

namespace Path

def slash : UInt8 := 0x2f

def ofString (s : String) : Path := ⟨Text.Utf8.encode s.toList⟩

def text? (p : Path) : Option String := (Text.Utf8.decode? p.bytes).map String.ofList

def display (p : Path) : String := String.ofList (Text.Utf8.decodeLossy p.bytes)

def quotedPiece : Text.Utf8.Piece → List Char
  | .char c => Text.escapeChar c
  | .broken bytes => bytes.flatMap fun b => '\\' :: 'x' :: Text.hexByte b

/-- The path between quotes, with an escape for every byte that is not text. -/
def quoted (p : Path) : String :=
  String.ofList ('"' :: (Text.Utf8.pieces p.bytes).flatMap quotedPiece ++ ['"'])

def endsWithSlash (p : Path) : Bool := p.bytes.getLast? = some slash

def join (directory : Path) (name : List UInt8) : Path :=
  if directory.bytes.isEmpty || directory.endsWithSlash then ⟨directory.bytes ++ name⟩
  else ⟨directory.bytes ++ slash :: name⟩

end Path
end Multipath
