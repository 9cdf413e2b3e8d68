import Multipath.Text.Numeral
import Multipath.Text.Quoted

/-! Log events: a level, the part of the program that speaks, a message, and named values. -/
namespace Multipath.Log

/-- How much an event matters, the most important first. -/
inductive Level where
  | error
  | warn
  | info
  | debug
  | trace
  deriving DecidableEq, Repr

def Level.name : Level → String
  | .error => "ERROR"
  | .warn => "WARN"
  | .info => "INFO"
  | .debug => "DEBUG"
  | .trace => "TRACE"

/-- The place of a level in the order; more detail comes later. -/
def Level.rank : Level → Nat
  | .error => 1
  | .warn => 2
  | .info => 3
  | .debug => 4
  | .trace => 5

inductive FieldValue where
  | number (n : Nat)
  | text (s : String)
  deriving DecidableEq, Repr

def FieldValue.shown : FieldValue → String
  | .number n => String.ofList (Text.decimal n)
  | .text s => s

structure Event where
  level : Level
  target : String
  message : String
  fields : List (String × FieldValue)
  deriving DecidableEq, Repr

/-- The character with an escape if it would steer a terminal. -/
def visibleChar (c : Char) : List Char :=
  let n := c.toNat
  if n = 0x07 || n = 0x08 || n = 0x0c || n = 0x1b || n = 0x7f then
    ['\\', 'x', Nat.digitChar (n / 16), Nat.digitChar (n % 16)]
  else if 0x80 ≤ n && n ≤ 0x9f then ['\\', 'u', '{'] ++ Text.hex n ++ ['}']
  else [c]

def Event.visibleMessage (e : Event) : String :=
  String.ofList (e.message.toList.flatMap visibleChar)

/-- An event on a line, without the time of day. -/
def Event.line (e : Event) : String :=
  e.level.name ++ " " ++ e.target ++ ": " ++ e.visibleMessage ++
    String.join (e.fields.map fun (name, value) => " " ++ name ++ "=" ++ value.shown) ++ "\n"

end Multipath.Log
