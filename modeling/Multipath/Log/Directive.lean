import Multipath.Log
import Multipath.Log.Pattern.Parser
import Multipath.Text.Utf8

/-! Directives of a log filter. A directive names a level, and may narrow it to the events
of a part of the program, to what happens inside a span, or to events with a field, of
which it may give the value. It is written as a level alone, or as
`part[span{field=value}]=level` with all but one of the pieces left out; without a level it
admits everything. -/
namespace Multipath.Log

/-- The least important level that is still shown; `none` shows nothing. -/
abbrev Threshold := Option Level

def Level.isShownAt (level : Level) : Threshold → Bool
  | none => false
  | some least => level.rank ≤ least.rank

/-- Letters of ASCII are read in either case. -/
def Threshold.ofName? (name : List Char) : Option Threshold :=
  match String.ofList (name.map Char.toLower) with
  | "off" => some none
  | "error" => some (some .error)
  | "warn" => some (some .warn)
  | "info" => some (some .info)
  | "debug" => some (some .debug)
  | "trace" => some (some .trace)
  | _ => none

def Threshold.ofRank? : Nat → Option Threshold
  | 0 => some none
  | 1 => some (some .error)
  | 2 => some (some .warn)
  | 3 => some (some .info)
  | 4 => some (some .debug)
  | 5 => some (some .trace)
  | _ => none

def Threshold.parse? (s : List Char) : Option Threshold :=
  let digits := match s with
    | '+' :: digits => digits
    | digits => digits
  ((Text.natural? digits).bind ofRank?).or (ofName? s)

structure Directive where
  /-- The first letters of the names of the parts of the program that it is about. -/
  target : Option (List Char)
  span : Option (List Char)
  field : Option (List Char)
  threshold : Threshold
  deriving DecidableEq, Repr

inductive DirectiveError where
  | malformed
  /-- The value of a field is neither a number nor a pattern. -/
  | badValue (fault : Pattern.Fault)
  | unknownLevel
  deriving DecidableEq, Repr

def DirectiveError.message : DirectiveError → String
  | .malformed => "invalid filter directive"
  | .badValue fault => "invalid field filter: " ++ fault.message
  | .unknownLevel =>
    "error parsing level filter: expected one of \"off\", \"error\", \"warn\", \"info\", " ++
      "\"debug\", \"trace\", or a number 0-5"

namespace Directive

def behind (s : List Char) (place : Nat) : Except DirectiveError (List Char) :=
  match Text.Utf8.splitAt? place s with
  | some (_, rest) => .ok rest
  | none => .error .malformed

def between (s : List Char) (start stop : Nat) : Except DirectiveError (List Char) := do
  match Text.Utf8.splitAt? (stop - start) (← behind s start) with
  | some (piece, _) => .ok piece
  | none => .error .malformed

def thresholdBehind (s : List Char) : Except DirectiveError Threshold :=
  match s, Threshold.parse? s with
  | [], _ => .ok (some .trace)
  | _, some threshold => .ok threshold
  | _, none => .error .unknownLevel

/-- A directive without brackets and equals sign: a level, or else a part of the program. -/
def ofBare (s : List Char) : Directive :=
  match Threshold.parse? s with
  | some threshold => ⟨none, none, none, threshold⟩
  | none => ⟨some s, none, none, some .trace⟩

/-- A character that a directive may begin with, if it begins with a part of the program. -/
def isTargetStart (c : Char) : Bool :=
  c = '-' || c = ':' || c = '_' || Text.isAlphanumeric c

/-- The level of a directive, in front of whose rest there is a number of bytes. -/
def closing (text : List Char) (place : Nat) : List Char → Except DirectiveError Threshold
  | [] => .ok (some .trace)
  | '=' :: _ => do thresholdBehind (← behind text (place + 1))
  | _ :: _ => .error .malformed

def nonempty (s : List Char) : Option (List Char) := if s.isEmpty then none else some s

/-- What is wrong with the value of a field. A number with a plus sign is no pattern, but
every other number is one. -/
def valueFault? : List Char → Option Pattern.Fault
  | '+' :: number => if Text.isReal number then none else Pattern.fault? ('+' :: number)
  | value => Pattern.fault? value

/-- A field between braces: a name, and a value behind the first equals sign. A second
equals sign ends the value. -/
def checkField (field : List Char) : Except DirectiveError (List Char) :=
  match field, (field.splitOn '=')[1]?.bind valueFault? with
  | [], _ => .error .malformed
  | _, some fault => .error (.badValue fault)
  | _, none => .ok field

/-- A directive with a bracket. Its rest stands behind the bracket, which has `start` bytes
in front of its end. -/
def ofBracketed (text : List Char) (target : Option (List Char)) (start : Nat)
    (rest : List Char) : Except DirectiveError Directive := do
  let spanName := rest.takeWhile fun c => c ≠ ']' && c ≠ '{'
  let stop := start + Text.Utf8.size spanName
  match rest.drop spanName.length with
  | ']' :: rest =>
    pure ⟨target, some (← between text start stop), none, ← closing text (stop + 1) rest⟩
  | '{' :: rest =>
    let span := nonempty (← between text start stop)
    let field := rest.takeWhile (· ≠ '}')
    let last := stop + 1 + Text.Utf8.size field
    let '}' :: rest := rest.drop field.length | .error .malformed
    let field ← checkField (← between text (stop + 1) last)
    let ']' :: rest := rest | .error .malformed
    pure ⟨target, span, some field, ← closing text (last + 2) rest⟩
  | _ => .error .malformed

/-- Read one directive. Places are bytes of the text without the blanks around it, and what
stands there is taken from the text with them. -/
def parse (text : List Char) : Except DirectiveError Directive := do
  let body := Text.trim text
  let target := body.takeWhile fun c => c ≠ '=' && c ≠ '['
  let place := Text.Utf8.size target
  match body, body.drop target.length with
  | [], _ => .error .malformed
  | '[' :: rest, _ => ofBracketed text none 1 rest
  | c :: _, rest =>
    if !isTargetStart c then .error .malformed
    else match rest with
      | [] => pure (ofBare text)
      | '[' :: rest => ofBracketed text (some (← between text 0 place)) (place + 1) rest
      | _ =>
        pure ⟨some (← between text 0 place), none, none,
          ← thresholdBehind (← behind text (place + 1))⟩

end Directive
end Multipath.Log
