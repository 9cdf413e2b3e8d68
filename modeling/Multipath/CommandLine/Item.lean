/-! The words of a command line, sorted into options, their values, and arguments that are
known by their place. Options and arguments mix. A value follows its option, behind an
equals sign or as the next word, and short options may share one dash. A word that begins
with a dash is never a value by itself; behind a bare double dash no word is an option. -/
namespace Multipath.CommandLine

inductive UsageError where
  | unknownArgument
  /-- An option is given twice. -/
  | argumentConflict
  /-- A value is missing, is empty, or is none of those to choose from. -/
  | invalidValue
  /-- A value is no number of the right size. -/
  | valueValidation
  /-- An option without a value is given one. -/
  | tooManyValues
  | missingRequiredArgument
  | displayHelp
  | displayVersion
  deriving DecidableEq, Repr

/-- Options with a value. -/
inductive Parameter where
  | config | mode | launcher | binary | output | targets | topology | dropCode | json
  deriving DecidableEq, Repr

/-- Options without a value. -/
inductive Switch where
  | quiet | verbose | help | version
  deriving DecidableEq, Repr

inductive Named where
  | parameter (p : Parameter)
  | switch (s : Switch)
  deriving DecidableEq, Repr

/-- The arguments that are known by their place. -/
inductive Place where
  | bounds | destination | repetitions
  deriving DecidableEq, Repr

def Place.all : List Place := [.bounds, .destination, .repetitions]

def Named.ofLong? : String → Option Named
  | "config" => some (.parameter .config)
  | "mode" => some (.parameter .mode)
  | "launcher" => some (.parameter .launcher)
  | "binary" => some (.parameter .binary)
  | "output" => some (.parameter .output)
  | "targets" => some (.parameter .targets)
  | "topology" => some (.parameter .topology)
  | "dropped-exit-code" => some (.parameter .dropCode)
  | "json" => some (.parameter .json)
  | "quiet" => some (.switch .quiet)
  | "verbose" => some (.switch .verbose)
  | "help" => some (.switch .help)
  | "version" => some (.switch .version)
  | _ => none

def Named.ofShort? : Char → Option Named
  | 'c' => some (.parameter .config)
  | 'o' => some (.parameter .output)
  | 't' => some (.parameter .topology)
  | 'q' => some (.switch .quiet)
  | 'v' => some (.switch .verbose)
  | 'h' => some (.switch .help)
  | 'V' => some (.switch .version)
  | _ => none

inductive Item where
  | switch (s : Switch)
  /-- An option with its value in the same word. -/
  | attached (p : Parameter) (value : String)
  /-- An option with its value in the next word, if there is one. -/
  | separate (p : Parameter) (value : Option String)
  | positional (place : Place) (value : String)
  /-- A word that means nothing. -/
  | refused (error : UsageError)
  deriving DecidableEq, Repr

namespace Item

/-- The word behind two dashes: what it says, and the option that waits for a value. -/
def ofLong (body : List Char) : List Item × Option Parameter :=
  let name := String.ofList (body.takeWhile (· ≠ '='))
  match Named.ofLong? name, body.dropWhile (· ≠ '=') with
  | none, _ => ([.refused .unknownArgument], none)
  | some (.switch s), [] => ([.switch s], none)
  | some (.switch _), _ :: _ => ([.refused .tooManyValues], none)
  | some (.parameter p), [] => ([], some p)
  | some (.parameter p), _ :: value => ([.attached p (String.ofList value)], none)

/-- The letters behind one dash: what they say, and the option that waits for a value. What
follows a letter that takes a value is the value. -/
def ofShort : List Char → List Item × Option Parameter
  | [] => ([], none)
  | letter :: rest =>
    match Named.ofShort? letter with
    | none => ([.refused .unknownArgument], none)
    | some (.switch s) =>
      let (items, waiting) := ofShort rest
      (.switch s :: items, waiting)
    | some (.parameter p) =>
      match rest with
      | [] => ([], some p)
      | '=' :: value => ([.attached p (String.ofList value)], none)
      | value => ([.attached p (String.ofList value)], none)

/-- What a word says that begins with a dash. A dash alone is no such word. -/
def ofDashed? : List Char → Option (List Item × Option Parameter)
  | '-' :: '-' :: body => some (ofLong body)
  | '-' :: letter :: letters => some (ofShort (letter :: letters))
  | _ => none

/-- An argument at the first of the places that are left. -/
def ofWord (word : String) : List Place → Item
  | [] => .refused .unknownArgument
  | place :: _ => .positional place word

/-- Words of which none is an option. -/
def ofWords : List Place → List String → List Item
  | _, [] => []
  | places, word :: words => ofWord word places :: ofWords (places.drop 1) words

def unanswered : Option Parameter → List Item
  | none => []
  | some p => [.separate p none]

/-- What the words of a command line say, with an option that may wait for a value, and
with some places left. -/
def ofCommandLine : Option Parameter → List Place → List String → List Item
  | waiting, _, [] => unanswered waiting
  | waiting, places, word :: words =>
    match ofDashed? word.toList, waiting with
    | none, some p => .separate p (some word) :: ofCommandLine none places words
    | none, none => ofWord word places :: ofCommandLine none (places.drop 1) words
    | some (items, next), waiting =>
      if word = "--" then unanswered waiting ++ ofWords places words
      else unanswered waiting ++ items ++ ofCommandLine next places words

/-- An item that is complete only when the next word is seen. What the next word says
about itself comes before what is wrong with such an item. -/
def isOpen : Item → Bool
  | .separate _ _ | .positional _ _ => true
  | _ => false

end Item
end Multipath.CommandLine
