import Multipath.Log.Directive

/-! Log filters: which events are shown. A filter is a list of rules, and for each event
the most special rule that fits it decides. Filters come from directives with commas
between them, taken from the environment or, failing that, built for a level. -/
namespace Multipath.Log

/-- Events that a rule is about, and the least important of them that are shown. -/
structure Rule where
  target : Option (List Char)
  /-- The name of a field that the events have. -/
  field : Option (List Char)
  threshold : Threshold
  deriving DecidableEq, Repr

/-- A directive about a span, or about the value of a field, says nothing of events that
are outside of all spans. -/
def Directive.rule? (d : Directive) : Option Rule :=
  match d.span, d.field with
  | some _, _ => none
  | none, some field => if field.contains '=' then none else some ⟨d.target, d.field, d.threshold⟩
  | none, none => some ⟨d.target, none, d.threshold⟩

def Event.fieldNames (e : Event) : List (List Char) :=
  "message".toList :: e.fields.map (·.1.toList)

namespace Rule

def fits (r : Rule) (e : Event) : Bool :=
  r.target.all (·.isPrefixOf e.target.toList) && r.field.all e.fieldNames.contains

def reach (r : Rule) : Nat := (r.target.map List.length).getD 0

def isSurpassedBy (r other : Rule) : Bool :=
  r.reach < other.reach ||
    (r.reach == other.reach &&
      match r.field, other.field with
      | none, _ => true
      | some _, none => false
      | some field, some otherField => !decide (otherField < field))

end Rule

structure Filter where
  rules : List Rule
  deriving DecidableEq, Repr

namespace Filter

/-- The rule for an event. Of rules that say equally much the last one counts. -/
def rule? (f : Filter) (e : Event) : Option Rule :=
  (f.rules.filter (·.fits e)).foldl (fun best r =>
    match best with
    | none => some r
    | some best => if best.isSurpassedBy r then some r else some best) none

def shows (f : Filter) (e : Event) : Bool :=
  (f.rule? e).any fun r => e.level.isShownAt r.threshold

/-- Without any directive only errors are shown. -/
def ofDirectives (directives : List Directive) : Filter :=
  if directives.isEmpty then ⟨[⟨none, none, some .error⟩]⟩ else ⟨directives.filterMap (·.rule?)⟩

def pieces (text : String) : List (List Char) :=
  (text.toList.splitOn ',').filter fun piece => !piece.isEmpty

def parse? (text : String) : Option Filter :=
  match (pieces text).mapM Directive.parse with
  | .ok directives => some (ofDirectives directives)
  | .error _ => none

def complaint? (piece : List Char) : Option String :=
  match Directive.parse piece with
  | .ok _ => none
  | .error error => some ("ignoring `" ++ String.ofList piece ++ "`: " ++ error.message)

/-- The filter that a text describes, without the directives that are wrong. -/
def parseLenient (text : String) : Filter :=
  ofDirectives ((pieces text).filterMap fun piece => (Directive.parse piece).toOption)

/-- The text of the filter for a level: it holds for this program and its parts, and for
all else there are warnings only. -/
def textFor (level : String) : String :=
  "warn,pt_harness=" ++ level ++ ",failure_test=" ++ level

/-- The filter in force, and complaints about it. The text from the environment counts if
there is one and nothing is wrong with it. -/
def choose (environment : Option String) (level : String) : List String × Filter :=
  match environment.bind parse? with
  | some filter => ([], filter)
  | none => ((pieces (textFor level)).filterMap complaint?, parseLenient (textFor level))

end Filter
end Multipath.Log
