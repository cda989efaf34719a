import DeclGen.Log.Directive
import DeclGen.Text.Split

/-!
# Filters

A filter says which events are shown. It is written as a list of directives between commas. Of the
directives that are about an event, the most telling one decides. What is no directive has no
effect, but is remarked upon.
-/

namespace DeclGen.Log

/-- Which events are shown. -/
structure Filter where
  directives : List Directive := []
  /-- What is said about the parts that are no directives. -/
  remarks : List String := []

namespace Filter

/-- What is said about a part that is no directive. -/
def remark (part : String) (fault : Directive.Fault) : String :=
  "ignoring `" ++ part ++ "`: " ++ fault.message

/-- Adds a part of a text to a filter. -/
def addPart (f : Filter) (part : String) : Filter :=
  match Directive.ofText part with
  | .ok d => { f with directives := f.directives ++ d.toList }
  | .error fault => { f with remarks := f.remarks ++ [remark part fault] }

/-- The filter that a text writes. Empty parts do not count. -/
def ofText (text : String) : Filter :=
  let parts := (Text.split ',' text.toList).filter (· ≠ [])
  parts.foldl (fun f part => f.addPart (String.ofList part)) {}

/-- The directive that decides about an event. -/
def decisive? (f : Filter) (e : Event) : Option Directive :=
  match f.directives.filter (·.covers e) with
  | [] => none
  | d :: rest => some (rest.foldl Directive.closer d)

/-- Whether an event is shown. -/
def shows (f : Filter) (e : Event) : Bool :=
  (f.decisive? e).any fun d => e.level.rank ≤ d.rank

/-- The environment variables that can hold a filter. The first that is set counts, also if it is
empty. -/
def variableNames : List String := ["TYPEBRIDGE_LOG", "RUST_LOG"]

/-- The filter that the values of the variables ask for. It shows nothing if no variable is
set. -/
def ofValues (values : List (Option String)) : Filter :=
  match values.findSome? id with
  | some text => ofText text
  | none => {}

/-- The lines of the events that are shown. -/
def lines (f : Filter) (events : List Event) : List String :=
  (events.filter f.shows).map Event.line

/-- The further lines of the events that are shown. -/
def furtherLines (f : Filter) (events : List Event) : List String :=
  (events.filter f.shows).flatMap Event.furtherLines

end Filter

end DeclGen.Log
