import SchemaBridge.Log.Directive

/-!
This module contains the filters that select which notices go to the log. A filter is a list of
directives separated by commas; of the directives that apply to a notice the most specific one
decides.
-/

namespace SchemaBridge

namespace Log

namespace Directive

/--
Directives about spans, or about the values themselves, let no notice through.
-/
def isStatic (d : Directive) : Bool :=
  d.span.isNone && d.fields.all (! ·.hasValue)

def appliesTo (d : Directive) (n : Notice) : Bool :=
  d.target.all (n.source.startsWith ·) &&
    d.fields.all fun test => test.name == "message" || (n.values.map Prod.fst).contains test.name

/--
Whether `d` is preferred to `e`: for a longer target, or more tests of values, or, with those equal,
for the names tested; of equal directives the later one, which is `d`.
-/
def preferredTo (d e : Directive) : Bool :=
  let length (d : Directive) := match d.target with
    | none => 0
    | some target => target.utf8ByteSize + 1
  let names (d : Directive) : List String := d.fields.map (·.name)
  if length d ≠ length e then
    length e < length d
  else if d.fields.length ≠ e.fields.length then
    e.fields.length < d.fields.length
  else
    !decide (names d < names e)

end Directive

abbrev Filter := List Directive

namespace Filter

/--
Read a filter. An empty one lets errors through.
-/
def ofString (text : String) : Except FilterError Filter := do
  let parts := (text.splitOn ",").filter (! ·.isEmpty)
  let directives ← parts.mapM Directive.ofString
  return if directives.isEmpty then [{ level := .error }] else directives

def enables (filter : Filter) (n : Notice) : Bool :=
  let applying := filter.filter fun d => d.isStatic && d.appliesTo n
  let best := applying.foldl
    (fun best d =>
      match best with
      | none => some d
      | some other => some (if d.preferredTo other then d else other))
    (none : Option Directive)
  match best with
  | none => false
  | some d => n.level.verbosity ≤ d.level.verbosity

end Filter

end Log

end SchemaBridge
