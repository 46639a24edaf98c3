import CardQuery.Mapping.Basic
import CardQuery.Repair.Edit

/-!
# Rendering mappings

A mapping is written as its conditions one after another, or between brackets
with `OR` between them.  A value is quoted if it is empty or holds a character
that means something in a query.
-/

namespace CardQuery

inductive RenderError where
  | noValue (operator : Text)
  | noMapping
deriving DecidableEq, Repr

def RenderError.message : RenderError → Text
  | noValue operator => "mapping for '" ++ operator ++ "' has no value"
  | noMapping => "no searchable concepts to render"

namespace Mapping

/-- Whether the character means something in a query. -/
def isSpecial (character : Char) : Bool :=
  Text.isBlank character || "()\"':<>=!".toList.contains character

/-- The value as it stands in a condition. -/
def quote (value : Text) : Text :=
  if value.isEmpty || value.any isSpecial then Edit.phrase value else value

/-- One condition of the mapping. -/
def renderTerm (mapping : Mapping) (term : Option Comparison × Text) : Text :=
  (if mapping.negated then ['-'] else []) ++ mapping.operator ++
    Comparison.separator term.1 ++ quote term.2

def render (mapping : Mapping) : Except RenderError Text :=
  if mapping.value.isEmpty then .error (.noValue mapping.operator)
  else
    let terms := mapping.terms.map mapping.renderTerm
    .ok (if mapping.joiner = some .or then "(" ++ Text.join " OR " terms ++ ")"
      else Text.join " " terms)

def query (mappings : List Mapping) : Except RenderError Text := do
  let rendered ← mappings.mapM render
  if rendered.isEmpty then .error .noMapping else return Text.join " " rendered

end Mapping

end CardQuery
