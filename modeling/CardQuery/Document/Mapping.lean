import CardQuery.Document.Concept
import CardQuery.Mapping.Basic

/-!
# Documents of mappings

How mappings are written as documents and read from them.  A mapping has a
joiner exactly if it has parts, and comparisons of its own either for every part
or for none.
-/

namespace CardQuery.Mapping

open Reader

/-- The fields of the mapping but for the concept that it stands for. -/
def documentFields (mapping : Mapping) : List (Text × Document) :=
  [("operator", .text mapping.operator), ("value", .text mapping.value),
   ("comparison",
      .optional (fun comparison => .text comparison.symbol) mapping.comparison),
   ("confidence", .number mapping.confidence),
   ("source", .text mapping.source.name), ("negated", .truth mapping.negated),
   ("parts", .texts mapping.parts),
   ("joiner", .optional (fun joiner => .text joiner.name) mapping.joiner),
   ("comparisons", .texts (mapping.comparisons.map Comparison.symbol))]

/-- The document of the mapping as it stands in reports, without its concept. -/
def document (mapping : Mapping) : Document := .record mapping.documentFields

def documentWithConcept (mapping : Mapping) : Document :=
  let concept := Document.optional Concept.document mapping.sourceConcept
  .record (mapping.documentFields ++ [("source_concept".toList, concept)])

/-- Whether parts go with a joiner, and comparisons of parts with parts. -/
def isAligned (mapping : Mapping) : Bool :=
  mapping.joiner.isSome == !mapping.parts.isEmpty &&
    (mapping.comparisons.isEmpty ||
      mapping.comparisons.length == mapping.parts.length)

def fieldNames : List Text :=
  ["operator", "value", "comparison", "confidence", "source", "source_concept",
   "negated", "parts", "joiner", "comparisons"]

def read : Reader Mapping :=
  satisfying isAligned <| record fieldNames fun document =>
    (Checked.ofFunction Mapping.mk)
      |>.apply (required document "operator" text)
      |>.apply (required document "value" text)
      |>.apply (field document "comparison" none
        (nullable (worded Comparison.ofConceptSymbol?)))
      |>.apply (required document "confidence" (between (.finite 0) none))
      |>.apply (required document "source" (named ConceptKind.ofName?))
      |>.apply (field document "source_concept" none (nullable Concept.read))
      |>.apply (field document "negated" false truth)
      |>.apply (field document "parts" [] (row text))
      |>.apply (field document "joiner" none (nullable (worded Joiner.ofName?)))
      |>.apply (field document "comparisons" []
        (row (worded Comparison.ofConceptSymbol?)))

end CardQuery.Mapping
