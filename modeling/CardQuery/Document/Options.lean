import CardQuery.Build.Options
import CardQuery.Document.Reader

/-!
# Documents of options

What a caller wants of a query, read from a document.  A missing field leaves
the usual choice.
-/

namespace CardQuery.BuildOptions

open Reader

def read : Reader BuildOptions :=
  record ["optimize_for", "format", "price_budget", "max_results"]
      fun document =>
    (Checked.ofFunction BuildOptions.mk)
      |>.apply (field document "optimize_for" standard.strategy
        (named Strategy.ofName?))
      |>.apply (field document "format" standard.format (nullable trimmed))
      |>.apply (field document "price_budget" standard.priceBudget
        (nullable (between (.finite 0) none)))
      |>.apply (field document "max_results" standard.maxResults (atLeast 1))

end CardQuery.BuildOptions
