import CardQuery.Document.Options
import CardQuery.Main
import CardQuery.Proofs.Build.Relaxation
import CardQuery.Proofs.Mapping.RoundTrip
import CardQuery.Proofs.Search.Lexing
import CardQuery.Proofs.Search.Partition
import CardQuery.Proofs.Search.OpenPhrase
import CardQuery.Proofs.Mapping.Flattening
import CardQuery.Proofs.Search.Counted
import CardQuery.Proofs.Repair.Removal
import CardQuery.Proofs.Repair.Narrowing
import CardQuery.Proofs.Repair.Closing
import CardQuery.Proofs.Repair.Deletion
import CardQuery.Proofs.Repair.Quoting
import CardQuery.Proofs.Repair.Rewording
import CardQuery.Proofs.Repair.Correcting
import CardQuery.Proofs.Mapping.Exclusion
import CardQuery.Proofs.Search.Unmatched
import CardQuery.Proofs.Build.WellFormed
import CardQuery.Proofs.Concept.PriceRange
import CardQuery.Proofs.Build.Placement
import CardQuery.Proofs.Mapping.Negation
import CardQuery.Proofs.Concept.ColorMerging
import CardQuery.Proofs.Concept.ColorSettling
import CardQuery.Proofs.Concept.Window
import CardQuery.Proofs.Operator.Rearrangement
import CardQuery.Proofs.Operator.NearSpelling
import CardQuery.Proofs.Operator.Corrected
import CardQuery.Proofs.Operator.Unspaced
import CardQuery.Proofs.Pointing
import CardQuery.Proofs.Operator.Naming
import CardQuery.Proofs.Search.Depth
import CardQuery.Proofs.Search.Joining
import CardQuery.Proofs.Concept.FormatCertainty
import CardQuery.Proofs.Concept.Normalized
