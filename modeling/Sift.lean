import Sift.Api
import Sift.Pool
import Sift.Taxonomy.Load
import Sift.Boundary.Almanac
import Sift.Boundary.Target
import Sift.Boundary.Written
import Sift.Proofs.OrderedMap
import Sift.Proofs.Shorthand.Grammar
import Sift.Proofs.Taxonomy.WellFormed
import Sift.Proofs.Selection.Lookup
import Sift.Proofs.Shorthand.Accumulator
import Sift.Proofs.Shorthand.Recorded
import Sift.Proofs.Shorthand.Compression
import Sift.Proofs.Shorthand.RoundTrip
import Sift.Proofs.Sql.Lexing
import Sift.Proofs.Sql.Safety
import Sift.Proofs.Predicate.Rendering
import Sift.Proofs.Predicate.Category
import Sift.Proofs.Listing.Statement
import Sift.Proofs.Predicate.Matching
import Sift.Proofs.Predicate.Codes
import Sift.Proofs.Paging
import Sift.Proofs.Negation
import Sift.Proofs.Predicate.Decoded
import Sift.Proofs.Picker.Link
import Sift.Proofs.Shorthand.Survivors
import Sift.Proofs.Filter.Understood
import Sift.Proofs.Shorthand.Legible
import Sift.Proofs.Shorthand.Shape
import Sift.Proofs.Compilation
import Sift.Proofs.Listing.Names
import Sift.Proofs.Selection.Order
import Sift.Proofs.Shorthand.Stable
import Sift.Proofs.Shorthand.Heads
import Sift.Proofs.Filter.Storage
import Sift.Proofs.Filter.Admission
import Sift.Proofs.Sql.Nesting
import Sift.Proofs.Predicate.Reading
import Sift.Proofs.Shorthand.Settled
import Sift.Proofs.Shorthand.Negated
import Sift.Proofs.Predicate.Clauses
import Sift.Proofs.Picker.Leaves
import Sift.Proofs.Picker.Keys
import Sift.Proofs.Predicate.Removed
import Sift.Proofs.Sql.Qualifiers
import Sift.Proofs.Predicate.Qualifiers
import Sift.Proofs.Filter.Qualifiers
import Sift.Proofs.Sql.Numbers
import Sift.Proofs.Listing.Scope
import Sift.Proofs.Shorthand.Meaning
import Sift.Proofs.Shorthand.Abbreviation
import Sift.Proofs.Shorthand.Canonical
import Sift.Proofs.Filter.Reload
import Sift.Proofs.Filter.Reordered
import Sift.Proofs.Predicate.Nulls
import Sift.Proofs.Selection.Data
import Sift.Proofs.Service
import Sift.Proofs.Sql.Literals
import Sift.Proofs.Filter.Literals
import Sift.Proofs.Sql.Terms
import Sift.Proofs.Time.Calendar
import Sift.Proofs.Time.Expression
import Sift.Proofs.Time.Epoch
import Sift.Proofs.Taxonomy.Loading
import Sift.Proofs.Time.Span
import Sift.Proofs.Time.Distance
import Sift.Proofs.Taxonomy.Addressable
