import Listing.Text.Blank
import Listing.Text.Segments
import Listing.Text.Utf8
import Listing.Text.Hex
import Listing.Keyed
import Listing.Decimal.Notation
import Listing.Decimal.Reader
import Listing.Json.Printer
import Listing.Json.Reader
import Listing.FormEncoding
import Listing.Sql.Statement
import Listing.FieldSet
import Listing.Request
import Listing.Constraint
import Listing.Sort
import Listing.Http.Endpoint
import Listing.Inspect
import Listing.OpenApi
import Listing.Proofs.Criteria
import Listing.Proofs.Sql.Truth
import Listing.Proofs.Conjunction
import Listing.Proofs.Sql.Placeholders
import Listing.Proofs.Bindings
import Listing.Proofs.Decimal
import Listing.Proofs.Json.Spelling
import Listing.Proofs.Encodings
import Listing.Proofs.Verdict
import Listing.Proofs.FieldSet
import Listing.Proofs.Sort
import Listing.Proofs.Confinement
import Listing.Proofs.Request
import Listing.Proofs.RoundTrip
import Listing.Proofs.Json.Lists
import Listing.Proofs.Description
import Listing.Proofs.ListedValues
import Listing.Proofs.SignedSort
import Listing.Proofs.Composition
import Listing.Proofs.Http.Endpoint
import Listing.Proofs.Independence
import Listing.Proofs.BlankFilter
import Listing.Proofs.Registry
import Listing.Proofs.Builder
import Listing.Proofs.ComputedDomain
import Listing.Proofs.JsonFilter
import Listing.Proofs.DefaultOrder
import Listing.Proofs.Coercion
import Listing.Proofs.Narrowing
import Listing.Proofs.Complement
import Listing.Proofs.Declaration
import Listing.Proofs.CriteriaHistory
import Listing.Proofs.SortHistory
import Listing.Proofs.Repetition
