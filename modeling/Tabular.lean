import Tabular.Program
import Tabular.Proofs.Expr.Substitution
import Tabular.Proofs.Expr.Identity
import Tabular.Proofs.Types.Declared
import Tabular.Proofs.Failures.Checks
import Tabular.Proofs.Requests.Nesting
import Tabular.Proofs.Requests.Input
import Tabular.Proofs.Rows.Elementwise
import Tabular.Proofs.Rows.Kernels
import Tabular.Proofs.Rows.Selection
import Tabular.Proofs.Rows.Tree
import Tabular.Proofs.Rows.Functions
import Tabular.Proofs.Rows.Locality
import Tabular.Proofs.Grouping.Groups
import Tabular.Proofs.Grouping.Results
import Tabular.Proofs.Grouping.Lookup
import Tabular.Proofs.Grouping.Evaluation
import Tabular.Proofs.Grouping.Agreement
import Tabular.Proofs.Grouping.Completeness
import Tabular.Proofs.Grouping.Independence
import Tabular.Proofs.Calendar.Zone
import Tabular.Proofs.Order.Comparison
import Tabular.Proofs.Order.Places
import Tabular.Proofs.Order.Sorted
import Tabular.Proofs.Order.Flags
import Tabular.Proofs.Order.Rounding
import Tabular.Proofs.Order.Conversion
import Tabular.Proofs.Order.Casts
import Tabular.Proofs.Order.Keys
import Tabular.Proofs.Grouping.Partition
import Tabular.Proofs.Rows.Reordering
import Tabular.Proofs.Order.Sorting
import Tabular.Proofs.Order.Rearrangement
import Tabular.Proofs.Rows.Gathering
import Tabular.Proofs.Rows.Filtering
import Tabular.Proofs.Grouping.Matching
import Tabular.Proofs.Grouping.Reordering
import Tabular.Proofs.Failures.Lengths
import Tabular.Proofs.Grouping.Constants
import Tabular.Proofs.Grouping.Schema
import Tabular.Proofs.Order.Extrema
import Tabular.Proofs.Rows.Sums
import Tabular.Proofs.Grouping.Totals
import Tabular.Proofs.Rows.Division
import Tabular.Proofs.Order.Operators
import Tabular.Proofs.Order.Integers
import Tabular.Proofs.Rows.Choice
import Tabular.Proofs.Rows.Nulls
import Tabular.Proofs.Types.Literals
import Tabular.Proofs.Rows.Filling
import Tabular.Proofs.Calendar.Dates
import Tabular.Proofs.Calendar.Reading
import Tabular.Proofs.Rows.Parsing
import Tabular.Proofs.Rows.Counts
import Tabular.Proofs.Text.Windows
import Tabular.Proofs.Text.Replacing
import Tabular.Proofs.Calendar.Subseconds
import Tabular.Proofs.Rows.Distinct
import Tabular.Proofs.Order.Unique
import Tabular.Proofs.Grouping.Lists
import Tabular.Proofs.Rows.Membership
import Tabular.Proofs.Rows.Connectives
import Tabular.Proofs.Rows.Horizontal
import Tabular.Proofs.Rows.Scans
import Tabular.Proofs.Order.Nans
import Tabular.Proofs.Expr.Rebuilding
import Tabular.Proofs.Printing.Expressions
