import RecordFilter.Filter
import RecordFilter.Loading
import RecordFilter.Proofs.Configuration
import RecordFilter.Proofs.Declaration
import RecordFilter.Proofs.Delimiters
import RecordFilter.Proofs.Description
import RecordFilter.Proofs.Folding
import RecordFilter.Proofs.Grammar
import RecordFilter.Proofs.Joining
import RecordFilter.Proofs.Locality
import RecordFilter.Proofs.Moments
import RecordFilter.Proofs.Naming
import RecordFilter.Proofs.Narrowing
import RecordFilter.Proofs.Negation
import RecordFilter.Proofs.Numerals
import RecordFilter.Proofs.QueryString
import RecordFilter.Proofs.Quotation
import RecordFilter.Proofs.Relaxation
import RecordFilter.Proofs.Rendering
import RecordFilter.Proofs.Repetition
import RecordFilter.Proofs.Representation
import RecordFilter.Proofs.Respelling
import RecordFilter.Proofs.Substrings
import RecordFilter.Slot.Inspection
