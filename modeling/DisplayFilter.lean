import DisplayFilter.Main
import DisplayFilter.Pattern.Cache
import DisplayFilter.Proofs.EndPieces
import DisplayFilter.Proofs.Number.Bases
import DisplayFilter.Proofs.Tree.Derivation
import DisplayFilter.Proofs.Tree.Shape
import DisplayFilter.Proofs.Number.Digits
import DisplayFilter.Proofs.Slice.WrittenForm
import DisplayFilter.Proofs.Number.Rounding
import DisplayFilter.Proofs.Number.WrittenForm
import DisplayFilter.Proofs.Literal.Entries
import DisplayFilter.Proofs.Address.WrittenForm
import DisplayFilter.Proofs.Literal.WrittenForm
import DisplayFilter.Proofs.Tree.Names
import DisplayFilter.Proofs.Tree.WrittenForm
import DisplayFilter.Proofs.Tree.Quoting
import DisplayFilter.Proofs.Locality
import DisplayFilter.Proofs.Tree.Parts
import DisplayFilter.Proofs.Tree.Keywords
import DisplayFilter.Proofs.Tree.Locality
import DisplayFilter.Proofs.Tree.Composition
import DisplayFilter.Proofs.Filter.Selection
import DisplayFilter.Proofs.Filter.Algebra
import DisplayFilter.Proofs.Filter.Polling
import DisplayFilter.Proofs.Tree.Restriction
import DisplayFilter.Proofs.Tree.SameEnd
import DisplayFilter.Proofs.Tree.Margins
import DisplayFilter.Proofs.Address.Ipv4Text
import DisplayFilter.Proofs.Number.Separation
import DisplayFilter.Proofs.Text.Decoding
import DisplayFilter.Proofs.Value.NumberText
import DisplayFilter.Proofs.Address.Ipv6Spelling
import DisplayFilter.Proofs.Address.Ipv6Text
import DisplayFilter.Proofs.Value.PrefixedNumbers
import DisplayFilter.Proofs.Value.ReadBack
import DisplayFilter.Proofs.Comparison.Consultation
import DisplayFilter.Proofs.Comparison.Complement
import DisplayFilter.Proofs.Slice.Equality
import DisplayFilter.Proofs.Slice.AddressPrefix
import DisplayFilter.Proofs.Slice.Slicers
import DisplayFilter.Proofs.Comparison.Broadcast
import DisplayFilter.Proofs.Record.Paths
import DisplayFilter.Proofs.Record.Kinds
import DisplayFilter.Proofs.Record.Columns
import DisplayFilter.Comparison.Memory
import DisplayFilter.Proofs.Pattern.Cache
import DisplayFilter.Proofs.Shell.Memory
import DisplayFilter.Proofs.Shell.Session
import DisplayFilter.Proofs.Tree.Folding
import DisplayFilter.Proofs.Tree.Precedence
import DisplayFilter.Proofs.Tree.Stages
import DisplayFilter.Proofs.Address.Coverage
import DisplayFilter.Proofs.Literal.NumberAddresses
import DisplayFilter.Proofs.Address.Specifiers
import DisplayFilter.Proofs.Literal.AddressLists
import DisplayFilter.Proofs.Text.Pieces
import DisplayFilter.Proofs.Slice.Sequence
import DisplayFilter.Proofs.Slice.Chunks
import DisplayFilter.Proofs.Slice.Arithmetic
import DisplayFilter.Proofs.Address.Mask
import DisplayFilter.Proofs.Address.Block
import DisplayFilter.Proofs.Comparison.Addresses
import DisplayFilter.Proofs.Number.Integers
import DisplayFilter.Proofs.Comparison.Integers
import DisplayFilter.Proofs.Calendar.Characters
import DisplayFilter.Proofs.Value.DateText
import DisplayFilter.Proofs.Comparison.Ordering
import DisplayFilter.Proofs.Text.Utf8
import DisplayFilter.Proofs.Text.Escapes
import DisplayFilter.Proofs.Comparison.Spelling
import DisplayFilter.Proofs.Comparison.Membership
import DisplayFilter.Proofs.Value.Entries
import DisplayFilter.Proofs.Record.Presence
import DisplayFilter.Proofs.Record.Fields
import DisplayFilter.Proofs.Slice.MacPrefix
import DisplayFilter.Proofs.Cursor.Boundaries
import DisplayFilter.Proofs.Cursor.Scan
import DisplayFilter.Proofs.Cursor.Lexeme
import DisplayFilter.Proofs.Cursor.Places
import DisplayFilter.Proofs.Cursor.Ranges
import DisplayFilter.Proofs.Cursor.Slices
import DisplayFilter.Proofs.Cursor.Literals
import DisplayFilter.Proofs.Cursor.Grammar
import DisplayFilter.Proofs.Cursor.Parsing
import DisplayFilter.Proofs.Tree.Faults
import DisplayFilter.Proofs.Tree.UnknownFields
