import Blocklist.Codebook.Basic
import Blocklist.Codebook.Books
import Blocklist.Codebook.Table.Csp
import Blocklist.Codebook.Table.Pattern
import Blocklist.Codebook.Table.Raw
import Blocklist.Codebook.Table.Selector
import Blocklist.Engine.Basic
import Blocklist.Engine.Compile
import Blocklist.Engine.Decide
import Blocklist.Engine.Page
import Blocklist.Engine.Shelf
import Blocklist.Filter.Cosmetic
import Blocklist.Filter.Glob
import Blocklist.Filter.Mask
import Blocklist.Filter.Match
import Blocklist.Filter.Network
import Blocklist.Filter.Render
import Blocklist.Hash.Crc32
import Blocklist.Hash.FilterId
import Blocklist.Hash.Murmur
import Blocklist.Host.Address
import Blocklist.Host.Domain
import Blocklist.Host.List
import Blocklist.Host.Normal
import Blocklist.Idna.Data
import Blocklist.Idna.Label
import Blocklist.Idna.Mapping
import Blocklist.Idna.Name
import Blocklist.Idna.Punycode
import Blocklist.Index.Ascending
import Blocklist.Index.Basic
import Blocklist.LittleEndian
import Blocklist.Log.Json
import Blocklist.Log.Record
import Blocklist.Outside
import Blocklist.Proofs.Access
import Blocklist.Proofs.Checks
import Blocklist.Proofs.Codebook.Greedy
import Blocklist.Proofs.Codebook.Pieces
import Blocklist.Proofs.Codebook.RoundTrip
import Blocklist.Proofs.Engine.Alternatives
import Blocklist.Proofs.Engine.Compiled
import Blocklist.Proofs.Engine.Filing
import Blocklist.Proofs.Engine.LongRequest
import Blocklist.Proofs.Engine.Order
import Blocklist.Proofs.Engine.Page
import Blocklist.Proofs.Engine.Policy
import Blocklist.Proofs.Engine.Reach
import Blocklist.Proofs.Engine.Scan
import Blocklist.Proofs.Engine.Shelf
import Blocklist.Proofs.Filter.Brackets
import Blocklist.Proofs.Filter.Classes
import Blocklist.Proofs.Filter.Glob
import Blocklist.Proofs.Filter.Id
import Blocklist.Proofs.Filter.Labels
import Blocklist.Proofs.Filter.Language
import Blocklist.Proofs.Filter.Mask
import Blocklist.Proofs.Filter.Sliced
import Blocklist.Proofs.Filter.Tokens
import Blocklist.Proofs.Hash.BitByBit
import Blocklist.Proofs.Hash.Crc32
import Blocklist.Proofs.Hash.FilterId
import Blocklist.Proofs.Host.Address
import Blocklist.Proofs.Host.Covering
import Blocklist.Proofs.Host.Normal
import Blocklist.Proofs.Host.Registrable
import Blocklist.Proofs.Host.Specific
import Blocklist.Proofs.Idna.Name
import Blocklist.Proofs.Idna.Punycode
import Blocklist.Proofs.Index.Candidates
import Blocklist.Proofs.Index.Lookup
import Blocklist.Proofs.Index.Rarity
import Blocklist.Proofs.Positions
import Blocklist.Proofs.Request.Types
import Blocklist.Proofs.Rule.Ascii
import Blocklist.Proofs.Rule.Badfilter
import Blocklist.Proofs.Rule.Cosmetic
import Blocklist.Proofs.Rule.CosmeticForm
import Blocklist.Proofs.Rule.Entries
import Blocklist.Proofs.Rule.HostCase
import Blocklist.Proofs.Rule.Hosts
import Blocklist.Proofs.Rule.Lines
import Blocklist.Proofs.Rule.OptionOrder
import Blocklist.Proofs.Rule.OptionPart
import Blocklist.Proofs.Rule.Options
import Blocklist.Proofs.Rule.Reading
import Blocklist.Proofs.Rule.Sliced
import Blocklist.Proofs.Rule.Tidied
import Blocklist.Proofs.Rule.Tidy
import Blocklist.Proofs.Rule.WellFormed
import Blocklist.Proofs.Rule.WrittenHosts
import Blocklist.Proofs.Snapshot.Access
import Blocklist.Proofs.Snapshot.Anywhere
import Blocklist.Proofs.Snapshot.Assemble
import Blocklist.Proofs.Snapshot.Bounds
import Blocklist.Proofs.Snapshot.Damage
import Blocklist.Proofs.Snapshot.Indexed
import Blocklist.Proofs.Snapshot.Layout
import Blocklist.Proofs.Snapshot.Load
import Blocklist.Proofs.Snapshot.Reads
import Blocklist.Proofs.Snapshot.Rearranged
import Blocklist.Proofs.Snapshot.Record
import Blocklist.Proofs.Snapshot.RoundTrip
import Blocklist.Proofs.Snapshot.Varint
import Blocklist.Proofs.Snapshot.Written
import Blocklist.Proofs.Snapshot.Yields
import Blocklist.Proofs.Text.Cut
import Blocklist.Proofs.Text.Lower
import Blocklist.Proofs.Text.Slice
import Blocklist.Proofs.Text.Utf8
import Blocklist.Proofs.Token.Run
import Blocklist.Proofs.Token.Span
import Blocklist.Proofs.Unicode.NormalForm
import Blocklist.Proofs.Url
import Blocklist.Proofs.Url.Sliced
import Blocklist.Proofs.Url.Written
import Blocklist.Regex.CaseFold
import Blocklist.Regex.CodeSet
import Blocklist.Regex.Meaning
import Blocklist.Regex.Program
import Blocklist.Regex.Property
import Blocklist.Regex.Reader
import Blocklist.Regex.Syntax
import Blocklist.Request.Basic
import Blocklist.Request.Type
import Blocklist.Rule.Cosmetic
import Blocklist.Rule.Error
import Blocklist.Rule.List
import Blocklist.Rule.Network
import Blocklist.Rule.Options
import Blocklist.Rule.Tidy
import Blocklist.Snapshot.Cursor
import Blocklist.Snapshot.Error
import Blocklist.Snapshot.Layout
import Blocklist.Snapshot.Load
import Blocklist.Snapshot.Record
import Blocklist.Snapshot.Section
import Blocklist.Snapshot.Varint
import Blocklist.Snapshot.Write
import Blocklist.Text.Cut
import Blocklist.Text.Hexadecimal
import Blocklist.Text.Utf8
import Blocklist.Token.Buffer
import Blocklist.Token.Run
import Blocklist.Unicode.Category
import Blocklist.Unicode.Composition
import Blocklist.Unicode.Data.Categories
import Blocklist.Unicode.Data.Composition
import Blocklist.Unicode.Data.Direction
import Blocklist.Unicode.Data.Folding
import Blocklist.Unicode.Data.Joining
import Blocklist.Unicode.Data.Properties
import Blocklist.Unicode.Data.Scripts
import Blocklist.Unicode.Table
import Blocklist.Url
