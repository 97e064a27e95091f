import AnchorIndex.Main
import AnchorIndex.Document.Given
import AnchorIndex.Proofs.Document.Folding
import AnchorIndex.Proofs.Document.Normal
import AnchorIndex.Proofs.Text.Numerals
import AnchorIndex.Proofs.Text.Splitting
import AnchorIndex.Proofs.Datum.Entries
import AnchorIndex.Proofs.Document.FieldLines
import AnchorIndex.Proofs.Document.RoundTrip
import AnchorIndex.Proofs.Store.Schemas
import AnchorIndex.Proofs.Files.Changing
import AnchorIndex.Proofs.Files.Folders
import AnchorIndex.Proofs.Store.Actions
import AnchorIndex.Proofs.Store.Folder
import AnchorIndex.Proofs.Store.Writing
import AnchorIndex.Proofs.Document.Reading
import AnchorIndex.Proofs.CallGraph.OrderedSet
import AnchorIndex.Proofs.Store.Conversion
import AnchorIndex.Proofs.Entity.Identity
import AnchorIndex.Proofs.Store.Assignment
import AnchorIndex.Proofs.Store.Stored
import AnchorIndex.Proofs.Store.Finding
import AnchorIndex.Proofs.Store.Records
import AnchorIndex.Proofs.Store.Runs
import AnchorIndex.Proofs.Store.Reopening
import AnchorIndex.Proofs.Store.Fresh
import AnchorIndex.Proofs.Store.Identities
import AnchorIndex.Proofs.Store.Upserting
import AnchorIndex.Proofs.Store.Replacing
import AnchorIndex.Proofs.Store.Keeping
import AnchorIndex.Proofs.Account.Decoding
import AnchorIndex.Proofs.Source.Headers
import AnchorIndex.Proofs.Source.Matching
import AnchorIndex.Proofs.Source.Nesting
import AnchorIndex.Proofs.Session.Enclosing
import AnchorIndex.Proofs.Source.Masking
import AnchorIndex.Proofs.Source.Hiding
import AnchorIndex.Proofs.Source.Fragments
import AnchorIndex.Proofs.Source.Bodies
import AnchorIndex.Proofs.Session.Actions
import AnchorIndex.Proofs.Store.Remembering
import AnchorIndex.Proofs.Session.Computing
import AnchorIndex.Proofs.Session.Scanning
import AnchorIndex.Proofs.Session.Searching
import AnchorIndex.Proofs.Session.Resolving
import AnchorIndex.Proofs.Session.Failing
import AnchorIndex.Proofs.Session.Stability
import AnchorIndex.Proofs.Session.Persisting
import AnchorIndex.Proofs.Session.Entrypoints
import AnchorIndex.Proofs.Session.Members
import AnchorIndex.Proofs.Store.Editing
import AnchorIndex.Proofs.Store.Merging
import AnchorIndex.Proofs.Store.Refusing
import AnchorIndex.Proofs.Account.Comments
import AnchorIndex.Proofs.Account.Fields
import AnchorIndex.Proofs.Account.Endings
import AnchorIndex.Proofs.Account.Cutting
import AnchorIndex.Proofs.Account.Orderly
import AnchorIndex.Proofs.Account.Layout
import AnchorIndex.Proofs.Account.Listing
import AnchorIndex.Proofs.Account.Crowded
import AnchorIndex.Proofs.Account.Opacity
import AnchorIndex.Proofs.Source.Characters
import AnchorIndex.Proofs.Source.Implementations
import AnchorIndex.Proofs.Source.Signatures
import AnchorIndex.Proofs.Source.Positions
import AnchorIndex.Proofs.Source.Joining
import AnchorIndex.Proofs.Session.Contexts
import AnchorIndex.Proofs.Files.Sources
import AnchorIndex.Proofs.Settings.Precedence
import AnchorIndex.Proofs.Settings.Reporting
import AnchorIndex.Proofs.Settings.ReadingBack
