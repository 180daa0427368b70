import GameArchive.Failure
import GameArchive.FileSystem.Atomic
import GameArchive.FileSystem.Basic
import GameArchive.FileSystem.Change
import GameArchive.FileSystem.Lookup
import GameArchive.FileSystem.Path
import GameArchive.Identifier
import GameArchive.Import.Path
import GameArchive.Import.Scan
import GameArchive.Import.Statement
import GameArchive.Json.Basic
import GameArchive.Json.Printer
import GameArchive.Json.Reader
import GameArchive.Json.Relaxed
import GameArchive.Listing.Basic
import GameArchive.Listing.Files
import GameArchive.Listing.Traversal
import GameArchive.Log.Directive
import GameArchive.Log.Journal
import GameArchive.Log.Message
import GameArchive.Log.Record
import GameArchive.Manifest.Attribute
import GameArchive.Manifest.Basic
import GameArchive.Manifest.Defaults
import GameArchive.Manifest.Store
import GameArchive.Mask
import GameArchive.Number.Binary64
import GameArchive.Number.Rounded
import GameArchive.Number.Shortest
import GameArchive.Package.Basic
import GameArchive.Package.Paths
import GameArchive.Package.Resources
import GameArchive.Package.Scripts
import GameArchive.Package.Translations
import GameArchive.Proofs.Mask
import GameArchive.Proofs.Text.Basic
import GameArchive.Proofs.Text.Breaks
import GameArchive.Script.Chunks
import GameArchive.Script.Grammar.Character
import GameArchive.Script.Grammar.Class
import GameArchive.Script.Grammar.Cursor
import GameArchive.Script.Grammar.Expression
import GameArchive.Script.Grammar.Fault
import GameArchive.Script.Grammar.Function
import GameArchive.Script.Grammar.Lexeme
import GameArchive.Script.Grammar.Literal
import GameArchive.Script.Grammar.Node
import GameArchive.Script.Grammar.Parser
import GameArchive.Script.Grammar.Pattern
import GameArchive.Script.Grammar.Program
import GameArchive.Script.Grammar.RegularExpression.Basic
import GameArchive.Script.Grammar.RegularExpression.Check
import GameArchive.Script.Grammar.Statement
import GameArchive.Script.Grammar.Token
import GameArchive.Script.Rule
import GameArchive.Script.Walk
import GameArchive.Session.Basic
import GameArchive.Session.Configuration
import GameArchive.Session.Logging
import GameArchive.Settings.Basic
import GameArchive.Settings.Validation
import GameArchive.Text.Basic
import GameArchive.Text.Category
import GameArchive.Text.CharacterName.Aliases
import GameArchive.Text.CharacterName.AncientScripts
import GameArchive.Text.CharacterName.Basic
import GameArchive.Text.CharacterName.Lookup
import GameArchive.Text.CharacterName.Pictures
import GameArchive.Text.CharacterName.Scripts
import GameArchive.Text.CharacterName.Syllabaries
import GameArchive.Text.CharacterName.Symbols
import GameArchive.Text.Class
import GameArchive.Text.Lines
import GameArchive.Text.Lowercase
import GameArchive.Text.Utf8
import GameArchive.Validation.Issue
import GameArchive.Value.Basic
import GameArchive.Value.Build
import GameArchive.Value.Copy
import GameArchive.Value.Exception
import GameArchive.Value.Json
import GameArchive.Value.Printer
import GameArchive.Value.Slots
import GameArchive.Value.Table
import GameArchive.Proofs.Import.Path
import GameArchive.Proofs.Text.Lines
import GameArchive.Proofs.Import.Grammar
import GameArchive.Proofs.Import.Scan
import GameArchive.Proofs.Script.Chunks
import GameArchive.Proofs.Script.Walk
import GameArchive.Proofs.Text.Utf8
import GameArchive.Proofs.FileSystem.Atomic
import GameArchive.Proofs.Package.Scripts
import GameArchive.Proofs.Import.Masked
import GameArchive.Proofs.Package.Runs
import GameArchive.Proofs.Text.Order
import GameArchive.Proofs.FileSystem.Resolve
import GameArchive.Proofs.FileSystem.Kind
import GameArchive.Proofs.FileSystem.Finish
import GameArchive.Proofs.FileSystem.Place
import GameArchive.Proofs.Session.Quiet
import GameArchive.Proofs.Listing.Yield
import GameArchive.Proofs.Listing.Traversal
import GameArchive.Proofs.Listing.Files
import GameArchive.Proofs.Listing.Visits
import GameArchive.Proofs.Json.Layout
import GameArchive.Proofs.Import.Leading
import GameArchive.Proofs.Package.Translations
import GameArchive.Proofs.Package.Modules
import GameArchive.Proofs.Package.Imports
import GameArchive.Proofs.Import.Twins
import GameArchive.Proofs.Script.Plain
import GameArchive.Proofs.Package.Loading
import GameArchive.Proofs.FileSystem.Making
import GameArchive.Proofs.Listing.Flat
import GameArchive.Proofs.Package.Shelf
import GameArchive.Proofs.Package.Dictionary
import GameArchive.Proofs.Mask.Image
import GameArchive.Proofs.Script.Nested
import GameArchive.Proofs.Package.Directories
import GameArchive.Proofs.FileSystem.Race
import GameArchive.Proofs.FileSystem.Whole
import GameArchive.Proofs.Package.Populating
import GameArchive.Proofs.Log.Record
import GameArchive.Proofs.Manifest.Layers
import GameArchive.Proofs.Import.Ascent
import GameArchive.Proofs.Script.Writes
import GameArchive.Proofs.Manifest.Assigned
