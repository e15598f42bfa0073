import Registrar.Catalog
import Registrar.Console.Control
import Registrar.Console.Fields
import Registrar.Console.Files
import Registrar.Console.Loading
import Registrar.Console.Logs
import Registrar.Console.Migrations
import Registrar.Console.Names
import Registrar.Console.Refusal
import Registrar.Console.Rows
import Registrar.Console.Session
import Registrar.Console.Startup
import Registrar.Console.Steps
import Registrar.Context
import Registrar.DateWindow
import Registrar.Email
import Registrar.Email.Address
import Registrar.Error
import Registrar.Event
import Registrar.Guardianship
import Registrar.Identity
import Registrar.Idna
import Registrar.Idna.Composition
import Registrar.Idna.Label
import Registrar.Idna.Mapping
import Registrar.Idna.Punycode
import Registrar.Idna.Ranges
import Registrar.Idna.Table.Class
import Registrar.Idna.Table.Composition
import Registrar.Idna.Table.Mapping
import Registrar.Json
import Registrar.Json.Form
import Registrar.Json.Parser
import Registrar.Json.Printer
import Registrar.Log.Config
import Registrar.Log.Filter
import Registrar.Log.Record
import Registrar.Number.Binary64
import Registrar.Number.Reading
import Registrar.Number.Shortest
import Registrar.Paging
import Registrar.Phone
import Registrar.Profile
import Registrar.Program
import Registrar.Record.Column
import Registrar.Record.Reading
import Registrar.Record.Writing
import Registrar.Relations
import Registrar.Role
import Registrar.Rules
import Registrar.Scope
import Registrar.Service.Catalog
import Registrar.Service.Guardians
import Registrar.Service.Identity
import Registrar.Service.Lookup
import Registrar.Service.Profiles
import Registrar.Service.Unit
import Registrar.Settings
import Registrar.Settings.Coercion
import Registrar.Settings.Environment
import Registrar.Settings.Error
import Registrar.Settings.Files
import Registrar.Settings.Json
import Registrar.Settings.Loader
import Registrar.Settings.Path
import Registrar.Settings.Value
import Registrar.Settings.Variables
import Registrar.Startup
import Registrar.Store.Database
import Registrar.Store.Memory
import Registrar.Store.Migration
import Registrar.Store.Order
import Registrar.Store.Policy
import Registrar.Store.Request
import Registrar.Store.Schema
import Registrar.Store.Serving
import Registrar.Store.Stores
import Registrar.Store.Tables
import Registrar.Text.Blank
import Registrar.Text.Bytes
import Registrar.Text.Digits
import Registrar.Text.Fold
import Registrar.Text.Hex
import Registrar.Text.Lowercase
import Registrar.Text.Pieces
import Registrar.Timestamp
import Registrar.Toml.Document
import Registrar.Toml.Parser
import Registrar.Toml.Quoted
import Registrar.Toml.Scalar
import Registrar.Uuid
import Registrar.Violation.ConstraintName
import Registrar.Violation.Decode
import Registrar.Violation.Message
import Registrar.Vocabulary
import Registrar.World
import Registrar.Proofs.Answering
import Registrar.Proofs.Course
import Registrar.Proofs.Reading
import Registrar.Proofs.UnitOfWork
import Registrar.Proofs.AllOrNothing
import Registrar.Proofs.Reachable
import Registrar.Proofs.History
import Registrar.Proofs.RoleGrounding
import Registrar.Proofs.Serializability
import Registrar.Proofs.Contention
import Registrar.Proofs.ReferentialIntegrity
import Registrar.Proofs.Uniqueness
import Registrar.Proofs.Hydration
import Registrar.Proofs.ReadBack
import Registrar.Proofs.RequestDeadline
import Registrar.Proofs.SchoolBounds
import Registrar.Proofs.Listing
import Registrar.Proofs.SharedListing
import Registrar.Proofs.Conversation
import Registrar.Proofs.UnitDiscipline
import Registrar.Proofs.Completeness
import Registrar.Proofs.Rows
import Registrar.Proofs.Ending
import Registrar.Proofs.Creating
import Registrar.Proofs.Commuting
import Registrar.Proofs.Documents
import Registrar.Proofs.Merging
import Registrar.Proofs.Precedence
import Registrar.Proofs.Confidentiality
import Registrar.Proofs.FetchBound
import Registrar.Proofs.SelfWaiting
import Registrar.Proofs.ValidRows
import Registrar.Proofs.Phrases
import Registrar.Proofs.Decoding
import Registrar.Proofs.DuplicateValues
import Registrar.Proofs.ClosingFailure
import Registrar.Proofs.Identifiers
import Registrar.Proofs.ProfileInsertion
import Registrar.Proofs.ErrorKinds
import Registrar.Proofs.RoleConflicts
import Registrar.Proofs.ReferenceEntities
import Registrar.Proofs.UniqueNames
import Registrar.Proofs.StableListing
import Registrar.Proofs.DayWindows
import Registrar.Proofs.Outcomes
import Registrar.Proofs.TextVariables
import Registrar.Proofs.Locality
import Registrar.Proofs.Insertions
import Registrar.Proofs.RowOrder
import Registrar.Proofs.UnitHomes
import Registrar.Proofs.Spelling
import Registrar.Proofs.LogSettings
import Registrar.Proofs.Vocabularies
