import RowSieve.Calendar.Day
import RowSieve.Calendar.Instant
import RowSieve.Calendar.Reading
import RowSieve.Calendar.Storage
import RowSieve.CommandLine.Arguments
import RowSieve.CommandLine.Help
import RowSieve.CommandLine.Likeness
import RowSieve.CommandLine.Opt
import RowSieve.CommandLine.Problem
import RowSieve.CommandLine.Reader
import RowSieve.CommandLine.Terminal
import RowSieve.Digest.Sha256
import RowSieve.Files.Path
import RowSieve.Files.Tree
import RowSieve.Filter.Catalog
import RowSieve.Filter.Compiled
import RowSieve.Filter.Error
import RowSieve.Filter.Field
import RowSieve.Filter.Intake
import RowSieve.Filter.Operand
import RowSieve.Filter.Operator
import RowSieve.Filter.Param
import RowSieve.Filter.Path
import RowSieve.Filter.Predicate
import RowSieve.Filter.Request
import RowSieve.Filter.Step
import RowSieve.Filter.Target
import RowSieve.Http.Error
import RowSieve.Http.ListParams
import RowSieve.Http.Order
import RowSieve.Http.Origin
import RowSieve.Http.Paging
import RowSieve.Http.QueryString
import RowSieve.Http.Router
import RowSieve.Invoice.Search
import RowSieve.Json.Cursor
import RowSieve.Json.Printer
import RowSieve.Json.Problem
import RowSieve.Json.Reader
import RowSieve.Json.Scan
import RowSieve.Json.Value
import RowSieve.Main
import RowSieve.Number.Binary64
import RowSieve.Number.Decimal
import RowSieve.Number.Digits
import RowSieve.Number.Integer
import RowSieve.Number.Shortest
import RowSieve.Proofs.Calendar.DayCount
import RowSieve.Proofs.Calendar.Forms
import RowSieve.Proofs.Calendar.Order
import RowSieve.Proofs.Calendar.Reading
import RowSieve.Proofs.Files.Path
import RowSieve.Proofs.Filter.Absence
import RowSieve.Proofs.Filter.Acceptance
import RowSieve.Proofs.Filter.Brackets
import RowSieve.Proofs.Filter.Catalog
import RowSieve.Proofs.Filter.Chronology
import RowSieve.Proofs.Filter.Compiled
import RowSieve.Proofs.Filter.Dates
import RowSieve.Proofs.Filter.Encoding
import RowSieve.Proofs.Filter.Limits
import RowSieve.Proofs.Filter.Meaning
import RowSieve.Proofs.Filter.Merging
import RowSieve.Proofs.Filter.Negation
import RowSieve.Proofs.Filter.Outline
import RowSieve.Proofs.Filter.ParamName
import RowSieve.Proofs.Filter.Path
import RowSieve.Proofs.Filter.Published
import RowSieve.Proofs.Filter.Quantifier
import RowSieve.Proofs.Filter.Refusal
import RowSieve.Proofs.Filter.Registration
import RowSieve.Proofs.Filter.Slots
import RowSieve.Proofs.Filter.Steps
import RowSieve.Proofs.Filter.Substance
import RowSieve.Proofs.Filter.Wire
import RowSieve.Proofs.Http.Answers
import RowSieve.Proofs.Http.Paging
import RowSieve.Proofs.Http.Shown
import RowSieve.Proofs.Http.Unpaid
import RowSieve.Proofs.Invoice.Binding
import RowSieve.Proofs.Invoice.Intersection
import RowSieve.Proofs.Invoice.Outline
import RowSieve.Proofs.Invoice.Search
import RowSieve.Proofs.Json.Reads
import RowSieve.Proofs.Number.Digits
import RowSieve.Proofs.Number.Literal
import RowSieve.Proofs.Number.Padded
import RowSieve.Proofs.Number.Rounding
import RowSieve.Proofs.Number.Shortest
import RowSieve.Proofs.Service.Settings
import RowSieve.Proofs.Sql.Chain
import RowSieve.Proofs.Sql.Clause
import RowSieve.Proofs.Sql.Collected
import RowSieve.Proofs.Sql.DayOf
import RowSieve.Proofs.Sql.Draft
import RowSieve.Proofs.Sql.Formula
import RowSieve.Proofs.Sql.Ident
import RowSieve.Proofs.Sql.Like
import RowSieve.Proofs.Sql.Order
import RowSieve.Proofs.Sql.Outline
import RowSieve.Proofs.Sql.Places
import RowSieve.Proofs.Sql.Reading
import RowSieve.Proofs.Sql.Replacement
import RowSieve.Proofs.Sql.Resolution
import RowSieve.Proofs.Sql.Run
import RowSieve.Proofs.Sql.Scopes
import RowSieve.Proofs.Sql.Spelling
import RowSieve.Proofs.Sql.Truth
import RowSieve.Proofs.Sql.Vacuity
import RowSieve.Proofs.Store.Calls
import RowSieve.Proofs.Store.Inserts
import RowSieve.Proofs.Store.Listing
import RowSieve.Proofs.Store.Migration
import RowSieve.Proofs.Store.Seed
import RowSieve.Proofs.Store.Token
import RowSieve.Proofs.Text.Cutting
import RowSieve.Service.Address
import RowSieve.Service.Banner
import RowSieve.Service.Consulted
import RowSieve.Service.EnvironmentFile
import RowSieve.Service.Program
import RowSieve.Service.Settings
import RowSieve.Service.SettingsFile
import RowSieve.Service.Shutdown
import RowSieve.Service.Startup
import RowSieve.Service.Storage
import RowSieve.Sql.Cell
import RowSieve.Sql.Condition
import RowSieve.Sql.DayOf
import RowSieve.Sql.Eval
import RowSieve.Sql.Joins
import RowSieve.Sql.Like
import RowSieve.Sql.Limits
import RowSieve.Sql.Query
import RowSieve.Sql.Truth
import RowSieve.Store.Adoption
import RowSieve.Store.Call
import RowSieve.Store.Error
import RowSieve.Store.Handle
import RowSieve.Store.Image.Admission
import RowSieve.Store.Image.Affinity
import RowSieve.Store.Image.Bytes
import RowSieve.Store.Image.Columns
import RowSieve.Store.Image.Definition
import RowSieve.Store.Image.Expression
import RowSieve.Store.Image.Header
import RowSieve.Store.Image.Inventory
import RowSieve.Store.Image.Pages
import RowSieve.Store.Image.Reading
import RowSieve.Store.Image.Record
import RowSieve.Store.Image.TableDraft
import RowSieve.Store.Image.Token
import RowSieve.Store.Insert
import RowSieve.Store.Listing
import RowSieve.Store.Migration
import RowSieve.Store.Schema
import RowSieve.Store.Seed
import RowSieve.Store.Tables
import RowSieve.Text.Alphanumeric
import RowSieve.Text.Pieces
import RowSieve.Text.Printable
import RowSieve.Text.Utf8
