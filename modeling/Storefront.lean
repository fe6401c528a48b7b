import Storefront.Account.Basic
import Storefront.Account.Gender
import Storefront.Account.Service
import Storefront.Account.Store
import Storefront.Database.Cell
import Storefront.Database.Failure
import Storefront.Database.Field
import Storefront.Database.Server
import Storefront.Database.Statement
import Storefront.Database.Table
import Storefront.Execution.Environment
import Storefront.Execution.Machine
import Storefront.Execution.Run
import Storefront.Http.App
import Storefront.Http.Cors
import Storefront.Http.ErrorAnswer
import Storefront.Http.Extract
import Storefront.Http.Form
import Storefront.Http.Handler
import Storefront.Http.MediaType
import Storefront.Http.Message
import Storefront.Http.Percent
import Storefront.Http.Route
import Storefront.Item.Basic
import Storefront.Item.Service
import Storefront.Item.Store
import Storefront.Json.Decode
import Storefront.Json.Literal
import Storefront.Json.Numeral
import Storefront.Json.Outline
import Storefront.Json.Value
import Storefront.Number.Binary64
import Storefront.Number.Power
import Storefront.Number.Shortest
import Storefront.Order.Basic
import Storefront.Order.Service
import Storefront.Order.Store
import Storefront.Paging.Direction
import Storefront.Paging.Page
import Storefront.Paging.PageJson
import Storefront.Paging.PageQuery
import Storefront.Paging.SortOrder
import Storefront.Proofs.Account.Beside
import Storefront.Proofs.Account.Emails
import Storefront.Proofs.Account.Lengths
import Storefront.Proofs.Account.Records
import Storefront.Proofs.Account.Registry
import Storefront.Proofs.Account.Wishes
import Storefront.Proofs.Account.Written
import Storefront.Proofs.Database.Addition
import Storefront.Proofs.Database.Carried
import Storefront.Proofs.Database.Check
import Storefront.Proofs.Database.Comparison
import Storefront.Proofs.Database.Placeholders
import Storefront.Proofs.Database.Sound
import Storefront.Proofs.Http.Browsing
import Storefront.Proofs.Http.Bulk
import Storefront.Proofs.Http.Deadlines
import Storefront.Proofs.Http.Discretion
import Storefront.Proofs.Http.Frame
import Storefront.Proofs.Http.Identifiers
import Storefront.Proofs.Http.Listings
import Storefront.Proofs.Http.Orders
import Storefront.Proofs.Http.Origins
import Storefront.Proofs.Http.Pages
import Storefront.Proofs.Http.Refusals
import Storefront.Proofs.Http.Spellings
import Storefront.Proofs.Http.Tasks
import Storefront.Proofs.Item.Reading
import Storefront.Proofs.Json.Agreement
import Storefront.Proofs.Json.Written
import Storefront.Proofs.Order.Asking
import Storefront.Proofs.Order.Atomicity
import Storefront.Proofs.Order.Batch
import Storefront.Proofs.Order.Complete
import Storefront.Proofs.Order.Creation
import Storefront.Proofs.Order.Decoding
import Storefront.Proofs.Order.Making
import Storefront.Proofs.Order.Reading
import Storefront.Proofs.Order.Replay
import Storefront.Proofs.Order.Wishes
import Storefront.Proofs.Order.Written
import Storefront.Proofs.Paging.Arrangement
import Storefront.Proofs.Paging.Clause
import Storefront.Proofs.Paging.Grammar
import Storefront.Proofs.Paging.RoundTrip
import Storefront.Proofs.Paging.Windows
import Storefront.Proofs.Program.Adds
import Storefront.Proofs.Program.Alone
import Storefront.Proofs.Program.Capacity
import Storefront.Proofs.Program.Conduct
import Storefront.Proofs.Program.Confined
import Storefront.Proofs.Program.Endings
import Storefront.Proofs.Program.Failures
import Storefront.Proofs.Program.Keeps
import Storefront.Proofs.Program.Limits
import Storefront.Proofs.Program.Overdue
import Storefront.Proofs.Program.Progress
import Storefront.Proofs.Program.Results
import Storefront.Proofs.Program.Schedule
import Storefront.Proofs.Program.Sends
import Storefront.Proofs.Program.Single
import Storefront.Proofs.Program.Solo
import Storefront.Proofs.Program.Steps
import Storefront.Proofs.Program.System
import Storefront.Proofs.Program.Together
import Storefront.Proofs.Program.Traces
import Storefront.Proofs.Program.Transactions
import Storefront.Proofs.Program.Turns
import Storefront.Proofs.Program.View
import Storefront.Proofs.Settings.Address
import Storefront.Proofs.Store.Acceptance
import Storefront.Proofs.Store.Adding
import Storefront.Proofs.Store.Batches
import Storefront.Proofs.Store.Calls
import Storefront.Proofs.Store.Closing
import Storefront.Proofs.Store.Conduct
import Storefront.Proofs.Store.Created
import Storefront.Proofs.Store.Entities
import Storefront.Proofs.Store.Holding
import Storefront.Proofs.Store.Lines
import Storefront.Proofs.Store.Pages
import Storefront.Proofs.Store.Progress
import Storefront.Proofs.Store.Reading
import Storefront.Proofs.Store.Serial
import Storefront.Proofs.Store.Snapshot
import Storefront.Proofs.Store.Soundness
import Storefront.Proofs.Store.Turnless
import Storefront.Proofs.Store.Unheard
import Storefront.Proofs.Store.Writes
import Storefront.Proofs.Text.Case
import Storefront.Proofs.Text.Layout
import Storefront.Proofs.Time.Reading
import Storefront.Proofs.Uuid.Spelling
import Storefront.Rejection
import Storefront.Service.Error
import Storefront.Settings.Database
import Storefront.Settings.Server
import Storefront.Settings.Variables
import Storefront.Store.Action
import Storefront.Store.Error
import Storefront.Store.Health
import Storefront.Store.Program
import Storefront.Text.Decimal
import Storefront.Text.Hexadecimal
import Storefront.Text.Integer
import Storefront.Text.Quoted
import Storefront.Text.Space
import Storefront.Text.Unprintable
import Storefront.Text.Utf8
import Storefront.Time.Date
import Storefront.Time.DateReader
import Storefront.Time.Duration
import Storefront.Time.Timestamp
import Storefront.Uuid.Basic
import Storefront.Uuid.Reader
