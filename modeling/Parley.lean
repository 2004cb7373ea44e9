import Parley.Attempt
import Parley.Base64
import Parley.Draws
import Parley.Http.Bodies
import Parley.Http.MediaType
import Parley.Http.Reply
import Parley.Http.Request
import Parley.Http.Route
import Parley.Http.Service
import Parley.Http.Target
import Parley.Json.Form
import Parley.Json.Kind
import Parley.Json.Scan
import Parley.Json.Shortest
import Parley.Json.Skip
import Parley.Json.Value
import Parley.Page
import Parley.Pair
import Parley.Password.Blowfish
import Parley.Password.Digest
import Parley.Password.Hash
import Parley.Password.PiBits
import Parley.Proofs.Attempt
import Parley.Proofs.Base64
import Parley.Proofs.Except
import Parley.Proofs.Http.Alone
import Parley.Proofs.Http.Answers
import Parley.Proofs.Http.Effect
import Parley.Proofs.Http.Handlers
import Parley.Proofs.Http.History
import Parley.Proofs.Http.Inbox
import Parley.Proofs.Http.Isolation
import Parley.Proofs.Http.Redaction
import Parley.Proofs.Http.Reflects
import Parley.Proofs.Http.Refusals
import Parley.Proofs.Http.Search
import Parley.Proofs.Http.Service
import Parley.Proofs.Json.Text
import Parley.Proofs.Page
import Parley.Proofs.Pair
import Parley.Proofs.Password
import Parley.Proofs.Run.Accounts
import Parley.Proofs.Run.Acknowledged
import Parley.Proofs.Run.Atomic
import Parley.Proofs.Run.Beside
import Parley.Proofs.Run.Direct
import Parley.Proofs.Run.Faults
import Parley.Proofs.Run.Forward
import Parley.Proofs.Run.Gate
import Parley.Proofs.Run.Grants
import Parley.Proofs.Run.Held
import Parley.Proofs.Run.Inbox
import Parley.Proofs.Run.Listings
import Parley.Proofs.Run.Lookup
import Parley.Proofs.Run.MessageOrder
import Parley.Proofs.Run.Outcomes
import Parley.Proofs.Run.Own
import Parley.Proofs.Run.Quiet
import Parley.Proofs.Run.Requests
import Parley.Proofs.Run.Resend
import Parley.Proofs.Run.Retry
import Parley.Proofs.Run.Serial
import Parley.Proofs.Run.Sessions
import Parley.Proofs.Run.Step
import Parley.Proofs.Run.Traffic
import Parley.Proofs.Run.Unread
import Parley.Proofs.Run.Views
import Parley.Proofs.Settings
import Parley.Proofs.Store.Alone
import Parley.Proofs.Store.Change
import Parley.Proofs.Store.Direct
import Parley.Proofs.Store.Forward
import Parley.Proofs.Store.Growth
import Parley.Proofs.Store.Held
import Parley.Proofs.Store.Inbox
import Parley.Proofs.Store.Integrity
import Parley.Proofs.Store.Isolation
import Parley.Proofs.Store.Listing
import Parley.Proofs.Store.Members
import Parley.Proofs.Store.MessageOrder
import Parley.Proofs.Store.Opening
import Parley.Proofs.Store.Operation
import Parley.Proofs.Store.Past
import Parley.Proofs.Store.Reach
import Parley.Proofs.Store.Redaction
import Parley.Proofs.Store.Refusals
import Parley.Proofs.Store.Search
import Parley.Proofs.Store.Sending
import Parley.Proofs.Store.Serial
import Parley.Proofs.Store.Transaction
import Parley.Proofs.Store.Unread
import Parley.Proofs.Store.Work
import Parley.Proofs.Text.Ascii
import Parley.Proofs.Text.Numeral
import Parley.Proofs.Text.Order
import Parley.Proofs.Text.Pattern
import Parley.Proofs.Time.Calendar
import Parley.Proofs.Time.Digits
import Parley.Proofs.Time.Order
import Parley.Proofs.Time.Text
import Parley.Settings.Basic
import Parley.Settings.EnvFile
import Parley.Store.Change
import Parley.Store.Database
import Parley.Store.Error
import Parley.Store.Operation
import Parley.Store.Query
import Parley.Store.Statement
import Parley.Store.Tables
import Parley.System
import Parley.Text.Alphanumeric
import Parley.Text.Blank
import Parley.Text.GraphemeExtend
import Parley.Text.Numeral
import Parley.Text.Pattern
import Parley.Text.Quoted
import Parley.Text.Unprintable
import Parley.Time.Date
import Parley.Time.Instant
import Parley.Time.Stamp
import Parley.Proofs.Store.Chronology
import Parley.Proofs.Store.Times
import Parley.Proofs.Run.Content
