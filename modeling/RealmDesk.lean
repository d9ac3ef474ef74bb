import RealmDesk.Answer.Envelope
import RealmDesk.Answer.Error
import RealmDesk.Answer.Normalized
import RealmDesk.App
import RealmDesk.Authority
import RealmDesk.Block.Kind
import RealmDesk.Block.Values
import RealmDesk.Client
import RealmDesk.Config
import RealmDesk.Desk
import RealmDesk.Domain.Direction
import RealmDesk.Domain.Joining
import RealmDesk.Domain.Mapping
import RealmDesk.Domain.MappingTable
import RealmDesk.Domain.Name
import RealmDesk.Domain.Punycode
import RealmDesk.Editing.Editor
import RealmDesk.Json.Basic
import RealmDesk.Json.Double
import RealmDesk.Json.Printer
import RealmDesk.Json.Reader
import RealmDesk.Json.Scan
import RealmDesk.Json.Tagged
import RealmDesk.Listing
import RealmDesk.Logout
import RealmDesk.Operation
import RealmDesk.Place
import RealmDesk.Proofs.Answer.Closure
import RealmDesk.Proofs.Answer.Coverage
import RealmDesk.Proofs.Answer.Entities
import RealmDesk.Proofs.Answer.Merging
import RealmDesk.Proofs.Answer.Nesting
import RealmDesk.Proofs.Answer.Reached
import RealmDesk.Proofs.Desk.Answers
import RealmDesk.Proofs.Desk.BlockList
import RealmDesk.Proofs.Desk.Cancellation
import RealmDesk.Proofs.Desk.Handling
import RealmDesk.Proofs.Desk.Insertion
import RealmDesk.Proofs.Desk.Links
import RealmDesk.Proofs.Desk.PendingIds
import RealmDesk.Proofs.Desk.Refusals
import RealmDesk.Proofs.Desk.Retention
import RealmDesk.Proofs.Desk.Solitary
import RealmDesk.Proofs.Desk.Tended
import RealmDesk.Proofs.Desk.Tickets
import RealmDesk.Proofs.Desk.Turns
import RealmDesk.Proofs.Desk.Unsaved
import RealmDesk.Proofs.Desk.Verdicts
import RealmDesk.Proofs.Dialogue.Arrivals
import RealmDesk.Proofs.Dialogue.Basic
import RealmDesk.Proofs.Dialogue.Order
import RealmDesk.Proofs.Dialogue.Page
import RealmDesk.Proofs.Dialogue.Sound
import RealmDesk.Proofs.Editing.Forms
import RealmDesk.Proofs.Editing.Reopening
import RealmDesk.Proofs.Editing.Values
import RealmDesk.Proofs.Editing.Writes
import RealmDesk.Proofs.Realm.Admission
import RealmDesk.Proofs.Record.Slots
import RealmDesk.Proofs.Record.Zeros
import RealmDesk.Proofs.Saving.Adoption
import RealmDesk.Proofs.Saving.Commutation
import RealmDesk.Proofs.Saving.Confirmation
import RealmDesk.Proofs.Saving.Echo
import RealmDesk.Proofs.Saving.Reconciliation
import RealmDesk.Proofs.Saving.Requests
import RealmDesk.Proofs.Saving.Sending
import RealmDesk.Proofs.Store.Audience
import RealmDesk.Proofs.Store.Changes
import RealmDesk.Proofs.Store.Command
import RealmDesk.Proofs.Store.Eviction
import RealmDesk.Proofs.Store.Garbage
import RealmDesk.Proofs.Store.Landing
import RealmDesk.Proofs.Store.Overlay
import RealmDesk.Proofs.Store.Pending
import RealmDesk.Proofs.Store.Plain
import RealmDesk.Proofs.Store.Precedence
import RealmDesk.Proofs.Store.Telling
import RealmDesk.Proofs.Store.Update
import RealmDesk.Proofs.Store.View
import RealmDesk.Proofs.Text.Percent
import RealmDesk.Proofs.Url.Canonical
import RealmDesk.Proofs.Url.RoundTrip
import RealmDesk.Proofs.Visit.Disposal
import RealmDesk.Proofs.Visit.History
import RealmDesk.Proofs.Visit.Records
import RealmDesk.Proofs.Visit.Verdicts
import RealmDesk.Realm.NewChild
import RealmDesk.Realm.View
import RealmDesk.Record.Basic
import RealmDesk.Record.Id
import RealmDesk.Saving.ChildRealm
import RealmDesk.Saving.Dispatcher
import RealmDesk.Screen.Content
import RealmDesk.Screen.Frame
import RealmDesk.Screen.Markup
import RealmDesk.Screen.Notice
import RealmDesk.Screen.Realm
import RealmDesk.Screen.VideoTable
import RealmDesk.Store.Basic
import RealmDesk.Store.Cache
import RealmDesk.Store.Commit
import RealmDesk.Store.Draft
import RealmDesk.Store.Error
import RealmDesk.Store.Reach
import RealmDesk.Store.Script
import RealmDesk.Text.Blank
import RealmDesk.Text.Canonical.Form
import RealmDesk.Text.Canonical.Table
import RealmDesk.Text.Cut
import RealmDesk.Text.Numeral
import RealmDesk.Text.Percent
import RealmDesk.Text.Printable
import RealmDesk.Text.Table
import RealmDesk.Url
import RealmDesk.Visit.Navigator
import RealmDesk.Visit.Verdict
import RealmDesk.Wire.Block
import RealmDesk.Wire.Place
import RealmDesk.Wire.Reading
import RealmDesk.Wire.Record
