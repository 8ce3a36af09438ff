import RouteBinding.Sorted
import RouteBinding.Table
import RouteBinding.Text.Blank
import RouteBinding.Text.Case
import RouteBinding.Text.Duration
import RouteBinding.Text.Integer
import RouteBinding.Text.Lowercase
import RouteBinding.Text.Quoted
import RouteBinding.Property.Key
import RouteBinding.Property.Map
import RouteBinding.Filter.Parser
import RouteBinding.Filter.Printer
import RouteBinding.Filter.Matching
import RouteBinding.Provider.Group
import RouteBinding.ActiveGroup
import RouteBinding.Conflict.Name
import RouteBinding.Conflict.Path
import RouteBinding.Failure.Snapshot
import RouteBinding.Registry
import RouteBinding.Requirement
import RouteBinding.Settings
import RouteBinding.Route.Served
import RouteBinding.Host.Recording
import RouteBinding.Pass.Assignment
import RouteBinding.Pass.Report
import RouteBinding.Dispatcher.Closing
import RouteBinding.Dispatcher.Event
import RouteBinding.Error
import RouteBinding.Provider.Declare
import RouteBinding.Proofs.Conflict.Claim
import RouteBinding.Proofs.Requirement.Settled
import RouteBinding.Proofs.Pass.Roster
import RouteBinding.Proofs.Pass.Accounting
import RouteBinding.Proofs.Registry.Sound
import RouteBinding.Proofs.Site.Call
import RouteBinding.Proofs.Run.Action
import RouteBinding.Proofs.Run.Move
import RouteBinding.Proofs.Run.Agreement
import RouteBinding.Proofs.Site.Ask
import RouteBinding.Proofs.Site.Trail
import RouteBinding.Proofs.Run.Division
import RouteBinding.Proofs.Run.Chronicle
import RouteBinding.Proofs.Pass.Unrevised
import RouteBinding.Proofs.Run.Archive
import RouteBinding.Proofs.Site.Resolve
import RouteBinding.Proofs.Run.Progress
import RouteBinding.Proofs.Run.Independence
import RouteBinding.Proofs.Run.Asked
import RouteBinding.Proofs.Run.Justified
import RouteBinding.Proofs.Run.Renewal
import RouteBinding.Proofs.Run.Repeat
import RouteBinding.Proofs.Pass.Naming
import RouteBinding.Proofs.Run.Placement
import RouteBinding.Proofs.Run.Notes
import RouteBinding.Proofs.Run.Request
import RouteBinding.Proofs.Run.Coalesce
import RouteBinding.Proofs.Conflict.Path
import RouteBinding.Proofs.Pass.Default
import RouteBinding.Proofs.Run.Heeded
import RouteBinding.Proofs.Run.Farewell
import RouteBinding.Proofs.Site.Apart
import RouteBinding.Proofs.Run.Overlap
import RouteBinding.Proofs.Registry.Entry
import RouteBinding.Proofs.Registry.Ledger
import RouteBinding.Proofs.Property.Number
import RouteBinding.Proofs.Registry.Identity
import RouteBinding.Proofs.Pass.Exclusion
import RouteBinding.Proofs.Site.Turn
import RouteBinding.Proofs.Run.Confined
import RouteBinding.Proofs.Filter.Grammar
import RouteBinding.Proofs.Filter.Parts
import RouteBinding.Proofs.Filter.Reading
import RouteBinding.Proofs.Filter.RoundTrip
import RouteBinding.Proofs.Run.Inert
import RouteBinding.Proofs.Run.Counting
import RouteBinding.Proofs.Requirement.Greatest
import RouteBinding.Proofs.Pass.Needs
import RouteBinding.Proofs.Conflict.Award
import RouteBinding.Proofs.Conflict.Name
import RouteBinding.Proofs.Filter.Bound
import RouteBinding.Proofs.Filter.Wildcard
import RouteBinding.Proofs.Provider.Declaration
import RouteBinding.Proofs.Pass.Reason
import RouteBinding.Proofs.Property.Changes
import RouteBinding.Proofs.Filter.Respelling
import RouteBinding.Proofs.Host.Prefix
import RouteBinding.Proofs.Registry.Effect
import RouteBinding.Proofs.Registry.Freshness
import RouteBinding.Proofs.Registry.Handover
import RouteBinding.Proofs.Component.Loan
import RouteBinding.Proofs.Run.Borrowing
import RouteBinding.Proofs.Run.Attempt
import RouteBinding.Proofs.Site.Tally
import RouteBinding.Proofs.Run.Balance
import RouteBinding.Proofs.Provider.Path
