import ExecutionTrace.Export.Context
import ExecutionTrace.Export.State
import ExecutionTrace.Export.Violation
import ExecutionTrace.Machine.Script
import ExecutionTrace.Row.History
import ExecutionTrace.Proofs.Context.Preorder
import ExecutionTrace.Proofs.Context.Log
import ExecutionTrace.Proofs.Context.Stamps
import ExecutionTrace.Proofs.Context.Subtree
import ExecutionTrace.Proofs.Stateful
import ExecutionTrace.Proofs.Tracer.Attunement
import ExecutionTrace.Proofs.Call.Announcement
import ExecutionTrace.Proofs.Call.Reaction
import ExecutionTrace.Proofs.Launch.Announcement
import ExecutionTrace.Proofs.State.Transition
import ExecutionTrace.Proofs.Run.Basic
import ExecutionTrace.Proofs.Tracer.Tracing
import ExecutionTrace.Proofs.Tracer.Announcements
import ExecutionTrace.Proofs.Run.Finish
import ExecutionTrace.Proofs.Run.Call
import ExecutionTrace.Proofs.Run.Begin
import ExecutionTrace.Proofs.Tracer.Closing
import ExecutionTrace.Proofs.Run.Close
import ExecutionTrace.Proofs.Run.Agreement
import ExecutionTrace.Proofs.History.Exchange
import ExecutionTrace.Proofs.History.Order
import ExecutionTrace.Proofs.History.Postings
import ExecutionTrace.Proofs.History.Balance
import ExecutionTrace.Proofs.History.Calls
import ExecutionTrace.Proofs.History.Ledger
import ExecutionTrace.Proofs.History.Record
import ExecutionTrace.Proofs.History.Recorded
import ExecutionTrace.Proofs.Run.Stages
import ExecutionTrace.Proofs.History.Chronicle
import ExecutionTrace.Proofs.History.Histories
import ExecutionTrace.Proofs.History.Reversal
import ExecutionTrace.Proofs.Run.Development
import ExecutionTrace.Proofs.Rows.Grammar
import ExecutionTrace.Proofs.Rows.Scenarios
import ExecutionTrace.Proofs.Rows.ReturnData
import ExecutionTrace.Proofs.Rows.Seats
import ExecutionTrace.Proofs.Tracer.Construction
import ExecutionTrace.Proofs.Tracer.Presence
import ExecutionTrace.Proofs.Tracer.Keeping
import ExecutionTrace.Proofs.Tracer.Driving
import ExecutionTrace.Proofs.Run.Driving
import ExecutionTrace.Proofs.Rows.Growth
import ExecutionTrace.Proofs.Rows.Rollbacks
import ExecutionTrace.Proofs.Rows.Extension
import ExecutionTrace.Proofs.Tracer.Rejection
import ExecutionTrace.Proofs.Call.Classification
import ExecutionTrace.Proofs.Tracer.Resolution
import ExecutionTrace.Proofs.Tracer.Reversion
import ExecutionTrace.Proofs.Tracer.Waiting
import ExecutionTrace.Proofs.Context.Ending
import ExecutionTrace.Proofs.Run.Passage
import ExecutionTrace.Proofs.Run.Children
import ExecutionTrace.Proofs.Run.Spawning
import ExecutionTrace.Proofs.Run.Waiting
import ExecutionTrace.Proofs.Run.Checkpoints
import ExecutionTrace.Proofs.State.Supply
import ExecutionTrace.Proofs.State.Incarnations
import ExecutionTrace.Proofs.Settlement.Payments
import ExecutionTrace.Proofs.Settlement.Skipped
import ExecutionTrace.Proofs.History.Deployment
import ExecutionTrace.Proofs.Run.Deployments
import ExecutionTrace.Proofs.Run.Conservation
import ExecutionTrace.Proofs.Tracer.Targets
import ExecutionTrace.Proofs.Tracer.Launches
import ExecutionTrace.Proofs.Settlement.Deployed
import ExecutionTrace.Proofs.Tracer.Transfers
import ExecutionTrace.Proofs.State.Numbering
import ExecutionTrace.Proofs.Call.Layout
import ExecutionTrace.Proofs.Call.Padding
