import QueryFence.Cache.Memory
import QueryFence.Jira.Canned
import QueryFence.Main
import QueryFence.Proofs.Cache.Balance
import QueryFence.Proofs.Cache.Damage
import QueryFence.Proofs.Cache.Recovery
import QueryFence.Proofs.Cache.Refinement
import QueryFence.Proofs.Command.InPlace
import QueryFence.Proofs.Document.Format
import QueryFence.Proofs.Jira.Ending
import QueryFence.Proofs.Rounds.Document
import QueryFence.Proofs.Rounds.Ends
import QueryFence.Proofs.Rounds.Recall
import QueryFence.Proofs.Rounds.Spacing
import QueryFence.Proofs.Rounds.TearDown
import QueryFence.Proofs.Rounds.Trace
import QueryFence.Proofs.Spec.Grammar
import QueryFence.Proofs.Spec.RoundTrip
import QueryFence.Proofs.Tools
import QueryFence.Proofs.Traffic.Provenance
import QueryFence.Proofs.Traffic.Refresh
import QueryFence.Spec.Check
import QueryFence.Tools
import QueryFence.Proofs.Jira.CustomFields
import QueryFence.Proofs.Spec.Breakdown
import QueryFence.Proofs.Document.Breakdown
import QueryFence.Proofs.Tools.Overlap
import QueryFence.Proofs.Spec.Lawful
import QueryFence.Proofs.Document.Places
import QueryFence.Proofs.View.Table
import QueryFence.Proofs.View.Bullets
import QueryFence.Proofs.Jira.Retry
import QueryFence.Proofs.View.ErrorBlock
import QueryFence.Proofs.View.Nulls
import QueryFence.Proofs.Traffic.Footer
import QueryFence.Proofs.View.Duration
import QueryFence.Proofs.View.Escape
