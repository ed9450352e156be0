import RequestGuard.Guard.Call
import RequestGuard.Host.Lemmas
import RequestGuard.Loading.Call
import RequestGuard.Main
import RequestGuard.Proofs.CommandLine.HostKeys
import RequestGuard.Proofs.CommandLine.Repeats
import RequestGuard.Proofs.Config.Document
import RequestGuard.Proofs.Filter.Uncounted
import RequestGuard.Proofs.Guard.Ads
import RequestGuard.Proofs.Guard.Concerns
import RequestGuard.Proofs.Guard.Regional
import RequestGuard.Proofs.Host.Normal
import RequestGuard.Proofs.Host.Order
import RequestGuard.Proofs.Loading.Waiters
import RequestGuard.Proofs.Recency.Refinement
import RequestGuard.Proofs.Recency.Retention
import RequestGuard.Proofs.Referrer.Settle
import RequestGuard.Proofs.Tracking.Walk
import RequestGuard.Proofs.Upgrade.Faults
import RequestGuard.Proofs.Upgrade.FirstMatch
import RequestGuard.Proofs.Upgrade.Keys
import RequestGuard.Proofs.Upgrade.LoopGuard
import RequestGuard.Proofs.Upgrade.PlainRule
import RequestGuard.Proofs.Upgrade.Recovery
import RequestGuard.Proofs.Upgrade.References
import RequestGuard.Proofs.Upgrade.Retention
import RequestGuard.Proofs.Upgrade.Secure
import RequestGuard.Recency.Call
import RequestGuard.Upgrade.Call
