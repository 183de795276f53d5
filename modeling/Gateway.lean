import Gateway.Main
import Gateway.Proofs.Exclusions.History
import Gateway.Proofs.Exclusions.Periods
import Gateway.Proofs.Exclusions.Verdict
import Gateway.Proofs.Health.Retention
import Gateway.Proofs.Http.Backend
import Gateway.Proofs.Leases.Accounting
import Gateway.Proofs.Probing.Persistence
import Gateway.Proofs.Probing.Recovery
import Gateway.Proofs.Probing.Schedule
import Gateway.Proofs.Registry.Independence
import Gateway.Proofs.Registry.LiveState
import Gateway.Proofs.Registry.Reapplication
import Gateway.Proofs.Removal.Finality
import Gateway.Proofs.Sessions.Ambiguity
import Gateway.Proofs.Sessions.Company
import Gateway.Proofs.Sessions.KeyTexts
import Gateway.Proofs.Sessions.Stickiness
import Gateway.Rehearsal.Balancing
import Gateway.Rehearsal.Keys
import Gateway.Rehearsal.Session
import Gateway.Proofs.Health.ProbeUri
import Gateway.Proofs.Acceptance
import Gateway.Proofs.Http.Authority
import Gateway.Proofs.Router.Hosts
import Gateway.Proofs.Balancing.RoundRobin
import Gateway.Proofs.Balancing.Load
import Gateway.Proofs.Balancing.LeastRequests
import Gateway.Proofs.Balancing.Sampling
import Gateway.Proofs.Health.Buckets
