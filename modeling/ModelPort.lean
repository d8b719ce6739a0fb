import ModelPort.Ledger.Reports
import ModelPort.Ledger.Settlement
import ModelPort.Ledger.UsageLifecycle
import ModelPort.Gateway.Bounded
import ModelPort.Gateway.ContextAdmission
import ModelPort.Gateway.Finalization
import ModelPort.Gateway.IpAllowlist
import ModelPort.Gateway.Scheduler
import ModelPort.Gateway.UsageSum
import ModelPort.Control.Restart
import ModelPort.Control.Rotation
import ModelPort.Control.SelfService
import ModelPort.Auth.Lockout
import ModelPort.Auth.Sessions
import ModelPort.Console.Reactivation
import ModelPort.Console.Retention
import ModelPort.Governance.Target
import ModelPort.Routing.Aliases
import ModelPort.Routing.Allowlist
import ModelPort.Routing.Charges
import ModelPort.Routing.Endpoint
import ModelPort.Routing.ModelProfile
import ModelPort.Stream.BodyGuard
import ModelPort.Stream.Observation
import ModelPort.Stream.SseBlocks
import ModelPort.Stream.TextDeltas
import ModelPort.Stream.UpstreamErrors
import ModelPort.Stream.UsageCounts
import ModelPort.Control.ServiceAccounts
