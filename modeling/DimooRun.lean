import DimooRun.Worker.GovernedTools
import DimooRun.Worker.Cancellation
import DimooRun.Worker.DurableBuffer
import DimooRun.Streaming.Delivery
import DimooRun.Native.ConcurrentCreation
import DimooRun.Runtime.BatchRuns
import DimooRun.Scheduler.ExclusiveClaims
import DimooRun.Scheduler.BackendAgreement
import DimooRun.Scheduler.QuotaLeases
import DimooRun.Policy.Enforcement
import DimooRun.Hitl.Decisions
import DimooRun.Costs.Blocking
import DimooRun.Identity.Lockout
import DimooRun.Api.EffectivePermissions
import DimooRun.Gateway.Routing
import DimooRun.Gateway.Revocation
import DimooRun.Gateway.RateLimit
import DimooRun.Catalog.AssetLifecycle
import DimooRun.Notifications.Alerts
import DimooRun.RunGraph.Projector
