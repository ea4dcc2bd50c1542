import NewApi.Proof.SessionExclusive
import NewApi.Proof.FailedRefund
import NewApi.Proof.ManualCredit
import NewApi.Proof.GroupRestore
import NewApi.Proof.QuotaBound
import NewApi.Proof.PreConsumeRace
import NewApi.Proof.PurchaseRace
import NewApi.Proof.SystemTaskOrphan
import NewApi.Proof.TieredParams
import NewApi.Proof.ResponsesStream
import NewApi.Proof.RelayCharge
import NewApi.Proof.ChannelRouting
import NewApi.Proof.CounterRace
import NewApi.Proof.BatchCounters
import NewApi.Proof.RouteOrder
import NewApi.Proof.LegalStream
import NewApi.Proof.RealtimeUsage
import NewApi.Proof.PlanTimes
import NewApi.Proof.TextQuotaBounds
import NewApi.Proof.TaskPrice
import NewApi.Proof.TokenRevocation
import NewApi.Proof.TaskLedger
import NewApi.Proof.SsrfDial
import NewApi.Proof.UsageConserved
import NewApi.Proof.WeightedDraw
import NewApi.Proof.KeyPolling
import NewApi.Proof.StreamDelivery
import NewApi.Proof.Redemption
import NewApi.Proof.ModelMapped
import NewApi.Proof.TotalLimit
import NewApi.Proof.SlidingWindow
import NewApi.Proof.LegacyOverride
import NewApi.Proof.OrderLock
import NewApi.Proof.UpstreamUpdate
import NewApi.Proof.ChannelAffinity
