import CodexGateway.Store.PayingLayer
import CodexGateway.Store.ExactlyOnce
import CodexGateway.Egress.Tunnels
import CodexGateway.Egress.EndToEnd
import CodexGateway.Server.Selection
import CodexGateway.Store.Memberships
import CodexGateway.Store.GroupReplay
import CodexGateway.Store.GroupSpending
import CodexGateway.Egress.Handlers
import CodexGateway.Store.QuotaReadings
import CodexGateway.Proxy.GeminiStream
import CodexGateway.Proxy.NativeResponses
import CodexGateway.Billing.Costs
import CodexGateway.Store.AmountTexts
import CodexGateway.Config.Dominance
import CodexGateway.Proxy.Recordable
import CodexGateway.Proxy.Reencoding
import CodexGateway.Store.Fairness
import CodexGateway.Store.MissingWrites
import CodexGateway.Store.FundingJson
import CodexGateway.Store.PriceOverrides
import CodexGateway.Store.QuotaDecision
import CodexGateway.Store.Histories
import CodexGateway.Antigravity.Accounts
