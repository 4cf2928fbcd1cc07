import Kunlun.Accounting
import Kunlun.ApiKeys
import Kunlun.Arrivals
import Kunlun.Atomicity
import Kunlun.Audits
import Kunlun.Caps
import Kunlun.Catalogues
import Kunlun.Checkouts
import Kunlun.Costs
import Kunlun.Debts
import Kunlun.Deliveries
import Kunlun.Dispositions
import Kunlun.Envelopes
import Kunlun.Failures
import Kunlun.Finalizers
import Kunlun.Ingress
import Kunlun.Leases.Reconciliations
import Kunlun.Leases.Refunds
import Kunlun.LongNames
import Kunlun.MoneyLocks
import Kunlun.MintedTokens
import Kunlun.RateLimits
import Kunlun.Replays
import Kunlun.OpenOrders
import Kunlun.PrivatePaths
import Kunlun.Auth
import Kunlun.Credentials
import Kunlun.Rotations
import Kunlun.Survivors
import Kunlun.Redeliveries
import Kunlun.BodyLimits
import Kunlun.Reservations
import Kunlun.Routing
import Kunlun.Scrapes
import Kunlun.Synthesis
import Kunlun.Tokens.Alone
import Kunlun.Completions.ForwardStream
import Kunlun.Completions.Providers
import Kunlun.Completions.Reports
import Kunlun.Completions.Safety
