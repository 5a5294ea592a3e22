import CachingGateway.Cache.Entry
import CachingGateway.Cache.Key
import CachingGateway.Cache.Policy
import CachingGateway.Cache.Recency
import CachingGateway.Cache.Store
import CachingGateway.CommandLine.Flag
import CachingGateway.CommandLine.Report
import CachingGateway.CommandLine.Request
import CachingGateway.Data.Table
import CachingGateway.Digest.Sha256
import CachingGateway.Forwarding.Forwarder
import CachingGateway.Forwarding.OutboundHeaders
import CachingGateway.Forwarding.OutboundMessage
import CachingGateway.Gateway.Course
import CachingGateway.Gateway.Error
import CachingGateway.Gateway.MetricsEndpoint
import CachingGateway.Gateway.Proxy
import CachingGateway.Gateway.Resumption
import CachingGateway.Gateway.Router
import CachingGateway.Gateway.State
import CachingGateway.Http.Framing
import CachingGateway.Http.Headers
import CachingGateway.Http.Message
import CachingGateway.Http.Method
import CachingGateway.Http.Reason
import CachingGateway.Http.Target
import CachingGateway.Json.Printer
import CachingGateway.Json.Quoted
import CachingGateway.Json.Reader
import CachingGateway.Json.Value
import CachingGateway.Main
import CachingGateway.Metrics.Exposition
import CachingGateway.Metrics.Histogram
import CachingGateway.Metrics.Registry
import CachingGateway.Network.Address
import CachingGateway.Network.Peer
import CachingGateway.Number.Binary64
import CachingGateway.Number.Decimal
import CachingGateway.RateLimit.ClientKey
import CachingGateway.RateLimit.Limiter
import CachingGateway.RateLimit.Sweep
import CachingGateway.RateLimit.TokenNumber
import CachingGateway.Settings.Basic
import CachingGateway.Settings.Document
import CachingGateway.Settings.JsonDocument
import CachingGateway.Settings.Load
import CachingGateway.Settings.LogFormat
import CachingGateway.Settings.Override
import CachingGateway.Settings.Validity
import CachingGateway.Settings.YamlDocument
import CachingGateway.Text.Ascii
import CachingGateway.Text.Blank
import CachingGateway.Text.Octets
import CachingGateway.Text.Similarity
import CachingGateway.Text.Uuid
import CachingGateway.Time.Calendar
import CachingGateway.Time.Duration
import CachingGateway.Time.HttpDate
import CachingGateway.Time.Instant
import CachingGateway.Time.Moment
import CachingGateway.Url.Basic
import CachingGateway.Url.Domain
import CachingGateway.Url.Percent
import CachingGateway.Yaml.Cursor
import CachingGateway.Yaml.Lexer
import CachingGateway.Yaml.Node
import CachingGateway.Yaml.Scalar
import CachingGateway.Yaml.Tag
import CachingGateway.Yaml.Token
import CachingGateway.Proofs.Cache.RecencyOrder
import CachingGateway.Proofs.Cache.StoreRun
import CachingGateway.Proofs.Cache.UseOrder
import CachingGateway.Proofs.Cache.StoreConsistency
import CachingGateway.Proofs.Cache.StoreRefinement
import CachingGateway.Proofs.Cache.KeySeparation
import CachingGateway.Proofs.Gateway.Passage
import CachingGateway.Proofs.Gateway.Run
import CachingGateway.Proofs.Gateway.Deposits
import CachingGateway.Proofs.Gateway.HitProvenance
import CachingGateway.Proofs.RateLimit.LimiterRun
import CachingGateway.Proofs.RateLimit.AdmissionLaw
import CachingGateway.Proofs.Number.Rounding
import CachingGateway.Proofs.RateLimit.ThinnedBuckets
import CachingGateway.Proofs.RateLimit.SweptAdmission
import CachingGateway.Proofs.Gateway.Outcomes
import CachingGateway.Proofs.Gateway.SpecialAnswers
import CachingGateway.Proofs.Gateway.StoreTransparency
import CachingGateway.Proofs.Gateway.SparedStore
import CachingGateway.Proofs.RateLimit.KeyIndependence
import CachingGateway.Proofs.RateLimit.CallerSeparation
import CachingGateway.Proofs.Number.GridPoints
import CachingGateway.Proofs.RateLimit.WaitLength
import CachingGateway.Proofs.Gateway.DeniedRequests
import CachingGateway.Proofs.Metrics.SeriesLaws
import CachingGateway.Proofs.Gateway.RequestCounts
import CachingGateway.Proofs.Gateway.Accounts
import CachingGateway.Proofs.Gateway.ConservedCounts
import CachingGateway.Proofs.RateLimit.HeldBuckets
import CachingGateway.Proofs.Gateway.Identifiers
import CachingGateway.Proofs.Gateway.Traffic
import CachingGateway.Proofs.Gateway.Confirmation
import CachingGateway.Proofs.Text.FieldText
import CachingGateway.Proofs.Text.LetterCase
import CachingGateway.Proofs.Time.CalendarLaws
import CachingGateway.Proofs.Time.DateLayouts
import CachingGateway.Proofs.Cache.ExpiryDates
import CachingGateway.Proofs.Cache.Freshness
import CachingGateway.Proofs.Settings.Runnable
import CachingGateway.Proofs.Cache.ControlLayout
import CachingGateway.Proofs.Cache.ForbiddenStorage
import CachingGateway.Proofs.Cache.VarySelection
import CachingGateway.Proofs.Cache.WorkingSet
import CachingGateway.Proofs.RateLimit.SoundBuckets
import CachingGateway.Proofs.RateLimit.UnnoticedReclaim
import CachingGateway.Proofs.RateLimit.TightForecast
import CachingGateway.Proofs.Network.AddressText
import CachingGateway.Proofs.RateLimit.PeerKeys
import CachingGateway.Proofs.Number.Amounts
import CachingGateway.Proofs.RateLimit.ToldSeconds
import CachingGateway.Proofs.RateLimit.RefilledToken
import CachingGateway.Proofs.Gateway.HonouredWait
import CachingGateway.Proofs.Forwarding.ForwardedChain
import CachingGateway.Proofs.Http.TargetReading
import CachingGateway.Proofs.Url.PathText
import CachingGateway.Proofs.Forwarding.FetchedTarget
import CachingGateway.Proofs.Gateway.ReadTags
import CachingGateway.Proofs.Settings.Variables
import CachingGateway.Proofs.Settings.OverrideComposition
import CachingGateway.Proofs.Cache.LastUses
import CachingGateway.Proofs.Forwarding.OutboundFilter
import CachingGateway.Proofs.Json.WrittenTexts
import CachingGateway.Proofs.Gateway.ErrorBodies
import CachingGateway.Proofs.Number.NumeralText
import CachingGateway.Proofs.Settings.MalformedValues
import CachingGateway.Proofs.Number.DoubleOrder
import CachingGateway.Proofs.RateLimit.TokenRange
