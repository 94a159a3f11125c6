import ContestSync.Resumable.Program
import ContestSync.Resumable.Specification
import ContestSync.Resumable.RelyGuarantee
import ContestSync.Resumable.Pool
import ContestSync.KeyedTable
import ContestSync.GuardedRuns
import ContestSync.Tally
import ContestSync.Reconciliation
import ContestSync.Broker
import ContestSync.Identifiers
import ContestSync.Models
import ContestSync.Database
import ContestSync.GoogleCalendar
import ContestSync.Service
import ContestSync.RequestFrames
import ContestSync.SyncUser
import ContestSync.Handlers
import ContestSync.Footprints
import ContestSync.Histories
import ContestSync.ProfileTraffic
import ContestSync.RevokedToken
import ContestSync.SyncSnapshot
import ContestSync.SyncContract
import ContestSync.SyncRun
import ContestSync.SyncConvergence
import ContestSync.SyncRecovery
import ContestSync.SyncInterleaving
import ContestSync.ProfileCache
import ContestSync.TargetCalendar
import ContestSync.FaithfulRows
import ContestSync.PrunedContest
import ContestSync.Extraction
import ContestSync.ContestLoading
import ContestSync.CachedRun
import ContestSync.ServedRun
import ContestSync.CacheTransparency
import ContestSync.TaskQueue
import ContestSync.Delivery
import ContestSync.QueueRouting
import ContestSync.CacheRaces
import ContestSync.PreferenceDurability
import ContestSync.SyncLock
import ContestSync.Contention
import ContestSync.DedicatedCalendars
import ContestSync.OAuthState
import ContestSync.Resumable.Merge
import ContestSync.Refresh
import ContestSync.ConcurrentExtraction
import ContestSync.Sessions
import ContestSync.AccountErasure
import ContestSync.Connections
import ContestSync.TextLines
import ContestSync.ICalFeed
import ContestSync.FixedWindow
import ContestSync.RateLimit
import ContestSync.LocalLimiter
import ContestSync.ExpiringCounter
import ContestSync.ValkeyLimiter
import ContestSync.Utf8
import ContestSync.MessageSplitting
import ContestSync.TelegramMessages
import ContestSync.LinePacking
import ContestSync.SendableChunks
import ContestSync.TelegramDelivery
import ContestSync.TelegramShutdown
import ContestSync.OffsetPaging
import ContestSync.GlobalSync
import ContestSync.CalendarValidation
import ContestSync.ExtractionFrame
import ContestSync.Resumable.Calls
import ContestSync.FailedDeletion
import ContestSync.ForgottenEvents
import ContestSync.ReportedSuccess
import ContestSync.ContestLists
import ContestSync.ChangedContest
import ContestSync.Scanning
import ContestSync.Numerals
import ContestSync.TimeLayouts
import ContestSync.AtcoderScraper
import ContestSync.AtcoderPages
import ContestSync.UrlParsing
import ContestSync.Fetchers
import ContestSync.FetchedTimes
import ContestSync.HackerrankHosts
import ContestSync.Base64
import ContestSync.TokenEncryption
import ContestSync.SessionStore
import ContestSync.CsrfChain
import ContestSync.ConsumerDrain
import ContestSync.ManualSyncSpacing
import ContestSync.TelegramEscaping
import ContestSync.ChangeDetection
import ContestSync.DistinctIdentifiers
import ContestSync.FanOut
import ContestSync.EventRemoval
import ContestSync.SessionTraffic
import ContestSync.SessionRecords
import ContestSync.ReplicaReads
