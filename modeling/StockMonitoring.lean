import StockMonitoring.Foundation.Run
import StockMonitoring.Foundation.Coroutine
import StockMonitoring.Foundation.Pool
import StockMonitoring.Foundation.Discipline
import StockMonitoring.Foundation.Lists
import StockMonitoring.Foundation.Table
import StockMonitoring.Core.Security
import StockMonitoring.Domain.Entities
import StockMonitoring.Infrastructure.Db.Models
import StockMonitoring.Infrastructure.Db.Repositories
import StockMonitoring.Infrastructure.Db.Session
import StockMonitoring.Application.Diffing
import StockMonitoring.Application.Baseline
import StockMonitoring.Application.MonitoringService
import StockMonitoring.Application.CheckProtocol
import StockMonitoring.Application.CheckRun
import StockMonitoring.Application.CheckHistory
import StockMonitoring.Application.CheckFailure
import StockMonitoring.Application.AuthService
import StockMonitoring.Application.NotificationService
import StockMonitoring.Application.NotificationRun
import StockMonitoring.Monitor.Scheduler
import StockMonitoring.Monitor.SharedSession
import StockMonitoring.Monitor.SharedProvider
import StockMonitoring.Monitor.RunForever
import StockMonitoring.Monitor.Marking
import StockMonitoring.Monitor.Polling
import StockMonitoring.Monitor.Delivery
import StockMonitoring.Tasks.Notifications
import StockMonitoring.Tasks.Workers
import StockMonitoring.Tasks.FailingChannel
import StockMonitoring.Tasks.DedupLookup
import StockMonitoring.Api.AuthRequests
import StockMonitoring.Api.AuthTrace
import StockMonitoring.Api.BruteForce
import StockMonitoring.Foundation.Ordering
import StockMonitoring.Infrastructure.Db.ApiRepositories
import StockMonitoring.Infrastructure.Db.ForeignKeys
import StockMonitoring.Api.Port
import StockMonitoring.Api.Routers
import StockMonitoring.Application.Downtime
import StockMonitoring.Api.Availability
import StockMonitoring.Api.PriceHistory
import StockMonitoring.Api.Requests
import StockMonitoring.Api.SharedTargets
import StockMonitoring.Api.GuardedDeletion
import StockMonitoring.Api.RequestEffects
import StockMonitoring.Api.Isolation
import StockMonitoring.Api.Noninterference
import StockMonitoring.Tasks.FanOut
import StockMonitoring.Application.NotificationParts
import StockMonitoring.Tasks.Cooldown
import StockMonitoring.Application.NotificationProtocol
import StockMonitoring.Foundation.Sessions
import StockMonitoring.Tasks.ConcurrentCooldown
import StockMonitoring.Api.AuthSessions
import StockMonitoring.Api.ConcurrentVerify
import StockMonitoring.Api.TokenCalls
import StockMonitoring.Api.TokenProvenance
import StockMonitoring.Api.RateLimit
import StockMonitoring.Foundation.Gather
import StockMonitoring.Monitor.Tick
import StockMonitoring.Api.WatchLinks
import StockMonitoring.Foundation.SessionRuns
import StockMonitoring.Api.ApiSessions
import StockMonitoring.Api.ConcurrentWatches
import StockMonitoring.Api.ConcurrentSettings
import StockMonitoring.Foundation.Tasks
import StockMonitoring.Infrastructure.Providers.Browsers
import StockMonitoring.Monitor.Shutdown
import StockMonitoring.Api.LiveStream
import StockMonitoring.Monitor.MainLoop
import StockMonitoring.Application.StoredTimes
import StockMonitoring.Api.ClockUses
import StockMonitoring.Frontend.ApiClient
import StockMonitoring.Frontend.Traces
import StockMonitoring.Frontend.Logins
import StockMonitoring.Foundation.Digits
import StockMonitoring.Foundation.Json
import StockMonitoring.Foundation.PubSub
import StockMonitoring.Api.LiveDelivery
import StockMonitoring.Application.AvailabilityMeaning
import StockMonitoring.Foundation.Utf8
import StockMonitoring.Foundation.WebUrl
import StockMonitoring.Foundation.Cleanup
import StockMonitoring.Foundation.Numerals
import StockMonitoring.Infrastructure.Providers.Scraping
import StockMonitoring.Infrastructure.Providers.SearchUrls
import StockMonitoring.Foundation.UriReference
import StockMonitoring.Infrastructure.Providers.ResultLinks
import StockMonitoring.Infrastructure.Providers.OpenPages
import StockMonitoring.Foundation.TimeColumns
import StockMonitoring.Infrastructure.Db.Migrations
import StockMonitoring.Infrastructure.Providers.Prices
import StockMonitoring.Api.RequestFacts
import StockMonitoring.Api.ConcurrentRequests
import StockMonitoring.Frontend.LiveFeed
import StockMonitoring.Infrastructure.Db.RetailersAndLogs
import StockMonitoring.Infrastructure.Db.Seed
import StockMonitoring.Api.Server
import StockMonitoring.Api.Authorization
import StockMonitoring.Api.ErrorLog
import StockMonitoring.Api.Login
import StockMonitoring.Tasks.Recipients
import StockMonitoring.Application.CheckRecords
import StockMonitoring.Monitor.Records
import StockMonitoring.Api.History
import StockMonitoring.Frontend.WebSession
import StockMonitoring.Frontend.Retries
import StockMonitoring.Foundation.Surroundings
import StockMonitoring.Infrastructure.Providers.ShopPages
import StockMonitoring.Application.Messages
import StockMonitoring.Tasks.SentMessages
