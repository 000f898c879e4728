import ChainDash.Lib.Lts
import ChainDash.Lib.DirtyWake
import ChainDash.Lib.Text
import ChainDash.Lib.Ieee
import ChainDash.Lib.Calendar
import ChainDash.Collect.NodeDetail
import ChainDash.Notify.Events
import ChainDash.Notify.QuietSummary
import ChainDash.Lib.Dictionary
import ChainDash.Notify.State
import ChainDash.Notify.Notifier
import ChainDash.Notify.Buffering
import ChainDash.Notify.QuietHours
import ChainDash.Notify.Outages
import ChainDash.Collect.Data
import ChainDash.App.UiLoop
import ChainDash.App.MainLoop
import ChainDash.Lib.Sorting
import ChainDash.Geo.Tables
import ChainDash.App.GeoLoop
import ChainDash.Lib.History
import ChainDash.Collect.DailySnapshot
import ChainDash.Collect.DailyHistory
import ChainDash.Lib.Json
import ChainDash.Collect.DailyStore
import ChainDash.Collect.DailySaving
import ChainDash.Collect.DailyReports
import ChainDash.App.Charts
import ChainDash.Lib.Keyed
import ChainDash.Collect.NodeMerges
import ChainDash.Collect.NodeDetailRefresh
import ChainDash.Collect.RefreshReports
import ChainDash.Notify.RateLimit
import ChainDash.Collect.Endpoints
import ChainDash.Geo.StoreCalls
import ChainDash.Lib.LocalTime
import ChainDash.Collect.DailySchedule
import ChainDash.Lib.Net
import ChainDash.Geo.Addresses
import ChainDash.Collect.PeerGeo
import ChainDash.Collect.PeerLookups
import ChainDash.Collect.EnrichmentSchedule
import ChainDash.Collect.IpInfo
import ChainDash.Collect.PeerLocations
import ChainDash.Lib.Mealy
import ChainDash.Notify.Limiter
import ChainDash.Notify.Transitions
import ChainDash.Notify.Rankings
import ChainDash.Collect.Namesakes
import ChainDash.Collect.ChainStatistics
import ChainDash.Collect.BlockSubscription
import ChainDash.Collect.NodeStateTasks
import ChainDash.Lib.Rounding
import ChainDash.Lib.FloatOrder
import ChainDash.Collect.SystemStats
import ChainDash.App.ChartAverages
import ChainDash.Geo.Distribution
import ChainDash.App.DisplayOrder
import ChainDash.Collect.ReservedKey
import ChainDash.Lib.Substitution
import ChainDash.Notify.Templates
import ChainDash.Lib.Grouping
import ChainDash.App.Helpers
import ChainDash.App.Shortening
import ChainDash.App.DiskSelection
import ChainDash.Lib.Words
import ChainDash.Collect.Mounts
import ChainDash.Lib.Screen
import ChainDash.App.CountryGrid
import ChainDash.App.MetricPanel
import ChainDash.App.PanelBox
import ChainDash.App.Shutdown
import ChainDash.Geo.Migrations
import ChainDash.Notify.Options
import ChainDash.Notify.Deliveries
import ChainDash.Lib.Shortest
import ChainDash.Collect.Explorer
