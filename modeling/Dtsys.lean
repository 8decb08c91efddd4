import Dtsys.Lib.Act
import Dtsys.Lib.AddUp
import Dtsys.Lib.Run
import Dtsys.Lib.Store
import Dtsys.Lib.Claim
import Dtsys.Server.Values
import Dtsys.Server.Models
import Dtsys.Server.Manager
import Dtsys.Server.Session
import Dtsys.Server.Alerts
import Dtsys.Server.Address
import Dtsys.Server.Handler
import Dtsys.Server.Footprint
import Dtsys.Server.Scope
import Dtsys.Server.Isolation
import Dtsys.Server.Router
import Dtsys.Server.Counters
import Dtsys.Server.Reconnect
import Dtsys.Server.AlertRuns
import Dtsys.Server.Teardown
import Dtsys.Server.Inventories
import Dtsys.Server.Reports
import Dtsys.Server.Atomicity
import Dtsys.Server.Commands
import Dtsys.Server.Dispatch
import Dtsys.Server.Bulk
import Dtsys.Server.Ghosts
import Dtsys.Server.Lifecycle
import Dtsys.Server.Registry
import Dtsys.Agent.Messages
import Dtsys.Agent.ReadLoop
import Dtsys.System.Cluster
import Dtsys.System.Handlers
import Dtsys.System.ConnectionCalls
import Dtsys.System.Results
import Dtsys.System.Redelivery
import Dtsys.System.Enrollment
import Dtsys.System.AlertRace
import Dtsys.System.PendingOffline
import Dtsys.Agent.Transport
import Dtsys.Agent.Delivery
import Dtsys.Agent.Room
import Dtsys.Agent.Shutdown
import Dtsys.Agent.NonBlocking
import Dtsys.Server.Offline
import Dtsys.System.Hub
import Dtsys.Server.Raising
import Dtsys.Server.Reporting
import Dtsys.System.Freshness
import Dtsys.Lib.Spans
import Dtsys.Lib.Splits
import Dtsys.System.Uptime
import Dtsys.System.Detectors
import Dtsys.Server.Accounts
import Dtsys.Server.AdminChecks
import Dtsys.System.Logout
import Dtsys.Server.Organizations
import Dtsys.System.Memberships
import Dtsys.System.OrgRoles
import Dtsys.Server.Routing
import Dtsys.Server.Scheduler
import Dtsys.Server.Ticks
import Dtsys.Server.Outcomes
import Dtsys.System.Schedules
import Dtsys.System.Overlap
import Dtsys.System.LastAdmin
import Dtsys.Server.Reads
import Dtsys.Server.Resources
import Dtsys.Server.Ownership
import Dtsys.Server.Tenants
import Dtsys.Server.Pagination
import Dtsys.Server.PushTokens
import Dtsys.Server.ColumnBounds
import Dtsys.Server.UpdateCommand
import Dtsys.Agent.Payloads
import Dtsys.Agent.Budget
import Dtsys.Agent.Conservation
import Dtsys.Agent.Dedup
import Dtsys.Agent.DedupMemory
import Dtsys.Agent.ClockOffset
import Dtsys.Agent.Throughput
import Dtsys.Agent.Versions
import Dtsys.Agent.Updates
import Dtsys.Agent.Staging
import Dtsys.Agent.Lines
import Dtsys.Agent.PackageUpdates
import Dtsys.Agent.Winget
import Dtsys.Agent.AuthorizedKeys
import Dtsys.Agent.EventWindows
import Dtsys.System.Output
import Dtsys.Agent.Polls
import Dtsys.Agent.Intervals
import Dtsys.Web.Client
import Dtsys.Agent.ConfigFile
import Dtsys.Agent.ConfigUpdates
import Dtsys.System.Addresses
import Dtsys.System.Payloads
import Dtsys.System.Agreement
import Dtsys.Lib.Ascending
import Dtsys.Web.Numbers
import Dtsys.System.Expressions
import Dtsys.System.Preview
import Dtsys.Server.Clearing
import Dtsys.Server.Status
import Dtsys.Server.Detection
import Dtsys.Server.Admission
import Dtsys.Lib.DropOldest
import Dtsys.System.LiveStreams
import Dtsys.System.StreamSlots
import Dtsys.Lib.Framing
import Dtsys.Lib.Csv
import Dtsys.Lib.Words
import Dtsys.Lib.Firsts
import Dtsys.Web.Sse
import Dtsys.Lib.Watermark
import Dtsys.Server.Compliance
import Dtsys.Server.RuleTally
import Dtsys.System.AuditStream
import Dtsys.System.Exports
import Dtsys.Lib.Ddl
import Dtsys.Lib.DdlRuns
import Dtsys.Server.Migrations
import Dtsys.Server.SchemaHistory
import Dtsys.Server.Upgrades
import Dtsys.Agent.Registration
import Dtsys.System.Registering
import Dtsys.System.LostReplies
import Dtsys.Lib.Columns
import Dtsys.Server.SavedCommands
import Dtsys.System.CommandLibrary
import Dtsys.System.Timetable
import Dtsys.System.InventoryExport
import Dtsys.System.Reconnects
import Dtsys.System.ConfigPush
