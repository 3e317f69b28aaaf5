import PgMetrics.Database.Connection
import PgMetrics.Database.Script
import PgMetrics.Main
import PgMetrics.Proofs.Exporter.Caching
import PgMetrics.Proofs.Exporter.Completion
import PgMetrics.Proofs.Server.Isolation
import PgMetrics.Proofs.Server.Plans
import PgMetrics.Server.Session
import PgMetrics.Proofs.Scrape.Cache
import PgMetrics.Proofs.Scrape.Discards
import PgMetrics.Proofs.Exporter.Attribution
import PgMetrics.Proofs.Exporter.LabelNames
import PgMetrics.Proofs.UserQueries
import PgMetrics.Proofs.Exporter.Startup
import PgMetrics.Proofs.Metric.Names
import PgMetrics.Proofs.Exporter.Families
import PgMetrics.Proofs.Exporter.Readings
import PgMetrics.Proofs.Version.RangeText
import PgMetrics.Proofs.Config.Defaults
import PgMetrics.Proofs.Config.Document
import PgMetrics.Proofs.Server.Attempts
import PgMetrics.Proofs.Scrape.Accounting
import PgMetrics.Proofs.Scrape.Histograms
import PgMetrics.Proofs.Scrape.Freshness
import PgMetrics.Proofs.Scrape.Reordering
import PgMetrics.Proofs.Server.Parameters
import PgMetrics.Proofs.Metric.Grouping
import PgMetrics.Proofs.Scrape.Series
import PgMetrics.Proofs.Net.Inet
import PgMetrics.Proofs.Config.Validate
import PgMetrics.Proofs.Version.Operators
import PgMetrics.Proofs.Server.Waits
