import RocksDBWrapper.Foundation.Transition
import RocksDBWrapper.Foundation.Lists
import RocksDBWrapper.Fluid.Structure
import RocksDBWrapper.Fluid.Addressing
import RocksDBWrapper.Fluid.Occupancy
import RocksDBWrapper.Fluid.Compaction
import RocksDBWrapper.Fluid.Confinement
import RocksDBWrapper.Foundation.Levels
import RocksDBWrapper.Fluid.Settling
import RocksDBWrapper.Fluid.System
import RocksDBWrapper.Fluid.Recency
import RocksDBWrapper.Fluid.Lookup
import RocksDBWrapper.Fluid.Service
import RocksDBWrapper.Fluid.Threads
import RocksDBWrapper.Fluid.Exclusion
import RocksDBWrapper.Fluid.Snapshots
import RocksDBWrapper.Foundation.Streams
import RocksDBWrapper.Workload.Driver
import RocksDBWrapper.Workload.Operations
import RocksDBWrapper.Workload.Replies
import RocksDBWrapper.Workload.Replay
import RocksDBWrapper.Workload.Verdict
import RocksDBWrapper.Foundation.Outputs
import RocksDBWrapper.Logging.Buffer
import RocksDBWrapper.Logging.Interleaving
import RocksDBWrapper.Fluid.Decision
import RocksDBWrapper.Fluid.Pushdown
import RocksDBWrapper.Foundation.Lines
import RocksDBWrapper.Workload.Progress
import RocksDBWrapper.Listeners.Waiting
import RocksDBWrapper.Logging.Signals
import RocksDBWrapper.Foundation.Substitutions
import RocksDBWrapper.Experiments.Setup
import RocksDBWrapper.Experiments.Report
import RocksDBWrapper.Foundation.Brackets
import RocksDBWrapper.Zonestate.Analyze
import RocksDBWrapper.Zonestate.Idempotence
import RocksDBWrapper.Workload.Malformed
import RocksDBWrapper.Config.Environment
import RocksDBWrapper.Config.Options
import RocksDBWrapper.Config.Sizes
import RocksDBWrapper.Config.Arguments
import RocksDBWrapper.Workload.Ranges
import RocksDBWrapper.Logging.Refusals
import RocksDBWrapper.Zonestate.Exceptions
import RocksDBWrapper.Zonestate.Ordering
import RocksDBWrapper.Zonestate.Losses
import RocksDBWrapper.Zonestate.Segments
import RocksDBWrapper.Zonestate.Script
import RocksDBWrapper.Zonestate.Recovery
import RocksDBWrapper.Foundation.Utf8
import RocksDBWrapper.Zonestate.Bytes
import RocksDBWrapper.Zonestate.PassThrough
import RocksDBWrapper.Config.FileSize
import RocksDBWrapper.Foundation.Preprocessor
import RocksDBWrapper.Workload.Preprocessing
import RocksDBWrapper.Fluid.Families
import RocksDBWrapper.Experiments.Tables
import RocksDBWrapper.Measurements.Clock
import RocksDBWrapper.Measurements.Stats
import RocksDBWrapper.CommandLine.Parser
import RocksDBWrapper.CommandLine.Outcome
import RocksDBWrapper.CommandLine.Flags
import RocksDBWrapper.Experiments.Launch
import RocksDBWrapper.Fluid.Accounting
import RocksDBWrapper.Experiments.Archive
import RocksDBWrapper.Foundation.Filters
import RocksDBWrapper.Experiments.Metrics
import RocksDBWrapper.Listeners.Returning
import RocksDBWrapper.Fluid.Capacity
import RocksDBWrapper.Experiments.Documents
import RocksDBWrapper.Experiments.Delivery
import RocksDBWrapper.Experiments.Rows
