import RocksDBWrapper.Config.Environment

/-!
# Translating the settings into options

`configOptions` fills the option objects that are handed to RocksDB from a `DBEnv`. The options
carry the types they have in RocksDB. Each `switch` of the function is a table from the numbers of
its cases to what they assign; its default prints an error and assigns nothing. What RocksDB and
the machine contribute is a parameter: how the file is called in messages, and whether a file
system can be created from a URI.
-/

namespace RocksDBWrapper.Config

open Streams

/-! ## Choices -/

/-- `CompactionPri`. -/
inductive CompactionPri
  | byCompensatedSize
  | oldestLargestSeqFirst
  | oldestSmallestSeqFirst
  | minOverlappingRatio
  | roundRobin
  deriving DecidableEq, Inhabited, Repr

/-- Factories of memtables. -/
inductive MemtableFactory
  | skipList
  | vectorRep
  | hashSkipListRep
  | hashLinkListRep
  deriving DecidableEq, Inhabited, Repr

/-- `CompactionStyle`. -/
inductive CompactionStyle
  | level
  | universal
  | fifo
  | none
  deriving DecidableEq, Inhabited, Repr

/-- Index types of data blocks. -/
inductive DataBlockIndexType
  | binarySearch
  | binaryAndHash
  deriving DecidableEq, Inhabited, Repr

/-- Index types of tables. -/
inductive IndexType
  | binarySearch
  | hashSearch
  | twoLevelIndexSearch
  | binarySearchWithFirstKey
  deriving DecidableEq, Inhabited, Repr

/-- `IndexShorteningMode`. -/
inductive IndexShorteningMode
  | noShortening
  | shortenSeparators
  | shortenSeparatorsAndSuccessor
  deriving DecidableEq, Inhabited, Repr

/-- `CompressionType`. -/
inductive CompressionType
  | noCompression
  | snappyCompression
  | zlibCompression
  | bzip2Compression
  | lz4Compression
  | lz4hcCompression
  | xpressCompression
  | zstd
  | disableCompressionOption
  deriving DecidableEq, Inhabited, Repr

/-- `ReadTier`. -/
inductive ReadTier
  | readAllTier
  | blockCacheTier
  | persistedTier
  | memtableTier
  deriving DecidableEq, Inhabited, Repr

/-- The comparators of RocksDB. -/
inductive Comparator
  | bytewise
  | reverseBytewise
  deriving DecidableEq, Inhabited, Repr

/-- The file system and clock in use. -/
inductive Env
  | default
  | fromUri (uri : Text)
  deriving DecidableEq, Inhabited, Repr

/-- `StatsLevel`. -/
inductive StatsLevel
  | all
  | disableAll
  deriving DecidableEq, Inhabited, Repr

/-- `PerfLevel`. -/
inductive PerfLevel
  | disable
  | enableCount
  | enableTimeAndCPUTimeExceptForMutex
  deriving DecidableEq, Inhabited, Repr

/-! ## Option objects -/

/-- `NewLRUCache` with its arguments. -/
structure LRUCache where
  /-- Capacity in bytes. -/
  capacity : UInt64
  /-- Number of shard bits. -/
  numShardBits : Int32
  /-- Whether the limit is strict. -/
  strictCapacityLimit : Bool
  /-- Share of the high priority pool. -/
  highPriPoolRatio : ℚ
  deriving DecidableEq, Inhabited, Repr

/-- `NewBloomFilterPolicy` with its arguments. -/
structure BloomFilterPolicy where
  /-- Bits per key. -/
  bitsPerKey : ℚ
  /-- Whether the filter is built block by block. -/
  useBlockBasedBuilder : Bool
  deriving DecidableEq, Inhabited, Repr

/-- `BlockBasedTableOptions`. -/
structure TableOptions where
  /-- `filter_policy`. -/
  filterPolicy : Option BloomFilterPolicy
  /-- `no_block_cache`. -/
  noBlockCache : Bool
  /-- `cache_index_and_filter_blocks`. -/
  cacheIndexAndFilterBlocks : Bool
  /-- `block_cache`. -/
  blockCache : Option LRUCache
  /-- `read_amp_bytes_per_bit`. -/
  readAmpBytesPerBit : UInt32
  /-- `data_block_index_type`. -/
  dataBlockIndexType : DataBlockIndexType
  /-- `index_type`. -/
  indexType : IndexType
  /-- `partition_filters`. -/
  partitionFilters : Bool
  /-- `block_size`. -/
  blockSize : UInt64
  /-- `metadata_block_size`. -/
  metadataBlockSize : UInt64
  /-- `pin_top_level_index_and_filter`. -/
  pinTopLevelIndexAndFilter : Bool
  /-- `index_shortening`. -/
  indexShortening : IndexShorteningMode
  /-- `block_size_deviation`. -/
  blockSizeDeviation : Int32
  /-- `enable_index_compression`. -/
  enableIndexCompression : Bool
  deriving DecidableEq, Inhabited, Repr

/-- `Options`. -/
structure Options where
  /-- `create_if_missing`. -/
  createIfMissing : Bool
  /-- `max_open_files`. -/
  maxOpenFiles : Int32
  /-- `max_file_opening_threads`. -/
  maxFileOpeningThreads : Int32
  /-- `bytes_per_sync`. -/
  bytesPerSync : UInt64
  /-- `enable_thread_tracking`. -/
  enableThreadTracking : Bool
  /-- `allow_concurrent_memtable_write`. -/
  allowConcurrentMemtableWrite : Bool
  /-- `stats_history_buffer_size`. -/
  statsHistoryBufferSize : UInt64
  /-- `dump_malloc_stats`. -/
  dumpMallocStats : Bool
  /-- `avoid_flush_during_shutdown`. -/
  avoidFlushDuringShutdown : Bool
  /-- `advise_random_on_open`. -/
  adviseRandomOnOpen : Bool
  /-- `delete_obsolete_files_period_micros`. -/
  deleteObsoleteFilesPeriodMicros : UInt64
  /-- `allow_mmap_reads`. -/
  allowMmapReads : Bool
  /-- `allow_mmap_writes`. -/
  allowMmapWrites : Bool
  /-- `max_bytes_for_level_multiplier`. -/
  maxBytesForLevelMultiplier : ℚ
  /-- `write_buffer_size`. -/
  writeBufferSize : UInt64
  /-- `target_file_size_base`. -/
  targetFileSizeBase : UInt64
  /-- `max_bytes_for_level_base`. -/
  maxBytesForLevelBase : UInt64
  /-- `max_write_buffer_number`. -/
  maxWriteBufferNumber : Int32
  /-- `compaction_pri`. -/
  compactionPri : CompactionPri
  /-- `memtable_factory`. -/
  memtableFactory : MemtableFactory
  /-- `level_compaction_dynamic_level_bytes`. -/
  levelCompactionDynamicLevelBytes : Bool
  /-- `compaction_style`. -/
  compactionStyle : CompactionStyle
  /-- `disable_auto_compactions`. -/
  disableAutoCompactions : Bool
  /-- `level0_file_num_compaction_trigger`. -/
  level0FileNumCompactionTrigger : Int32
  /-- `num_levels`. -/
  numLevels : Int32
  /-- `target_file_size_multiplier`. -/
  targetFileSizeMultiplier : Int32
  /-- `max_background_jobs`. -/
  maxBackgroundJobs : Int32
  /-- `soft_pending_compaction_bytes_limit`. -/
  softPendingCompactionBytesLimit : UInt64
  /-- `hard_pending_compaction_bytes_limit`. -/
  hardPendingCompactionBytesLimit : UInt64
  /-- `periodic_compaction_seconds`. -/
  periodicCompactionSeconds : UInt64
  /-- `use_direct_io_for_flush_and_compaction`. -/
  useDirectIoForFlushAndCompaction : Bool
  /-- `use_direct_reads`. -/
  useDirectReads : Bool
  /-- `table_factory`, made of table options. -/
  tableFactory : Option TableOptions
  /-- `compression`. -/
  compression : CompressionType
  /-- `comparator`. -/
  comparator : Comparator
  /-- `max_sequential_skip_in_iterations`. -/
  maxSequentialSkipInIterations : UInt64
  /-- `memtable_prefix_bloom_size_ratio`. -/
  memtablePrefixBloomSizeRatio : ℚ
  /-- `level0_slowdown_writes_trigger`. -/
  level0SlowdownWritesTrigger : Int32
  /-- `level0_stop_writes_trigger`. -/
  level0StopWritesTrigger : Int32
  /-- `paranoid_file_checks`. -/
  paranoidFileChecks : Bool
  /-- `optimize_filters_for_hits`. -/
  optimizeFiltersForHits : Bool
  /-- `inplace_update_support`. -/
  inplaceUpdateSupport : Bool
  /-- `inplace_update_num_locks`. -/
  inplaceUpdateNumLocks : UInt64
  /-- `report_bg_io_stats`. -/
  reportBgIoStats : Bool
  /-- `arena_block_size`. -/
  arenaBlockSize : UInt64
  /-- `env`. -/
  env : Env
  /-- Level of the statistics object. -/
  statsLevel : StatsLevel
  deriving DecidableEq, Inhabited, Repr

/-- `WriteOptions`. -/
structure WriteOptions where
  /-- `low_pri`. -/
  lowPri : Bool
  /-- `sync`. -/
  sync : Bool
  /-- `disableWAL`. -/
  disableWAL : Bool
  /-- `no_slowdown`. -/
  noSlowdown : Bool
  /-- `ignore_missing_column_families`. -/
  ignoreMissingColumnFamilies : Bool
  deriving DecidableEq, Inhabited, Repr

/-- `ReadOptions`. -/
structure ReadOptions where
  /-- `verify_checksums`. -/
  verifyChecksums : Bool
  /-- `fill_cache`. -/
  fillCache : Bool
  /-- `ignore_range_deletions`. -/
  ignoreRangeDeletions : Bool
  /-- `read_tier`. -/
  readTier : ReadTier
  deriving DecidableEq, Inhabited, Repr

/-- `FlushOptions`. -/
structure FlushOptions where
  /-- `wait`. -/
  wait : Bool
  /-- `allow_write_stall`. -/
  allowWriteStall : Bool
  deriving DecidableEq, Inhabited, Repr

/-- What RocksDB measures on the calling thread. -/
structure Profiling where
  /-- The level set by `SetPerfLevel`. -/
  perfLevel : PerfLevel
  /-- Whether the perf context counts by level. -/
  perLevelPerfContext : Bool
  /-- `disable_iostats`. -/
  disableIostats : Bool
  deriving DecidableEq, Inhabited, Repr

/-- Everything `configOptions` writes to. -/
structure Configuration where
  /-- `*options`. -/
  options : Options
  /-- `*table_options`. -/
  tableOptions : TableOptions
  /-- `*write_options`. -/
  writeOptions : WriteOptions
  /-- `*read_options`. -/
  readOptions : ReadOptions
  /-- `*flush_options`. -/
  flushOptions : FlushOptions
  /-- `env_internal`. -/
  envInternal : Env
  /-- State of RocksDB's measurements. -/
  profiling : Profiling
  /-- Text printed to `std::cerr`. -/
  cerr : Text
  deriving DecidableEq, Inhabited, Repr

/-! ## Switches -/

/-- What the program finds on the machine it runs on. -/
structure Surroundings where
  /-- `__FILE__` in `config_options.h`. -/
  file : Text
  /-- `Env::CreateFromUri`: what the status prints if it is not `OK`. -/
  createFromUri : Text → Option Text

/-- A `switch` whose cases assign one option. -/
structure Switch (α : Type*) where
  /-- The cases. -/
  choices : List (Nat × α)
  /-- Line of the error message. -/
  line : Nat
  /-- Text of the error message. -/
  message : Text

namespace Switch

variable {α : Type*} (cases : Switch α)

/-- The option after the `switch`. -/
def assign (value : Nat) (current : α) : α :=
  (cases.choices.lookup value).getD current

/-- What the `switch` prints. -/
def complain (file : Text) (value : Nat) : Text :=
  if (cases.choices.lookup value).isSome then []
  else "Error[".toList ++ file ++ " : ".toList ++ (toString cases.line).toList ++ "]: ".toList ++
    cases.message ++ ['\n']

end Switch

/-- The `switch` over `compaction_pri`. -/
def compactionPris : Switch CompactionPri where
  choices := [(0, .byCompensatedSize), (1, .oldestLargestSeqFirst), (2, .oldestSmallestSeqFirst),
    (3, .minOverlappingRatio), (4, .roundRobin)]
  line := 73
  message := "Invalid data movement policy!".toList

/-- The `switch` over `memtable_factory`. -/
def memtableFactories : Switch MemtableFactory where
  choices := [(1, .skipList), (2, .vectorRep), (3, .hashSkipListRep), (4, .hashLinkListRep)]
  line := 91
  message := "Invalid memtable factory!".toList

/-- The `switch` over `compaction_style`. -/
def compactionStyles : Switch CompactionStyle where
  choices := [(1, .level), (2, .universal), (3, .fifo), (4, .none)]
  line := 112
  message := "Invalid compaction eagerness!".toList

/-- The `switch` over `data_block_index_type`. -/
def dataBlockIndexTypes : Switch DataBlockIndexType where
  choices := [(1, .binarySearch), (2, .binaryAndHash)]
  line := 161
  message := "Invalid index type for data block!".toList

/-- The `switch` over `index_type`. -/
def indexTypes : Switch IndexType where
  choices := [(1, .binarySearch), (2, .hashSearch), (3, .twoLevelIndexSearch),
    (4, .binarySearchWithFirstKey)]
  line := 180
  message := "Invalid index type!".toList

/-- The `switch` over `index_shortening`. -/
def indexShortenings : Switch IndexShorteningMode where
  choices := [(1, .noShortening), (2, .shortenSeparators), (3, .shortenSeparatorsAndSuccessor)]
  line := 204
  message := "Invalid index shortening!".toList

/-- The `switch` over `compression`; case 9 is commented out. -/
def compressions : Switch CompressionType where
  choices := [(1, .noCompression), (2, .snappyCompression), (3, .zlibCompression),
    (4, .bzip2Compression), (5, .lz4Compression), (6, .lz4hcCompression),
    (7, .xpressCompression), (8, .zstd), (10, .disableCompressionOption)]
  line := 246
  message := "Invalid compression type!".toList

/-- The `switch` over `read_tier`. -/
def readTiers : Switch ReadTier where
  choices := [(1, .readAllTier), (2, .blockCacheTier), (3, .persistedTier), (4, .memtableTier)]
  line := 268
  message := "Invalid read tier!".toList

/-- The `switch` over `comparator`. -/
def comparators : Switch Comparator where
  choices := [(1, .bytewise), (2, .reverseBytewise)]
  line := 291
  message := "Invalid comparator!".toList

/-- What the switches print, in their order. -/
def DBEnv.complaints (env : DBEnv) (file : Text) : Text :=
  compactionPris.complain file env.compactionPri.toNat ++
  memtableFactories.complain file env.memtableFactory.toNat ++
  compactionStyles.complain file env.compactionStyle.toNat ++
  dataBlockIndexTypes.complain file env.dataBlockIndexType.toNat ++
  indexTypes.complain file env.indexType.toNat ++
  indexShortenings.complain file env.indexShortening.toNat ++
  compressions.complain file env.compression.toNat ++
  readTiers.complain file env.readTier.toNat ++
  comparators.complain file env.comparator.toNat

/-- The initial settings are among the cases of every `switch`. -/
theorem complaints_default (file : Text) : DBEnv.complaints {} file = [] := by
  rfl

/-! ## The translation -/

/-- How a function of the program ends. -/
inductive Outcome (α : Type*)
  | returned (result : α)
  /-- `exit` with a status, after printing a text. -/
  | exited (status : Nat) (printed : Text)
  /-- Undefined behaviour. -/
  | undefined
  deriving DecidableEq, Repr

namespace DBEnv

variable (env : DBEnv)

/-- `env->block_cache * 1024 * 1024`, formed in `int`. -/
def blockCacheTimesMB : Option Int32 :=
  (Integers.checked (env.blockCache.toInt * 1024)).bind fun product =>
    Integers.checked (product.toInt * 1024)

/-- The block cache of the table options: they keep the one they have if the size is zero. -/
def newBlockCache (current : Option LRUCache) : Option (Option LRUCache) :=
  if env.blockCache = 0 then some current
  else env.blockCacheTimesMB.map fun capacity =>
    some ⟨UInt64.ofInt capacity.toInt, -1, false, env.blockCacheHighPriorityRatio⟩

/-- The table options, with a block cache. -/
def tableOptions (table : TableOptions) (blockCache : Option LRUCache) : TableOptions where
  filterPolicy := if env.bitsPerKey = 0 then table.filterPolicy else some ⟨env.bitsPerKey, false⟩
  noBlockCache := env.blockCache = 0
  cacheIndexAndFilterBlocks :=
    if env.blockCache = 0 then false else env.cacheIndexAndFilterBlocks
  blockCache := blockCache
  readAmpBytesPerBit := UInt32.ofInt env.readAmpBytesPerBit.toInt
  dataBlockIndexType :=
    dataBlockIndexTypes.assign env.dataBlockIndexType.toNat table.dataBlockIndexType
  indexType := indexTypes.assign env.indexType.toNat table.indexType
  partitionFilters := env.partitionFilters
  blockSize := env.getBlockSize
  metadataBlockSize := env.metadataBlockSize
  pinTopLevelIndexAndFilter := env.pinTopLevelIndexAndFilter
  indexShortening := indexShortenings.assign env.indexShortening.toNat table.indexShortening
  blockSizeDeviation := env.blockSizeDeviation
  enableIndexCompression := env.enableIndexCompression

/-- The options, with table options and an environment. The trigger and the number of levels are
left alone under universal compaction. -/
def options (options : Options) (table : TableOptions) (envInternal : Env) : Options :=
  let style := compactionStyles.assign env.compactionStyle.toNat options.compactionStyle
  { createIfMissing := env.createIfMissing
    maxOpenFiles := env.maxOpenFiles
    maxFileOpeningThreads := env.maxFileOpeningThreads
    bytesPerSync := UInt64.ofInt env.bytesPerSync.toInt
    enableThreadTracking := env.enableThreadTracking
    allowConcurrentMemtableWrite := env.allowConcurrentMemtableWrite
    statsHistoryBufferSize := env.statsHistoryBufferSize
    dumpMallocStats := env.dumpMallocStats
    avoidFlushDuringShutdown := env.avoidFlushDuringShutdown
    adviseRandomOnOpen := env.adviseRandomOnOpen
    deleteObsoleteFilesPeriodMicros := env.deleteObsoleteFilesPeriodMicros
    allowMmapReads := env.allowMmapReads
    allowMmapWrites := env.allowMmapWrites
    maxBytesForLevelMultiplier := env.sizeRatio
    writeBufferSize := env.getBufferSize
    targetFileSizeBase := env.getTargetFileSizeBase.toUInt64
    maxBytesForLevelBase := env.getMaxBytesForLevelBase
    maxWriteBufferNumber := env.maxWriteBufferNumber
    compactionPri := compactionPris.assign env.compactionPri.toNat options.compactionPri
    memtableFactory :=
      memtableFactories.assign env.memtableFactory.toNat options.memtableFactory
    levelCompactionDynamicLevelBytes := env.levelCompactionDynamicLevelBytes
    compactionStyle := style
    disableAutoCompactions := env.disableAutoCompactions
    level0FileNumCompactionTrigger :=
      if style ≠ .universal then env.level0FileNumCompactionTrigger
      else options.level0FileNumCompactionTrigger
    numLevels := if style ≠ .universal then env.numLevels else options.numLevels
    targetFileSizeMultiplier := env.targetFileSizeMultiplier
    maxBackgroundJobs := env.maxBackgroundJobs
    softPendingCompactionBytesLimit := UInt64.ofInt env.softPendingCompactionBytesLimit.toInt
    hardPendingCompactionBytesLimit := UInt64.ofInt env.hardPendingCompactionBytesLimit.toInt
    periodicCompactionSeconds := env.periodicCompactionSeconds
    useDirectIoForFlushAndCompaction := env.useDirectIoForFlushAndCompaction
    useDirectReads := env.useDirectReads
    tableFactory := some table
    compression := compressions.assign env.compression.toNat options.compression
    comparator := comparators.assign env.comparator.toNat options.comparator
    maxSequentialSkipInIterations := env.maxSequentialSkipInIterations
    memtablePrefixBloomSizeRatio := env.memtablePrefixBloomSizeRatio
    level0SlowdownWritesTrigger := env.level0SlowdownWritesTrigger
    level0StopWritesTrigger := env.level0StopWritesTrigger
    paranoidFileChecks := env.paranoidFileChecks
    optimizeFiltersForHits := env.optimizeFiltersForHits
    inplaceUpdateSupport := env.inplaceUpdateSupport
    inplaceUpdateNumLocks := env.inplaceUpdateNumLocks
    reportBgIoStats := env.reportBgIoStats
    arenaBlockSize := env.getBlockSize
    env := envInternal
    statsLevel := if env.rocksdbStats then .all else .disableAll }

/-- The write options. -/
def writeOptions : WriteOptions where
  lowPri := env.lowPri
  sync := env.sync
  disableWAL := env.disableWAL
  noSlowdown := env.noSlowdown
  ignoreMissingColumnFamilies := env.ignoreMissingColumnFamilies

/-- The read options. -/
def readOptions (read : ReadOptions) : ReadOptions where
  verifyChecksums := env.verifyChecksums
  fillCache := env.fillCache
  ignoreRangeDeletions := env.ignoreRangeDeletions
  readTier := readTiers.assign env.readTier.toNat read.readTier

/-- The flush options. -/
def flushOptions : FlushOptions where
  wait := env.wait
  allowWriteStall := env.allowWriteStall

/-- The measurements; the I/O statistics are only ever disabled. -/
def profiling (profiling : Profiling) : Profiling where
  perfLevel :=
    if env.perfStats then .enableTimeAndCPUTimeExceptForMutex
    else if env.iostatStats then .enableCount
    else .disable
  perLevelPerfContext := env.perfStats
  disableIostats := if env.iostatStats then profiling.disableIostats else true

/-- `env_internal` after a file system is created from the URI, if there is one, or what the status
prints if it cannot be created. -/
def environment (around : Surroundings) (envInternal : Env) : Except Text Env :=
  if env.fsUri = [] then .ok envInternal
  else
    match around.createFromUri env.fsUri with
    | none => .ok (.fromUri env.fsUri)
    | some text => .error text

/-- The settings, of which `no_block_cache` is written, and the objects once there are a block cache
and an environment. -/
def configured (around : Surroundings) (config : Configuration) (blockCache : Option LRUCache)
    (envInternal : Env) : DBEnv × Configuration :=
  let table := env.tableOptions config.tableOptions blockCache
  ({ env with noBlockCache := table.noBlockCache },
    { options := env.options config.options table envInternal
      tableOptions := table
      writeOptions := env.writeOptions
      readOptions := env.readOptions config.readOptions
      flushOptions := env.flushOptions
      envInternal := envInternal
      profiling := env.profiling config.profiling
      cerr := config.cerr ++ env.complaints around.file })

end DBEnv

/-- `configOptions`: the settings and the objects it leaves. A block cache too large for `int` is
undefined behaviour, and a file system that cannot be created ends the program. -/
def configOptions (around : Surroundings) (env : DBEnv) (config : Configuration) :
    Outcome (DBEnv × Configuration) :=
  match env.newBlockCache config.tableOptions.blockCache with
  | none => .undefined
  | some blockCache =>
    match env.environment around config.envInternal with
    | .error text => .exited 1 (config.cerr ++ env.complaints around.file ++ text ++ ['\n'])
    | .ok envInternal => .returned (env.configured around config blockCache envInternal)

end RocksDBWrapper.Config
