import RocksDBWrapper.Foundation.Integers
import RocksDBWrapper.Foundation.Streams

/-!
# The run-time settings

`DBEnv` holds every setting of a run with the type it has in `db_env.h`: `unsigned int` is 32 bits
wide, `size_t` and `long` are 64 bits wide. A `double` is a rational: the ones of the program are
its constants and numbers of type `int`, which a double holds exactly. The initial values are those
of the source, which a fresh object has.
-/

namespace RocksDBWrapper.Config

open Streams

/-! ## Defaults -/

namespace Default

/-- `ENTRY_SIZE`. -/
def entrySize : UInt32 := 64

/-- `ENTRIES_PER_PAGE`. -/
def entriesPerPage : UInt32 := 64

/-- `BUFFER_SIZE_IN_PAGES`. -/
def bufferSizeInPages : UInt32 := 128

/-- `SIZE_RATIO`. -/
def sizeRatio : ℚ := 4

/-- `FILE_TO_MEMTABLE_SIZE_RATIO`. -/
def fileToMemtableSizeRatio : UInt32 := 1

/-- `MAX_WRITE_BUFFER_NUMBER`. -/
def maxWriteBufferNumber : Int32 := 2

/-- `LEVEL0_FILE_NUM_COMPACTION_TRIGGER`, the size ratio as an `int`. -/
def level0FileNumCompactionTrigger : Int32 := 4

/-- `MAX_OPEN_FILES`. -/
def maxOpenFiles : Int32 := 1000

/-- `MAX_FILE_OPENING_THREADS`. -/
def maxFileOpeningThreads : Int32 := 1000

end Default

/-! ## Settings -/

/-- The settings of a run. -/
structure DBEnv where
  /-- Buffer size in bytes; zero leaves it to the three factors. -/
  bufferSize : UInt64 := 0
  /-- `rocksdb_stats_`. -/
  rocksdbStats : Bool := true
  /-- `perf_stats_`. -/
  perfStats : Bool := true
  /-- `iostat_stats_`. -/
  iostatStats : Bool := true
  /-- `destroy_database_`. -/
  destroyDatabase : Bool := false
  /-- `show_progress_bar_`. -/
  showProgressBar : Bool := true
  /-- `is_per_op_timer`. -/
  isPerOpTimer : Bool := false
  /-- `is_total_timer`. -/
  isTotalTimer : Bool := false
  /-- `create_if_missing`. -/
  createIfMissing : Bool := true
  /-- `clear_system_cache`. -/
  clearSystemCache : Bool := true
  /-- `files_in_l0`. -/
  filesInL0 : UInt64 := 4
  /-- `max_open_files`. -/
  maxOpenFiles : Int32 := Default.maxOpenFiles
  /-- `max_file_opening_threads`. -/
  maxFileOpeningThreads : Int32 := Default.maxFileOpeningThreads
  /-- `bytes_per_sync`. -/
  bytesPerSync : Int32 := 0
  /-- `enable_thread_tracking`. -/
  enableThreadTracking : Bool := false
  /-- `allow_concurrent_memtable_write`. -/
  allowConcurrentMemtableWrite : Bool := false
  /-- `stats_history_buffer_size`. -/
  statsHistoryBufferSize : UInt64 := 1024 * 1024
  /-- `dump_malloc_stats`. -/
  dumpMallocStats : Bool := false
  /-- `avoid_flush_during_shutdown`. -/
  avoidFlushDuringShutdown : Bool := false
  /-- `advise_random_on_open`. -/
  adviseRandomOnOpen : Bool := true
  /-- `delete_obsolete_files_period_micros`, six hours. -/
  deleteObsoleteFilesPeriodMicros : UInt64 := 6 * 60 * 60 * 1000000
  /-- `allow_mmap_reads`. -/
  allowMmapReads : Bool := false
  /-- `allow_mmap_writes`. -/
  allowMmapWrites : Bool := false
  /-- `verbosity`. -/
  verbosity : Int32 := 0
  /-- `fs_uri`. -/
  fsUri : Text := []
  /-- `entry_size` (E), in bytes. -/
  entrySize : UInt32 := Default.entrySize
  /-- `entries_per_page` (B). -/
  entriesPerPage : UInt32 := Default.entriesPerPage
  /-- `buffer_size_in_pages` (P). -/
  bufferSizeInPages : UInt32 := Default.bufferSizeInPages
  /-- `size_ratio` (T). -/
  sizeRatio : ℚ := Default.sizeRatio
  /-- `file_to_memtable_size_ratio` (f). -/
  fileToMemtableSizeRatio : UInt32 := Default.fileToMemtableSizeRatio
  /-- `max_write_buffer_number`. -/
  maxWriteBufferNumber : Int32 := Default.maxWriteBufferNumber
  /-- `bits_per_key`. -/
  bitsPerKey : ℚ := 10
  /-- `compaction_pri`. -/
  compactionPri : UInt16 := 1
  /-- `memtable_factory`. -/
  memtableFactory : UInt16 := 1
  /-- `level_compaction_dynamic_level_bytes`. -/
  levelCompactionDynamicLevelBytes : Bool := false
  /-- `compaction_style`. -/
  compactionStyle : UInt64 := 1
  /-- `disable_auto_compactions`. -/
  disableAutoCompactions : Bool := false
  /-- `level0_file_num_compaction_trigger`. -/
  level0FileNumCompactionTrigger : Int32 := Default.level0FileNumCompactionTrigger
  /-- `num_levels`. -/
  numLevels : Int32 := 10
  /-- `target_file_size_multiplier`. -/
  targetFileSizeMultiplier : Int32 := 1
  /-- `max_background_jobs`. -/
  maxBackgroundJobs : Int32 := 1
  /-- `soft_pending_compaction_bytes_limit`. -/
  softPendingCompactionBytesLimit : Int32 := 0
  /-- `hard_pending_compaction_bytes_limit`. -/
  hardPendingCompactionBytesLimit : Int32 := 0
  /-- `periodic_compaction_seconds`. -/
  periodicCompactionSeconds : UInt64 := 0
  /-- `use_direct_io_for_flush_and_compaction`. -/
  useDirectIoForFlushAndCompaction : Bool := true
  /-- `use_direct_reads`. -/
  useDirectReads : Bool := true
  /-- `no_block_cache`. -/
  noBlockCache : Bool := false
  /-- `block_cache`, in megabytes. -/
  blockCache : Int32 := 0
  /-- `block_cache_high_priority_ratio`. -/
  blockCacheHighPriorityRatio : ℚ := 1 / 2
  /-- `cache_index_and_filter_blocks`. -/
  cacheIndexAndFilterBlocks : Bool := true
  /-- `read_amp_bytes_per_bit`. -/
  readAmpBytesPerBit : Int32 := 0
  /-- `data_block_index_type`. -/
  dataBlockIndexType : UInt16 := 1
  /-- `index_type`. -/
  indexType : UInt16 := 1
  /-- `partition_filters`. -/
  partitionFilters : Bool := false
  /-- `metadata_block_size`. -/
  metadataBlockSize : UInt64 := 4096
  /-- `pin_top_level_index_and_filter`. -/
  pinTopLevelIndexAndFilter : Bool := false
  /-- `index_shortening`. -/
  indexShortening : UInt16 := 1
  /-- `block_size_deviation`. -/
  blockSizeDeviation : Int32 := 0
  /-- `enable_index_compression`. -/
  enableIndexCompression : Bool := false
  /-- `compression`. -/
  compression : UInt16 := 1
  /-- `verify_checksums`. -/
  verifyChecksums : Bool := true
  /-- `fill_cache`. -/
  fillCache : Bool := false
  /-- `ignore_range_deletions`. -/
  ignoreRangeDeletions : Bool := false
  /-- `read_tier`. -/
  readTier : UInt16 := 1
  /-- `low_pri`. -/
  lowPri : Bool := false
  /-- `sync`. -/
  sync : Bool := false
  /-- `disableWAL`. -/
  disableWAL : Bool := false
  /-- `no_slowdown`. -/
  noSlowdown : Bool := false
  /-- `ignore_missing_column_families`. -/
  ignoreMissingColumnFamilies : Bool := false
  /-- `comparator`. -/
  comparator : UInt16 := 1
  /-- `max_sequential_skip_in_iterations`. -/
  maxSequentialSkipInIterations : UInt64 := 8
  /-- `memtable_prefix_bloom_size_ratio`. -/
  memtablePrefixBloomSizeRatio : ℚ := 0
  /-- `level0_slowdown_writes_trigger`, one below the size ratio. -/
  level0SlowdownWritesTrigger : Int32 := 3
  /-- `level0_stop_writes_trigger`, the size ratio. -/
  level0StopWritesTrigger : Int32 := 4
  /-- `paranoid_file_checks`. -/
  paranoidFileChecks : Bool := false
  /-- `optimize_filters_for_hits`. -/
  optimizeFiltersForHits : Bool := false
  /-- `inplace_update_support`. -/
  inplaceUpdateSupport : Bool := false
  /-- `inplace_update_num_locks`. -/
  inplaceUpdateNumLocks : UInt64 := 10000
  /-- `report_bg_io_stats`. -/
  reportBgIoStats : Bool := true
  /-- `wait`. -/
  wait : Bool := true
  /-- `allow_write_stall`. -/
  allowWriteStall : Bool := true
  deriving DecidableEq, Repr

namespace DBEnv

variable (env : DBEnv)

/-! ## Sizes -/

/-- `GetBlockSize`: the product is formed in `unsigned int` and widened to `uint64_t`. -/
def getBlockSize : UInt64 :=
  (env.entriesPerPage * env.entrySize).toUInt64

/-- `GetBufferSize`: the product is formed in `unsigned int` and widened to `size_t`. -/
def getBufferSize : UInt64 :=
  if env.bufferSize ≠ 0 then env.bufferSize
  else (env.bufferSizeInPages * env.entriesPerPage * env.entrySize).toUInt64

/-- `GetTargetFileSizeBase`: the buffer size as a `long`. -/
def getTargetFileSizeBase : Int64 :=
  env.getBufferSize.toInt64

/-- `GetMaxBytesForLevelBase`: the `long` is converted to `uint64_t` for the product. -/
def getMaxBytesForLevelBase : UInt64 :=
  env.filesInL0 * env.getTargetFileSizeBase.toUInt64

/-- As a `uint64_t`, the target size of a file is the buffer size. -/
theorem toUInt64_getTargetFileSizeBase :
    env.getTargetFileSizeBase.toUInt64 = env.getBufferSize :=
  UInt64.toUInt64_toInt64 env.getBufferSize

/-- The size of a block is exact exactly when the product fits in `unsigned int`. -/
theorem getBlockSize_eq_iff :
    env.getBlockSize.toNat = env.entriesPerPage.toNat * env.entrySize.toNat ↔
      env.entriesPerPage.toNat * env.entrySize.toNat < 2 ^ 32 := by
  rw [getBlockSize, UInt32.toNat_toUInt64]
  exact Integers.toNat_uint32_mul_eq_iff env.entriesPerPage env.entrySize

/-- Without an explicit size, the size of a buffer is exact exactly when the product fits in
`unsigned int`. -/
theorem getBufferSize_eq_iff (implicit : env.bufferSize = 0) :
    env.getBufferSize.toNat =
        env.bufferSizeInPages.toNat * env.entriesPerPage.toNat * env.entrySize.toNat ↔
      env.bufferSizeInPages.toNat * env.entriesPerPage.toNat * env.entrySize.toNat < 2 ^ 32 := by
  rw [getBufferSize, if_neg (not_not_intro implicit), UInt32.toNat_toUInt64]
  exact Integers.toNat_uint32_mul_mul_eq_iff env.bufferSizeInPages env.entriesPerPage
    env.entrySize

/-- The size of level 1 is exact as long as the product of the buffer size fits in `uint64_t`. -/
theorem getMaxBytesForLevelBase_eq (fits : env.filesInL0.toNat * env.getBufferSize.toNat < 2 ^ 64) :
    env.getMaxBytesForLevelBase.toNat = env.filesInL0.toNat * env.getBufferSize.toNat := by
  rw [getMaxBytesForLevelBase, toUInt64_getTargetFileSizeBase, UInt64.toNat_mul,
    Nat.mod_eq_of_lt fits]

end DBEnv

end RocksDBWrapper.Config
