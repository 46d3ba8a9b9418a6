import RocksDBWrapper.Config.Options

/-!
# The sizes handed to RocksDB

The products behind the sizes of buffers, files, levels and blocks are formed in 32 bits and
widened afterwards, and the capacity of the block cache is formed in `int`. They are the products
of the settings exactly when those fit.
-/

namespace RocksDBWrapper.Config

namespace DBEnv

variable (env : DBEnv)

/-- The number of bytes in a block, `B * E`. -/
def blockBytes : ℕ :=
  env.entriesPerPage.toNat * env.entrySize.toNat

/-- The number of bytes in a buffer, `P * B * E`. -/
def bufferBytes : ℕ :=
  env.bufferSizeInPages.toNat * env.entriesPerPage.toNat * env.entrySize.toNat

/-- The number of bytes in level 1, `n * P * B * E`. -/
def levelBytes : ℕ :=
  env.filesInL0.toNat * env.bufferBytes

/-- The sizes of a configuration are the products of the settings. -/
structure ExactSizes (config : Configuration) : Prop where
  /-- A buffer holds its pages. -/
  writeBuffer : config.options.writeBufferSize.toNat = env.bufferBytes
  /-- A file is as large as a buffer. -/
  targetFile : config.options.targetFileSizeBase.toNat = env.bufferBytes
  /-- Level 1 holds the files of L0. -/
  maxBytes : config.options.maxBytesForLevelBase.toNat = env.levelBytes
  /-- A block of a table holds its entries. -/
  block : config.tableOptions.blockSize.toNat = env.blockBytes
  /-- So does a block of the arena. -/
  arenaBlock : config.options.arenaBlockSize.toNat = env.blockBytes
  /-- A block cache has its megabytes. -/
  blockCache : 0 < env.blockCache.toInt →
    ∃ cache, config.tableOptions.blockCache = some cache ∧
      (cache.capacity.toNat : ℤ) = env.blockCache.toInt * 2 ^ 20

/-- The capacity of the block cache, as the `int` it is formed in. -/
theorem blockCacheTimesMB_eq_some_iff (capacity : Int32) :
    env.blockCacheTimesMB = some capacity ↔ capacity.toInt = env.blockCache.toInt * 2 ^ 20 := by
  rw [blockCacheTimesMB, Option.bind_eq_some_iff]
  constructor
  · intro formed
    have ⟨product, kilobytes, bytes⟩ := formed
    rw [Integers.checked_eq_some_iff] at kilobytes bytes
    omega
  · intro exact
    have lower := Int32.le_toInt capacity
    have upper := Int32.toInt_lt capacity
    have fits : (Integers.checked (env.blockCache.toInt * 1024)).isSome :=
      (Integers.isSome_checked _).mpr (by omega)
    have ⟨product, kilobytes⟩ := Option.isSome_iff_exists.mp fits
    have value := (Integers.checked_eq_some_iff _ _).mp kilobytes
    exact ⟨product, kilobytes, (Integers.checked_eq_some_iff _ _).mpr (by omega)⟩

/-- The capacity of a block cache that is not negative can be formed below two gigabytes. -/
theorem isSome_blockCacheTimesMB (nonneg : 0 ≤ env.blockCache.toInt) :
    env.blockCacheTimesMB.isSome ↔ env.blockCache.toInt < 2048 := by
  constructor
  · intro formed
    have ⟨capacity, value⟩ := Option.isSome_iff_exists.mp formed
    have exact := (env.blockCacheTimesMB_eq_some_iff capacity).mp value
    have upper := Int32.toInt_lt capacity
    omega
  · intro small
    have fits : (Integers.checked (env.blockCache.toInt * 2 ^ 20)).isSome :=
      (Integers.isSome_checked _).mpr (by omega)
    have ⟨capacity, value⟩ := Option.isSome_iff_exists.mp fits
    have exact := (Integers.checked_eq_some_iff _ capacity).mp value
    exact Option.isSome_iff_exists.mpr
      ⟨capacity, (env.blockCacheTimesMB_eq_some_iff capacity).mpr exact⟩

/-- A capacity that can be formed is the capacity of the new cache. -/
theorem newBlockCache_exact {current next : Option LRUCache}
    (formed : env.newBlockCache current = some next) (positive : 0 < env.blockCache.toInt) :
    ∃ cache, next = some cache ∧
      (cache.capacity.toNat : ℤ) = env.blockCache.toInt * 2 ^ 20 := by
  have nonzero : env.blockCache ≠ 0 := by
    intro zero
    rw [zero] at positive
    cases positive
  rw [newBlockCache, if_neg nonzero, Option.map_eq_some_iff] at formed
  have ⟨capacity, value, new⟩ := formed
  have exact := (env.blockCacheTimesMB_eq_some_iff capacity).mp value
  have upper := Int32.toInt_lt capacity
  have stored := Integers.toNat_uint64_ofInt capacity.toInt
  refine ⟨_, new.symm, ?_⟩
  dsimp only
  omega

/-- There is a new block cache, or none is wanted, exactly below two gigabytes. -/
theorem isSome_newBlockCache (current : Option LRUCache) (nonneg : 0 ≤ env.blockCache.toInt) :
    (env.newBlockCache current).isSome ↔ env.blockCache.toInt < 2048 := by
  rw [newBlockCache]
  split
  case isTrue zero =>
    rw [zero]
    exact iff_of_true rfl (by decide)
  case isFalse nonzero =>
    rw [Option.isSome_map]
    exact env.isSome_blockCacheTimesMB nonneg

end DBEnv

/-- The file system is the default one, or can be created. -/
def DBEnv.HasEnvironment (env : DBEnv) (around : Surroundings) : Prop :=
  env.fsUri = [] ∨ around.createFromUri env.fsUri = none

/-- The translation returns what it makes of a block cache and an environment. -/
theorem configOptions_returned {around : Surroundings} {env : DBEnv} {config : Configuration}
    {result : DBEnv × Configuration}
    (returned : configOptions around env config = .returned result) :
    ∃ blockCache envInternal,
      env.newBlockCache config.tableOptions.blockCache = some blockCache ∧
        result = env.configured around config blockCache envInternal := by
  rw [configOptions] at returned
  split at returned
  case h_1 => cases returned
  case h_2 blockCache formed =>
    split at returned
    case h_1 => cases returned
    case h_2 envInternal created =>
      exact ⟨blockCache, envInternal, formed, (Outcome.returned.inj returned).symm⟩

/-- With an environment, the translation returns once there is a block cache. -/
theorem configOptions_eq {around : Surroundings} {env : DBEnv} (config : Configuration)
    (created : env.HasEnvironment around) {blockCache : Option LRUCache}
    (formed : env.newBlockCache config.tableOptions.blockCache = some blockCache) :
    ∃ envInternal, configOptions around env config =
      .returned (env.configured around config blockCache envInternal) := by
  have ⟨envInternal, found⟩ : ∃ envInternal,
      env.environment around config.envInternal = .ok envInternal := by
    rw [DBEnv.environment]
    split
    case isTrue => exact ⟨_, rfl⟩
    case isFalse uri => exact ⟨_, by rw [created.resolve_left uri]⟩
  exact ⟨envInternal, by rw [configOptions, formed, found]⟩

/-- The sizes after the translation are the products of the settings exactly when the products of
the buffer and the block fit in 32 bits and the block cache is below two gigabytes. -/
theorem sizes_exact_iff (around : Surroundings) (env : DBEnv) (config : Configuration)
    (implicit : env.bufferSize = 0) (nonneg : 0 ≤ env.blockCache.toInt)
    (fits : env.levelBytes < 2 ^ 63) (created : env.HasEnvironment around) :
    (∃ last final, configOptions around env config = .returned (last, final) ∧
        env.ExactSizes final) ↔
      env.bufferBytes < 2 ^ 32 ∧ env.blockBytes < 2 ^ 32 ∧ env.blockCache.toInt < 2048 := by
  constructor
  · intro translated
    have ⟨last, final, returned, sizes⟩ := translated
    have ⟨blockCache, envInternal, formed, result⟩ := configOptions_returned returned
    cases result
    refine ⟨?_, ?_, ?_⟩
    · exact (env.getBufferSize_eq_iff implicit).mp sizes.writeBuffer
    · exact env.getBlockSize_eq_iff.mp sizes.block
    · exact (env.isSome_newBlockCache _ nonneg).mp (Option.isSome_iff_exists.mpr ⟨_, formed⟩)
  · intro small
    have ⟨buffer, block, cache⟩ := small
    have ⟨blockCache, formed⟩ :=
      Option.isSome_iff_exists.mp ((env.isSome_newBlockCache config.tableOptions.blockCache
        nonneg).mpr cache)
    have ⟨envInternal, returned⟩ := configOptions_eq config created formed
    have bufferSize := (env.getBufferSize_eq_iff implicit).mpr buffer
    have blockSize := env.getBlockSize_eq_iff.mpr block
    refine ⟨_, _, returned, ?_⟩
    exact {
      writeBuffer := bufferSize
      targetFile := (congrArg UInt64.toNat env.toUInt64_getTargetFileSizeBase).trans bufferSize
      maxBytes := by
        have level : env.filesInL0.toNat * env.getBufferSize.toNat = env.levelBytes :=
          congrArg _ bufferSize
        exact (env.getMaxBytesForLevelBase_eq (by omega)).trans level
      block := blockSize
      arenaBlock := blockSize
      blockCache := env.newBlockCache_exact formed }

/-- Settings whose buffer has a gigabyte. -/
theorem sizes_exact_gigabyte : ∃ last final,
    configOptions ⟨[], fun _ => none⟩ { bufferSizeInPages := 262144, blockCache := 8 } default =
        .returned (last, final) ∧
      DBEnv.ExactSizes { bufferSizeInPages := 262144, blockCache := 8 } final :=
  (sizes_exact_iff ⟨[], fun _ => none⟩ { bufferSizeInPages := 262144, blockCache := 8 } default rfl
    (by decide) (by decide) (Or.inl rfl)).mpr ⟨by decide, by decide, by decide⟩

/-- A buffer of four gigabytes is configured with size zero. -/
theorem four_gigabytes_wrap :
    ∃ (around : Surroundings) (env : DBEnv) (config : Configuration),
      env.bufferSize = 0 ∧ 0 ≤ env.blockCache.toInt ∧ env.levelBytes < 2 ^ 63 ∧
        env.HasEnvironment around ∧
        ¬ ∃ last final, configOptions around env config = .returned (last, final) ∧
          env.ExactSizes final := by
  refine ⟨⟨[], fun _ => none⟩, { bufferSizeInPages := 1048576 }, default, rfl, by decide,
    by decide, Or.inl rfl, ?_⟩
  intro translated
  have ⟨last, final, returned, sizes⟩ := translated
  have ⟨blockCache, envInternal, formed, result⟩ := configOptions_returned returned
  cases result
  have wrapped : ({ bufferSizeInPages := 1048576 } : DBEnv).getBufferSize.toNat ≠
      ({ bufferSizeInPages := 1048576 } : DBEnv).bufferBytes := by decide
  exact wrapped sizes.writeBuffer

end RocksDBWrapper.Config
