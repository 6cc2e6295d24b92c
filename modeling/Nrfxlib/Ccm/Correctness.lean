import Nrfxlib.Ccm.Blocks

/-!
# Correctness of the ECB back end

The state machine goes once through the blocks of the authenticated data, twice
through the blocks of the plain text and then encrypts the tag.  At each block it
holds the CBC-MAC of the blocks before, or the encrypted text of the blocks before.
-/

namespace Nrfxlib.AesCcm

open Lib

/-- A transformation at the start of its loop: the header is in the work buffer. -/
structure Job where
  encrypt : Block → Block → Block
  data : AesCcmData
  memory : Memory
  work : Nat
  cipher : Nat
  micLevel : 1 ≤ data.micLevel.toNat ∧ data.micLevel.toNat ≤ 3
  short : (memory work).toNat ≤ 127
  tiles : data.authDataLen.toNat + data.plainTextDataLen.toNat + (micSize data.micLevel).toNat + 2 =
    (memory work).toNat
  authApart : data.authDataLen.toNat = 0 ∨ data.authData + data.authDataLen.toNat ≤ work ∨
    work + 128 ≤ data.authData
  plainApart : data.plainTextDataLen.toNat = 0 ∨
    data.plainTextData + data.plainTextDataLen.toNat ≤ work ∨ work + 128 ≤ data.plainTextData
  located : data.plainTextDataLen.toNat = 0 ∨ cipher = work + 1 + data.authDataLen.toNat

namespace Job

variable (job : Job)

def size : Nat := (micSize job.data.micLevel).toNat

def authOctets : List UInt8 := Ccm.addAuthData (authData job.memory job.data)

def plainOctets : List UInt8 := plainText job.memory job.data

def plainCount : Nat := Ccm.blockCount job.data.plainTextDataLen.toNat

/-- The first block that is authenticated. -/
def firstBlock : Block :=
  Ccm.nonceBlock (Ccm.authFlags job.size (authData job.memory job.data)) job.data.nonce
    job.data.plainTextDataLen.toNat

def mac (blocks : List Block) : Block :=
  Ccm.cbcMac (job.encrypt job.data.key) (job.firstBlock :: blocks)

def tagBlock : Block := job.mac (Ccm.blocks job.authOctets ++ Ccm.blocks job.plainOctets)

/-- The octets of the first blocks of the encrypted text. -/
def cipherOctets (count : Nat) : List UInt8 :=
  (Ccm.cipherBlocks (job.encrypt job.data.key) job.data.nonce job.plainOctets count).take
    job.data.plainTextDataLen.toNat

/-- The memory when the first blocks of the plain text are encrypted. -/
def memoryAt (count : Nat) : Memory := job.memory.write job.cipher (job.cipherOctets count)

/-! ## The buffers -/

theorem length_cipherOctets_le (count : Nat) :
    (job.cipherOctets count).length ≤ job.data.plainTextDataLen.toNat := by
  simp only [cipherOctets, List.length_take]
  exact Nat.min_le_left _ _

theorem cipherOctets_of_empty (empty : job.data.plainTextDataLen.toNat = 0) (count : Nat) :
    job.cipherOctets count = [] := by
  simp [cipherOctets, empty]

/-- Writing the encrypted text does not touch other buffers. -/
theorem read_memoryAt {start length : Nat}
    (apart : start + length ≤ job.work ∨ job.work + 128 ≤ start) (count : Nat) :
    (job.memoryAt count).read start length = job.memory.read start length := by
  rcases job.located with empty | located
  · rw [memoryAt, job.cipherOctets_of_empty empty, Memory.write_nil]
  · have bound := job.length_cipherOctets_le count
    have tiles := job.tiles
    have short := job.short
    apply Memory.read_write_of_disjoint
    omega

theorem authData_memoryAt (count : Nat) :
    authData (job.memoryAt count) job.data = authData job.memory job.data := by
  rcases job.authApart with empty | apart
  · simp [authData, empty, Memory.read]
  · exact job.read_memoryAt apart count

theorem plainText_memoryAt (count : Nat) :
    plainText (job.memoryAt count) job.data = job.plainOctets := by
  rcases job.plainApart with empty | apart
  · simp [plainText, plainOctets, empty, Memory.read]
  · exact job.read_memoryAt apart count

theorem phr_memoryAt (count : Nat) : job.memoryAt count job.work = job.memory job.work := by
  rcases job.located with empty | located
  · rw [memoryAt, job.cipherOctets_of_empty empty, Memory.write_nil]
  · apply Memory.write_of_outside
    omega

/-! ## The phases -/

/-- Where the state machine stands when a block is given to the peripheral. -/
inductive Phase where
  | authData (count : Nat)
  | plainTextAuth (count : Nat)
  | plainTextEncrypt (count : Nat)
  | encryptedTag

/-- What does not change in the loop, and the memory. -/
structure Underway (count : Nat) (state : State) : Prop where
  data : state.aesCcmData = job.data
  key : state.ecbKey = job.data.key
  workBuffer : state.workBuffer = job.work
  cipherText : state.cipherText = job.cipher
  memory : state.memory = job.memoryAt count

/-- The tag is ready for its encryption. -/
def Tagged (state : State) : Prop := ∀ octet : Fin 16, octet.val < job.size →
  state.authTag octet = job.tagBlock octet

/-- The blocks before the current one are done. -/
def At (state : State) : Phase → Prop
  | .authData count =>
      job.Underway 0 state ∧ state.transformation = .addAuthDataAuth ∧
        state.iteration.toNat = count ∧ count ≤ authCount job.data ∧
        job.encrypt job.data.key state.ecbClearText =
          job.mac (Ccm.leadingBlocks job.authOctets count)
  | .plainTextAuth count =>
      job.Underway 0 state ∧ state.transformation = .plainTextAuth ∧
        state.iteration.toNat = count ∧ count ≤ job.plainCount ∧
        job.encrypt job.data.key state.ecbClearText =
          job.mac (Ccm.blocks job.authOctets ++ Ccm.leadingBlocks job.plainOctets count)
  | .plainTextEncrypt count =>
      job.Underway count state ∧ state.transformation = .plainTextEncrypt ∧
        state.iteration.toNat = count + 1 ∧ count < job.plainCount ∧
        state.ecbClearText = Ccm.nonceBlock 1 job.data.nonce (count + 1) ∧
        state.m = Block.ofOctets job.plainOctets count ∧ job.Tagged state
  | .encryptedTag =>
      job.Underway job.plainCount state ∧ state.transformation = .calculateEncryptedTag ∧
        state.ecbClearText = Ccm.nonceBlock 1 job.data.nonce 0 ∧ job.Tagged state

/-- The number of blocks behind the current one. -/
def left : Phase → Nat
  | .authData count => authCount job.data - count + job.plainCount + job.plainCount + 1
  | .plainTextAuth count => job.plainCount - count + job.plainCount + 1
  | .plainTextEncrypt count => job.plainCount - count
  | .encryptedTag => 0

/-- The transformation is done. -/
structure Finished (state : State) : Prop where
  stopped : state.ecbReqRun = false
  secured : state.isSecured = true
  memory : state.memory = (job.memoryAt job.plainCount).write
    (job.work + 1 + job.data.authDataLen.toNat + job.data.plainTextDataLen.toNat)
    ((job.tagBlock.xor
      (Ccm.keyStream (job.encrypt job.data.key) job.data.nonce 0)).toList.take job.size)

theorem plainCount_le : job.plainCount ≤ 8 := by
  have tiles := job.tiles
  have short := job.short
  simp only [plainCount, Ccm.blockCount]
  omega

theorem authCount_le : authCount job.data ≤ 8 := by
  have tiles := job.tiles
  have short := job.short
  simp only [authCount, Ccm.blockCount]
  split_ifs <;> omega

theorem size_spec : 0 < job.size ∧ job.size ≤ 16 := by
  have levels : job.data.micLevel = 1 ∨ job.data.micLevel = 2 ∨ job.data.micLevel = 3 := by
    have micLevel := job.micLevel
    simp only [← UInt8.toNat_inj, UInt8.reduceToNat]
    omega
  simp only [size]
  rcases levels with level | level | level <;> rw [level] <;> decide

theorem micSize_ne_zero : micSize job.data.micLevel ≠ 0 := by
  intro none
  have positive := job.size_spec.1
  rw [size, none] at positive
  exact Nat.lt_irrefl _ positive

theorem blocks_authOctets :
    Ccm.blocks job.authOctets = Ccm.leadingBlocks job.authOctets (authCount job.data) := by
  rw [Ccm.blocks, authCount, authOctets]
  split_ifs with empty
  · have noData : authData job.memory job.data = [] := by
      rw [← List.length_eq_zero_iff, length_authData, empty]
      rfl
    rw [Ccm.addAuthData, if_pos noData]
    rfl
  · rw [addAuthData_of_ne empty, List.length_append, length_authData, Nat.add_comm]
    rfl

theorem blocks_plainOctets :
    Ccm.blocks job.plainOctets = Ccm.leadingBlocks job.plainOctets job.plainCount := by
  rw [Ccm.blocks, plainOctets, length_plainText, plainCount]

theorem mac_concat (blocks : List Block) (block : Block) :
    job.mac (blocks ++ [block]) = job.encrypt job.data.key ((job.mac blocks).xor block) := by
  rw [mac, ← List.cons_append, Ccm.cbcMac_concat]
  rfl

/-! ## The handlers -/

variable {job} {state : State}

/-- The first block of the plain text is encrypted, or the tag when there is none. -/
theorem performPlainTextEncryption_at (underway : job.Underway 0 state)
    (authenticated : state.ecbCipherText = job.tagBlock) :
    state.performPlainTextEncryption.ecbReqRun = true ∧
      ∃ phase, job.At state.performPlainTextEncryption phase ∧
        job.left phase = job.plainCount := by
  obtain ⟨data, key, workBuffer, cipherText, memory⟩ := underway
  have tagged : ∀ octet : Fin 16, octet.val < job.size →
      state.authTag.copy 0 (state.ecbCipherText.toList.take job.size) octet =
        job.tagBlock octet := by
    intro octet inside
    rw [authenticated, Block.copy_take_of_lt _ _ inside]
  by_cases empty : job.plainCount = 0
  · have got : (plainTextDataGet state.memory state.aesCcmData 0 state.m).2 = false := by
      rw [data]
      exact plainTextDataGet_of_ge _ (by decide) (by rw [← plainCount, empty]; exact Nat.zero_le _)
    have nonzero : micSize state.aesCcmData.micLevel ≠ 0 := data ▸ job.micSize_ne_zero
    simp only [State.performPlainTextEncryption, got, if_neg Bool.false_ne_true, if_pos nonzero,
      State.processEcbEncryptIteration]
    refine ⟨trivial, .encryptedTag, ⟨⟨data, key, workBuffer, cipherText, ?_⟩, rfl, ?_, ?_⟩, ?_⟩
    · rw [empty]
      exact memory
    · rw [data]
      exact aiFormat_eq job.data 0 state.a
    · rw [data]
      exact tagged
    · exact empty.symm
  · have more : (0 : UInt8).toNat < Ccm.blockCount job.data.plainTextDataLen.toNat :=
      Nat.pos_of_ne_zero empty
    have got : plainTextDataGet state.memory state.aesCcmData 0 state.m =
        (Block.ofOctets job.plainOctets 0, true) := by
      rw [data, memory, plainTextDataGet_of_lt _ more, job.plainText_memoryAt]
      rfl
    simp only [State.performPlainTextEncryption, got, if_true, State.processEcbEncryptIteration]
    refine ⟨trivial, .plainTextEncrypt 0, ⟨⟨data, key, workBuffer, cipherText, memory⟩, rfl, rfl,
      Nat.pos_of_ne_zero empty, ?_, rfl, ?_⟩, rfl⟩
    · rw [data]
      exact aiFormat_eq job.data 1 state.a
    · rw [data]
      exact tagged

theorem performPlainTextAuthorization_at (job : Job) (state : State) (count : Nat)
    (underway : job.Underway 0 state) (transformation : state.transformation = .plainTextAuth)
    (iteration : state.iteration.toNat = count) (bound : count ≤ job.plainCount)
    (authenticated : state.ecbCipherText =
      job.mac (Ccm.blocks job.authOctets ++ Ccm.leadingBlocks job.plainOctets count)) :
    state.performPlainTextAuthorization.ecbReqRun = true ∧
      ∃ phase, job.At state.performPlainTextAuthorization phase ∧
        job.left phase = job.plainCount - count + job.plainCount := by
  have small := job.plainCount_le
  by_cases more : count < job.plainCount
  · have got : plainTextDataGet state.memory state.aesCcmData state.iteration state.b =
        (Block.ofOctets job.plainOctets count, true) := by
      rw [← iteration] at more
      rw [underway.data, underway.memory, plainTextDataGet_of_lt _ more, job.plainText_memoryAt,
        iteration]
    simp only [State.performPlainTextAuthorization, got, if_true]
    refine ⟨rfl, .plainTextAuth (count + 1), ⟨?_, transformation, ?_, more, ?_⟩, ?_⟩
    · exact ⟨underway.data, underway.key, underway.workBuffer, underway.cipherText,
        underway.memory⟩
    · simp only [State.processEcbAuthIteration]
      rw [UInt8.toNat_add, iteration]
      simp only [UInt8.reduceToNat]
      omega
    · simp only [State.processEcbAuthIteration]
      rw [Ccm.leadingBlocks_succ, ← List.append_assoc, job.mac_concat, authenticated,
        twoBlocksXor_blockSize]
    · simp only [left]
      omega
  · have got : (plainTextDataGet state.memory state.aesCcmData state.iteration state.b).2 =
        false := by
      rw [underway.data]
      exact plainTextDataGet_of_ge _ (by omega) (by rw [← plainCount]; omega)
    obtain rfl : count = job.plainCount := by omega
    simp only [State.performPlainTextAuthorization, got, if_neg Bool.false_ne_true]
    rw [Nat.sub_self, Nat.zero_add]
    refine performPlainTextEncryption_at ⟨underway.data, underway.key, underway.workBuffer,
      underway.cipherText, underway.memory⟩ ?_
    rw [authenticated, tagBlock, ← job.blocks_plainOctets]

theorem addAuthDataAuth_at {count : Nat} (underway : job.Underway 0 state)
    (transformation : state.transformation = .addAuthDataAuth)
    (iteration : state.iteration.toNat = count) (bound : count ≤ authCount job.data)
    (authenticated : state.ecbCipherText = job.mac (Ccm.leadingBlocks job.authOctets count)) :
    state.ecbHalBlockEncryptedHandler.ecbReqRun = true ∧
      ∃ phase, job.At state.ecbHalBlockEncryptedHandler phase ∧
        job.left phase + 1 = job.left (.authData count) := by
  have small := job.authCount_le
  have short := job.short
  have tiles := job.tiles
  simp only [State.ecbHalBlockEncryptedHandler, transformation]
  by_cases more : count < authCount job.data
  · have got : addAuthDataGet state.memory state.aesCcmData state.iteration state.b =
        (Block.ofOctets job.authOctets count, true) := by
      rw [← iteration] at more
      rw [underway.data, underway.memory, addAuthDataGet_of_lt _ (by omega) more,
        job.authData_memoryAt, iteration]
      rfl
    simp only [got, if_true]
    refine ⟨rfl, .authData (count + 1), ⟨?_, rfl, ?_, more, ?_⟩, ?_⟩
    · exact ⟨underway.data, underway.key, underway.workBuffer, underway.cipherText,
        underway.memory⟩
    · simp only [State.processEcbAuthIteration]
      rw [UInt8.toNat_add, iteration]
      simp only [UInt8.reduceToNat]
      omega
    · simp only [State.processEcbAuthIteration]
      rw [Ccm.leadingBlocks_succ, job.mac_concat, authenticated, twoBlocksXor_blockSize]
    · simp only [left]
      omega
  · have got : (addAuthDataGet state.memory state.aesCcmData state.iteration state.b).2 =
        false := by
      rw [underway.data]
      exact addAuthDataGet_of_ge _ (by omega) (by omega)
    obtain rfl : count = authCount job.data := by omega
    simp only [got, if_neg Bool.false_ne_true]
    rw [← job.blocks_authOctets] at authenticated
    obtain ⟨continued, phase, reached, left⟩ := performPlainTextAuthorization_at job
      { state with
        b := (addAuthDataGet state.memory state.aesCcmData state.iteration state.b).1
        iteration := 0
        transformation := .plainTextAuth } 0
      ⟨underway.data, underway.key, underway.workBuffer, underway.cipherText, underway.memory⟩
      rfl rfl (Nat.zero_le _) (by simpa using authenticated)
    refine ⟨continued, phase, reached, ?_⟩
    rw [left, Job.left]
    omega

/-- The next octets of the encrypted text go behind the others. -/
theorem memoryAt_succ {count : Nat} (more : count < job.plainCount) :
    (job.memoryAt count).write (job.cipher + 16 * count)
      (((Block.ofOctets job.plainOctets count).xor (Ccm.keyStream (job.encrypt job.data.key)
        job.data.nonce (count + 1))).toList.take
          (min (job.data.plainTextDataLen.toNat - 16 * count) 16)) = job.memoryAt (count + 1) := by
  rw [plainCount, Ccm.blockCount] at more
  have length : (job.cipherOctets count).length = 16 * count := by
    rw [cipherOctets, List.length_take, Ccm.length_cipherBlocks]
    omega
  rw [memoryAt, ← length, Memory.write_append, memoryAt, length]
  congr 1
  rw [cipherOctets, cipherOctets, Ccm.cipherBlocks_succ, List.take_append, Ccm.length_cipherBlocks]
  congr 1
  rw [List.take_eq_take_iff, Block.length_toList]
  omega

theorem plainTextEncrypt_at {count : Nat} (underway : job.Underway count state)
    (transformation : state.transformation = .plainTextEncrypt)
    (iteration : state.iteration.toNat = count + 1) (bound : count < job.plainCount)
    (gotten : state.m = Block.ofOctets job.plainOctets count)
    (streamed : state.ecbCipherText =
      Ccm.keyStream (job.encrypt job.data.key) job.data.nonce (count + 1))
    (tagged : job.Tagged state) :
    state.ecbHalBlockEncryptedHandler.ecbReqRun = true ∧
      ∃ phase, job.At state.ecbHalBlockEncryptedHandler phase ∧
        job.left phase + 1 = job.left (.plainTextEncrypt count) := by
  have small := job.plainCount_le
  have short := job.short
  have tiles := job.tiles
  have inside := bound
  rw [plainCount, Ccm.blockCount] at inside
  have offset : ((state.iteration - 1) * blockSize).toNat = 16 * count := by
    have positive : (1 : UInt8) ≤ state.iteration := by
      rw [UInt8.le_iff_toNat_le, iteration]
      exact Nat.succ_le_succ (Nat.zero_le _)
    rw [UInt8.toNat_mul, UInt8.toNat_sub_of_le _ _ positive, iteration]
    simp only [blockSize, UInt8.reduceToNat]
    omega
  have len : (UInt8.ofInt (min (job.data.plainTextDataLen.toNat - (16 * count : Nat)) 16)).toNat =
      min (job.data.plainTextDataLen.toNat - 16 * count) 16 := by
    rw [UInt8.ofInt, UInt8.toNat_ofNat']
    omega
  have written : state.memory.write (state.cipherText + ((state.iteration - 1) * blockSize).toNat)
      ((twoBlocksXor state.m state.ecbCipherText blockSize).toList.take
        (UInt8.ofInt (min (state.aesCcmData.plainTextDataLen.toNat -
          ((state.iteration - 1) * blockSize).toNat) 16)).toNat) = job.memoryAt (count + 1) := by
    rw [offset, underway.data, len, underway.memory, underway.cipherText, gotten, streamed,
      twoBlocksXor_blockSize, memoryAt_succ bound]
  simp only [State.ecbHalBlockEncryptedHandler, transformation]
  rw [written]
  by_cases more : count + 1 < job.plainCount
  · have got : plainTextDataGet (job.memoryAt (count + 1)) state.aesCcmData state.iteration
        (twoBlocksXor state.m state.ecbCipherText blockSize) =
          (Block.ofOctets job.plainOctets (count + 1), true) := by
      rw [← iteration] at more
      rw [underway.data, plainTextDataGet_of_lt _ more, job.plainText_memoryAt, iteration]
    have next : (state.iteration + 1).toNat = count + 1 + 1 := by
      rw [UInt8.toNat_add, iteration]
      simp only [UInt8.reduceToNat]
      omega
    simp only [got, if_true, State.processEcbEncryptIteration]
    refine ⟨trivial, .plainTextEncrypt (count + 1), ⟨⟨underway.data, underway.key,
      underway.workBuffer, underway.cipherText, rfl⟩, rfl, next, more, ?_, rfl, tagged⟩, ?_⟩
    · rw [underway.data, aiFormat_eq, next]
    · simp only [left]
      omega
  · have got : (plainTextDataGet (job.memoryAt (count + 1)) state.aesCcmData state.iteration
        (twoBlocksXor state.m state.ecbCipherText blockSize)).2 = false := by
      rw [underway.data]
      exact plainTextDataGet_of_ge _ (by omega) (by rw [← plainCount]; omega)
    have nonzero : micSize state.aesCcmData.micLevel ≠ 0 := underway.data ▸ job.micSize_ne_zero
    obtain last : count + 1 = job.plainCount := by omega
    simp only [got, if_neg Bool.false_ne_true, if_pos nonzero, State.processEcbEncryptIteration]
    refine ⟨trivial, .encryptedTag, ⟨⟨underway.data, underway.key, underway.workBuffer,
      underway.cipherText, ?_⟩, rfl, ?_, tagged⟩, ?_⟩
    · rw [last]
    · rw [underway.data]
      exact aiFormat_eq job.data 0 state.a
    · simp only [left]
      omega

/-- The last block: the tag is written in front of the frame check sequence. -/
theorem calculateEncryptedTag_finished (underway : job.Underway job.plainCount state)
    (transformation : state.transformation = .calculateEncryptedTag)
    (stopped : state.ecbReqRun = false)
    (streamed : state.ecbCipherText = Ccm.keyStream (job.encrypt job.data.key) job.data.nonce 0)
    (tagged : job.Tagged state) : job.Finished state.ecbHalBlockEncryptedHandler := by
  have tiles := job.tiles
  have fits := job.size_spec.2
  have micAddress : state.workBuffer + (state.memory state.workBuffer).toNat + phrSize.toNat -
      (fcsSize.toNat + (micSize state.aesCcmData.micLevel).toNat) =
        job.work + 1 + job.data.authDataLen.toNat + job.data.plainTextDataLen.toNat := by
    have phr : phrSize.toNat = 1 := rfl
    have fcs : fcsSize.toNat = 2 := rfl
    rw [underway.memory, underway.workBuffer, underway.data, job.phr_memoryAt, phr, fcs]
    omega
  have tag : (twoBlocksXor state.authTag state.ecbCipherText
      (micSize state.aesCcmData.micLevel)).toList.take (micSize state.aesCcmData.micLevel).toNat =
        (job.tagBlock.xor (Ccm.keyStream (job.encrypt job.data.key) job.data.nonce
          0)).toList.take job.size := by
    rw [underway.data, streamed]
    apply Block.take_toList_congr
    intro octet inside
    rw [twoBlocksXor, if_pos inside, tagged octet inside]
    rfl
  simp only [State.ecbHalBlockEncryptedHandler, transformation, State.transformationFinished]
  refine ⟨stopped, rfl, ?_⟩
  rw [← underway.memory, ← micAddress, ← tag]

/-! ## The loop -/

variable (job)

/-- The state with the block that the peripheral has encrypted. -/
def encrypted (state : State) : State :=
  { state with ecbReqRun := false, ecbCipherText := job.encrypt state.ecbKey state.ecbClearText }

theorem Underway.encrypted {count : Nat} (underway : job.Underway count state) :
    job.Underway count (job.encrypted state) :=
  ⟨underway.data, underway.key, underway.workBuffer, underway.cipherText, underway.memory⟩

/-- A block was encrypted and another one is left. -/
def Pending (left : Nat) (state : State) : Prop := ∃ phase, job.At state phase ∧ job.left phase = left

theorem ecbStep_next (left : Nat) (state : State) (pending : job.Pending (left + 1) state) :
    (State.ecbStep job.encrypt state).2 = true ∧
      job.Pending left (State.ecbStep job.encrypt state).1 := by
  have continued {phase : Phase} (counted : job.left phase = left + 1)
      (handled : (job.encrypted state).ecbHalBlockEncryptedHandler.ecbReqRun = true ∧
        ∃ next, job.At (job.encrypted state).ecbHalBlockEncryptedHandler next ∧
          job.left next + 1 = job.left phase) :
      (State.ecbStep job.encrypt state).2 = true ∧
        job.Pending left (State.ecbStep job.encrypt state).1 := by
    obtain ⟨running, next, reached, counts⟩ := handled
    exact ⟨running, next, reached, by omega⟩
  obtain ⟨phase, reached, counted⟩ := pending
  refine continued counted ?_
  cases phase with
  | authData count =>
      obtain ⟨underway, transformation, iteration, bound, authenticated⟩ := reached
      refine addAuthDataAuth_at (underway.encrypted job) transformation iteration bound ?_
      rw [← authenticated, ← underway.key]
      rfl
  | plainTextAuth count =>
      obtain ⟨underway, transformation, iteration, bound, authenticated⟩ := reached
      have transformation' : (job.encrypted state).transformation = .plainTextAuth := transformation
      obtain ⟨running, next, reached, counts⟩ := performPlainTextAuthorization_at job
        (job.encrypted state) count (underway.encrypted job) transformation iteration bound
        (by rw [← authenticated, ← underway.key]; rfl)
      simp only [State.ecbHalBlockEncryptedHandler, transformation']
      refine ⟨running, next, reached, ?_⟩
      rw [counts, Job.left]
  | plainTextEncrypt count =>
      obtain ⟨underway, transformation, iteration, bound, clear, gotten, tagged⟩ := reached
      refine plainTextEncrypt_at (underway.encrypted job) transformation iteration bound gotten ?_
        tagged
      rw [Ccm.keyStream, ← clear, ← underway.key]
      rfl
  | encryptedTag => exact absurd counted (Nat.zero_ne_add_one left)

theorem ecbStep_last (state : State) (pending : job.Pending 0 state) :
    (State.ecbStep job.encrypt state).2 = false ∧
      job.Finished (State.ecbStep job.encrypt state).1 := by
  obtain ⟨phase, reached, counted⟩ := pending
  cases phase with
  | authData count => exact absurd counted (Nat.succ_ne_zero _)
  | plainTextAuth count => exact absurd counted (Nat.succ_ne_zero _)
  | plainTextEncrypt count =>
      obtain ⟨_, _, _, bound, _⟩ := reached
      simp only [left] at counted
      omega
  | encryptedTag =>
      obtain ⟨underway, transformation, clear, tagged⟩ := reached
      have finished := calculateEncryptedTag_finished (underway.encrypted job) transformation rfl
        (by rw [Ccm.keyStream, ← clear, ← underway.key]; rfl) tagged
      exact ⟨finished.stopped, finished⟩

/-- The loop ends and leaves the tag behind the encrypted text. -/
theorem loop_finished {state : State} {fuel : Nat} (started : job.At state (.authData 0))
    (enough : 32 ≤ fuel) : job.Finished (loop (State.ecbStep job.encrypt) fuel state) := by
  have pending : job.Pending (job.left (.authData 0)) state := ⟨_, started, rfl⟩
  refine loop_of_countdown job.ecbStep_next job.ecbStep_last pending ?_
  have authCount := job.authCount_le
  have plainCount := job.plainCount_le
  simp only [left]
  omega

/-- The encrypted text and the tag are one block of octets. -/
theorem Finished.memory_eq {job : Job} {state : State} (finished : job.Finished state) :
    state.memory = job.memory.write (job.work + 1 + job.data.authDataLen.toNat)
      (Ccm.cipherText (job.encrypt job.data.key) job.data.nonce job.plainOctets ++
        Ccm.encryptedTag (job.encrypt job.data.key) job.data.nonce job.size
          (authData job.memory job.data) job.plainOctets) := by
  have length : job.plainOctets.length = job.data.plainTextDataLen.toNat := length_plainText
  have cipher : job.cipherOctets job.plainCount =
      Ccm.cipherText (job.encrypt job.data.key) job.data.nonce job.plainOctets := by
    rw [Ccm.cipherText, length]
    rfl
  have tag : (job.tagBlock.xor (Ccm.keyStream (job.encrypt job.data.key) job.data.nonce
      0)).toList.take job.size = Ccm.encryptedTag (job.encrypt job.data.key) job.data.nonce
        job.size (authData job.memory job.data) job.plainOctets := by
    rw [Ccm.encryptedTag, Ccm.authBlocks, length]
    rfl
  rw [finished.memory, tag, memoryAt, cipher]
  rcases job.located with empty | located
  · have none : Ccm.cipherText (job.encrypt job.data.key) job.data.nonce job.plainOctets = [] := by
      rw [← List.length_eq_zero_iff, Ccm.length_cipherText, length, empty]
    rw [none, Memory.write_nil, List.nil_append, empty, Nat.add_zero]
  · rw [located, ← Memory.write_append, Ccm.length_cipherText, length]

theorem Finished.read_work {job : Job} {state : State} (finished : job.Finished state) :
    state.memory.read job.work (1 + job.data.authDataLen.toNat +
        (job.data.plainTextDataLen.toNat + job.size)) =
      job.memory.read job.work (1 + job.data.authDataLen.toNat) ++
        (Ccm.cipherText (job.encrypt job.data.key) job.data.nonce job.plainOctets ++
          Ccm.encryptedTag (job.encrypt job.data.key) job.data.nonce job.size
            (authData job.memory job.data) job.plainOctets) := by
  have length : (Ccm.cipherText (job.encrypt job.data.key) job.data.nonce job.plainOctets ++
      Ccm.encryptedTag (job.encrypt job.data.key) job.data.nonce job.size
        (authData job.memory job.data) job.plainOctets).length =
          job.data.plainTextDataLen.toNat + job.size := by
    rw [List.length_append, Ccm.length_cipherText, Ccm.length_encryptedTag _ _ _ job.size_spec.2,
      plainOctets, length_plainText]
  rw [← Memory.read_append_read, finished.memory_eq, ← length, ← Nat.add_assoc,
    Memory.read_write_same, Memory.read_write_of_disjoint]
  omega

theorem Finished.memory_outside {job : Job} {state : State} (finished : job.Finished state)
    {address : Nat} (outside : address < job.work ∨ job.work + 128 ≤ address) :
    state.memory address = job.memory address := by
  have tiles := job.tiles
  have short := job.short
  rw [finished.memory_eq]
  apply Memory.write_of_outside
  rw [List.length_append, Ccm.length_cipherText, Ccm.length_encryptedTag _ _ _ job.size_spec.2,
    plainOctets, length_plainText, size]
  omega

end Job

/-! ## A transformation -/

/-- The data that is authenticated and the data that is encrypted make up the frame, from the
start of the PSDU up to the place of the tag. -/
structure Tiling (work : Nat) (memory : Memory) (data : AesCcmData) : Prop where
  frame : data.rawFrame ≠ 0
  short : (memory data.rawFrame).toNat ≤ 127
  micLevel : 1 ≤ data.micLevel.toNat ∧ data.micLevel.toNat ≤ 3
  authData : data.authDataLen.toNat = 0 ∨ data.authData = data.rawFrame + 1
  plainTextData : data.plainTextData = data.rawFrame + 1 + data.authDataLen.toNat ∨
    data.plainTextDataLen.toNat = 0 ∧ data.plainTextData = 0
  tiles : data.authDataLen.toNat + data.plainTextDataLen.toNat + (micSize data.micLevel).toNat + 2 =
    (memory data.rawFrame).toNat
  apart : data.rawFrame + 1 + (memory data.rawFrame).toNat ≤ work ∨ work + 128 ≤ data.rawFrame

/-- The part of the frame in front of the plain text. -/
def headerSize (memory : Memory) (data : AesCcmData) : Nat :=
  if data.plainTextData ≠ 0 then data.plainTextData - data.rawFrame
  else (memory data.rawFrame).toNat + 1

variable {work : Nat} {memory : Memory} {data : AesCcmData}

theorem Tiling.headerSize_spec (tiling : Tiling work memory data) :
    1 + data.authDataLen.toNat ≤ headerSize memory data ∧
      headerSize memory data ≤ (memory data.rawFrame).toNat + 1 ∧
      (data.plainTextDataLen.toNat = 0 ∨
        headerSize memory data = 1 + data.authDataLen.toNat) := by
  have tiles := tiling.tiles
  rcases tiling.plainTextData with located | ⟨empty, absent⟩
  · have present : data.plainTextData ≠ 0 := by omega
    rw [headerSize, if_pos present]
    omega
  · rw [headerSize, if_neg (not_not.mpr absent)]
    omega

theorem Tiling.transformPrepare_eq {state : State} (tiling : Tiling work state.memory data) :
    ∃ prepared, transformPrepare work state data = some (prepared, true) ∧
      prepared.aesCcmData = data ∧ prepared.workBuffer = work ∧
      prepared.cipherText = work + headerSize state.memory data := by
  have short := tiling.short
  obtain ⟨_, bound, _⟩ := tiling.headerSize_spec
  have complete : ¬ (data.authDataLen ≠ 0 ∧ data.authData = 0 ∨
      data.plainTextDataLen ≠ 0 ∧ data.plainTextData = 0) := by
    rintro (⟨nonempty, absent⟩ | ⟨nonempty, absent⟩)
    · rcases tiling.authData with empty | located
      · exact nonempty (UInt64.toNat_inj.mp empty)
      · omega
    · rcases tiling.plainTextData with located | ⟨empty, _⟩
      · omega
      · exact nonempty (UInt8.toNat_inj.mp empty)
  have level : ¬ data.micLevel > 3 := by
    have micLevel := tiling.micLevel.2
    rw [gt_iff_lt, UInt8.lt_iff_toNat_lt]
    exact Nat.not_lt.mpr micLevel
  have offset : (if data.plainTextData ≠ 0 then (data.plainTextData - data.rawFrame : Int)
      else (state.memory data.rawFrame).toNat + phrSize.toNat) = headerSize state.memory data := by
    have phr : phrSize.toNat = 1 := rfl
    have tiles := tiling.plainTextData
    rw [headerSize, phr]
    split_ifs with present
    · omega
    · omega
  have fits : (0 : Int) ≤ headerSize state.memory data ∧
      (headerSize state.memory data : Int) ≤ maxPacketSize.toNat + phrSize.toNat ∧
      (headerSize state.memory data : Int) ≤
        (state.memory data.rawFrame).toNat + phrSize.toNat := by
    have phr : phrSize.toNat = 1 := rfl
    have packet : maxPacketSize.toNat = 127 := rfl
    omega
  simp only [transformPrepare, if_neg tiling.frame, if_neg complete, if_neg level, offset,
    if_pos fits, Int.toNat_natCast]
  exact ⟨_, rfl, rfl, rfl, rfl⟩

theorem Tiling.phr_copied (tiling : Tiling work memory data) :
    memory.write work (memory.read data.rawFrame (headerSize memory data)) work =
      memory data.rawFrame := by
  obtain ⟨bound, _, _⟩ := tiling.headerSize_spec
  have copied : 0 < (memory.read data.rawFrame (headerSize memory data)).length := by
    rw [Memory.length_read]
    omega
  simp [Memory.write, List.getElem?_eq_getElem copied]

/-- The transformation that starts after the header was copied. -/
def Tiling.job (tiling : Tiling work memory data) (encrypt : Block → Block → Block) : Job where
  encrypt := encrypt
  data := data
  memory := memory.write work (memory.read data.rawFrame (headerSize memory data))
  work := work
  cipher := work + headerSize memory data
  micLevel := tiling.micLevel
  short := by
    rw [tiling.phr_copied]
    exact tiling.short
  tiles := by
    rw [tiling.phr_copied]
    exact tiling.tiles
  authApart := by
    rcases tiling.authData with empty | located
    · exact Or.inl empty
    · have tiles := tiling.tiles
      have apart := tiling.apart
      omega
  plainApart := by
    rcases tiling.plainTextData with located | ⟨empty, _⟩
    · have tiles := tiling.tiles
      have apart := tiling.apart
      omega
    · exact Or.inl empty
  located := by
    obtain ⟨_, _, empty | size⟩ := tiling.headerSize_spec
    · exact Or.inl empty
    · exact Or.inr (by omega)

section

variable (tiling : Tiling work memory data) (encrypt : Block → Block → Block)

theorem Tiling.read_job {start length : Nat}
    (apart : start + length ≤ work ∨ work + 128 ≤ start) :
    (tiling.job encrypt).memory.read start length = memory.read start length := by
  obtain ⟨_, bound, _⟩ := tiling.headerSize_spec
  have short := tiling.short
  apply Memory.read_write_of_disjoint
  rw [Memory.length_read]
  omega

theorem Tiling.authData_job :
    AesCcm.authData (tiling.job encrypt).memory data = AesCcm.authData memory data := by
  rcases (tiling.job encrypt).authApart with empty | apart
  · have empty' : data.authDataLen.toNat = 0 := empty
    simp [AesCcm.authData, empty', Memory.read]
  · exact tiling.read_job encrypt apart

theorem Tiling.plainOctets_job : (tiling.job encrypt).plainOctets = plainText memory data := by
  rcases (tiling.job encrypt).plainApart with empty | apart
  · have empty' : data.plainTextDataLen.toNat = 0 := empty
    simp [Job.plainOctets, plainText, Tiling.job, empty', Memory.read]
  · exact tiling.read_job encrypt apart

theorem Tiling.transformStart_finished {state : State} {fuel : Nat}
    (prepared : state.aesCcmData = data) (workBuffer : state.workBuffer = work)
    (cipherText : state.cipherText = work + headerSize memory data)
    (updated : state.memory = memory) (enough : 32 ≤ fuel) :
    (tiling.job encrypt).Finished (transformStart encrypt fuel state data.rawFrame) := by
  have accepted : ¬ (data.rawFrame ≠ state.aesCcmData.rawFrame ∨
      state.aesCcmData.rawFrame = 0) := by
    rw [prepared]
    exact not_or.mpr ⟨not_not.mpr rfl, tiling.frame⟩
  have offset : state.cipherText - work = headerSize memory data := by
    rw [cipherText, Nat.add_sub_cancel_left]
  rw [transformStart, if_neg accepted]
  refine (tiling.job encrypt).loop_finished ?_ enough
  -- the first block goes to the peripheral
  refine ⟨⟨prepared, congrArg AesCcmData.key prepared, workBuffer, cipherText, ?_⟩, rfl, rfl,
    Nat.zero_le _, ?_⟩
  · have none : (tiling.job encrypt).cipherOctets 0 = [] := List.take_nil
    rw [Job.memoryAt, none, Memory.write_nil]
    simp only [updated, workBuffer, offset]
    rfl
  · have flags : authFlagsFormat data = Ccm.authFlags (micSize data.micLevel).toNat
        (AesCcm.authData (tiling.job encrypt).memory data) := authFlagsFormat_eq tiling.micLevel
    simp only [prepared, b0Format_eq, flags, twoBlocksXor_blockSize]
    rfl

theorem Tiling.read_finished {state : State} (finished : (tiling.job encrypt).Finished state) :
    state.memory.read work (1 + data.authDataLen.toNat +
        (data.plainTextDataLen.toNat + (micSize data.micLevel).toNat)) =
      memory.read data.rawFrame (1 + data.authDataLen.toNat) ++
        (Ccm.cipherText (encrypt data.key) data.nonce (plainText memory data) ++
          Ccm.encryptedTag (encrypt data.key) data.nonce (micSize data.micLevel).toNat
            (AesCcm.authData memory data) (plainText memory data)) := by
  obtain ⟨bound, _, _⟩ := tiling.headerSize_spec
  have header : (tiling.job encrypt).memory.read work (1 + data.authDataLen.toNat) =
      memory.read data.rawFrame (1 + data.authDataLen.toNat) := memory.read_write_read bound
  rw [← header, ← tiling.plainOctets_job encrypt, ← tiling.authData_job encrypt]
  exact finished.read_work

theorem Tiling.memory_finished {state : State} (finished : (tiling.job encrypt).Finished state)
    {address : Nat} (outside : address < work ∨ work + 128 ≤ address) :
    state.memory address = memory address := by
  obtain ⟨_, bound, _⟩ := tiling.headerSize_spec
  have short := tiling.short
  refine (finished.memory_outside outside).trans (Memory.write_of_outside _ ?_)
  rw [Memory.length_read]
  omega

end

/-- The transformation ends with the CCM* transformation of the frame in the work buffer,
and writes nothing else. -/
theorem transform_correct (encrypt : Block → Block → Block) (work : Nat) (state : State)
    (data : AesCcmData) (updated : Memory) (fuel : Nat)
    (tiling : Tiling work state.memory data)
    (samePhr : updated data.rawFrame = state.memory data.rawFrame) (enough : 32 ≤ fuel) :
    ∃ prepared finished, transformPrepare work state data = some (prepared, true) ∧
      transformStart encrypt fuel { prepared with memory := updated } data.rawFrame = finished ∧
      finished.ecbReqRun = false ∧ finished.isSecured = true ∧
      finished.memory.read work (1 + data.authDataLen.toNat +
          (data.plainTextDataLen.toNat + (micSize data.micLevel).toNat)) =
        updated.read data.rawFrame (1 + data.authDataLen.toNat) ++
          (Ccm.cipherText (encrypt data.key) data.nonce (plainText updated data) ++
            Ccm.encryptedTag (encrypt data.key) data.nonce (micSize data.micLevel).toNat
              (authData updated data) (plainText updated data)) ∧
      ∀ address, address < work ∨ work + 128 ≤ address →
        finished.memory address = updated address := by
  obtain ⟨prepared, succeeded, copied, workBuffer, cipherText⟩ := tiling.transformPrepare_eq
  have header : headerSize state.memory data = headerSize updated data := by
    rw [headerSize, headerSize, samePhr]
  have tiling' : Tiling work updated data := by
    obtain ⟨frame, short, micLevel, authData, plainTextData, tiles, apart⟩ := tiling
    rw [← samePhr] at short tiles apart
    exact ⟨frame, short, micLevel, authData, plainTextData, tiles, apart⟩
  rw [header] at cipherText
  let resumed : State := { prepared with memory := updated }
  have finished : (tiling'.job encrypt).Finished (transformStart encrypt fuel resumed
      data.rawFrame) :=
    tiling'.transformStart_finished encrypt copied workBuffer cipherText rfl enough
  exact ⟨prepared, _, succeeded, rfl, finished.stopped, finished.secured,
    tiling'.read_finished encrypt finished, fun _ => tiling'.memory_finished encrypt finished⟩

/-- A frame with eight octets of payload at the address 1000. -/
def exampleData : AesCcmData where
  key := Block.zero
  authData := 1001
  authDataLen := 23
  plainTextData := 1024
  plainTextDataLen := 8
  nonce := fun _ => 7
  micLevel := 1
  rawFrame := 1000

def exampleState : State where
  memory := fun address => if address = 1000 then 37 else UInt8.ofNat address
  aesCcmData := exampleData
  x := Block.zero
  b := Block.zero
  m := Block.zero
  a := Block.zero
  transformation := .addAuthDataAuth
  iteration := 0
  authTag := Block.zero
  cipherText := 0
  workBuffer := 0
  ecbKey := Block.zero
  ecbClearText := Block.zero
  ecbCipherText := Block.zero
  ecbReqRun := false
  originalFrame := 0
  plainTextOffset := 0
  isSecured := false

theorem transform_correct_payload :
    ∃ prepared finished, transformPrepare 2000 exampleState exampleData = some (prepared, true) ∧
      transformStart Block.xor 32 { prepared with memory := exampleState.memory } 1000 =
        finished ∧ finished.isSecured = true ∧
      ∀ address, address < 2000 ∨ 2128 ≤ address →
        finished.memory address = exampleState.memory address := by
  have tiling : Tiling 2000 exampleState.memory exampleData :=
    ⟨by decide, by decide, by decide, by decide, by decide, by decide, by decide⟩
  obtain ⟨prepared, finished, succeeded, started, _, secured, _, outside⟩ :=
    transform_correct Block.xor 2000 exampleState exampleData exampleState.memory 32 tiling rfl
      (by decide)
  exact ⟨prepared, finished, succeeded, started, secured, outside⟩

end Nrfxlib.AesCcm
