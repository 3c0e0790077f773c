import EvmcBridge.State

/-!
# Host context queries

The read-only callbacks of `hostContext`, and the log and block-hash callbacks. Each reads the
execution context as the Go method does. Fork-dependent reads go through
`IsEnabled(transition, blockNumber)`.

**Theorem (`getBlockHash_window`).** Read as signed integers, with the block number below
`2^63`, `GetBlockHash(n)` asks the oracle for the hash of `uint64(n)` exactly when
`b - 256 ≤ n < b`, and returns the zero hash otherwise. When `n` is not negative, this is the
256 most recent ancestors of the current block. For `b < 256` the lower bound is negative, and
a negative `n` passes the check: `getBlockHash_genesis_minus_one` shows the oracle asked for
height `2^64 - 1` at block 0.

**Theorem (`getBlockHash_unsigned`).** The same window over the 64-bit number as the oracle
receives it: the 256 most recent ancestors, and in the first 256 blocks also the top
`256 - b` numbers of the range. From block 256 on, the window is exact.
-/

namespace EvmcBridge

/-- The transaction context the engine reads through `GetTxContext`. -/
structure TxContext where
  gasPrice : Hash
  origin : Address
  coinbase : Address
  number : Word64
  timestamp : Word64
  gasLimit : Word64
  difficulty : Hash

namespace HostContext

/-- `AccountExists`: non-empty from EIP-161 on, existing before. -/
def accountExists (env : EVM) (addr : Address) : Bool :=
  if env.chainConfig.isEnabled .eip161d env.blockNumber then
    if !env.stateDB.empty addr then true else false
  else if env.stateDB.exist addr then true
  else false

/-- `GetBalance`. -/
def getBalance (env : EVM) (addr : Address) : Hash :=
  bigToHash (env.stateDB.getBalance addr)

/-- `GetCodeSize`. -/
def getCodeSize (env : EVM) (addr : Address) : Nat :=
  env.stateDB.getCodeSize addr

/-- `GetCodeHash`: the zero hash for an empty account. -/
def getCodeHash (env : EVM) (addr : Address) : Hash :=
  if env.stateDB.empty addr then 0 else env.stateDB.getCodeHash addr

/-- `GetCode`. -/
def getCode (env : EVM) (addr : Address) : Bytes :=
  env.stateDB.getCode addr

/-- `GetTxContext`. `Int64()` and `int64(...)` keep the low 64 bits. -/
def getTxContext (env : EVM) : TxContext where
  gasPrice := bigToHash env.gasPrice
  origin := env.origin
  coinbase := env.coinbase
  number := BitVec.ofNat 64 env.blockNumber
  timestamp := BitVec.ofNat 64 env.time
  gasLimit := env.gasLimit
  difficulty := bigToHash env.difficulty

/-- `GetBlockHash`. The window check compares signed words; `uint64(number)` keeps the bits. -/
def getBlockHash (env : EVM) (number : Word64) : Hash :=
  let b : Word64 := BitVec.ofNat 64 env.blockNumber
  if (b - 256).sle number && number.slt b then env.getHash number
  else 0

/-- `EmitLog`: the entry goes at the end of the log sequence. -/
def emitLog (env : EVM) (addr : Address) (topics : List Hash) (data : Bytes) : StateDB :=
  env.stateDB.addLog
    { address := addr, topics := topics, data := data,
      blockNumber := BitVec.ofNat 64 env.blockNumber }

/-- `EmitLog` calls, in order, within one execution context. -/
def emitLogs (env : EVM) : List (Address × List Hash × Bytes) → StateDB
  | [] => env.stateDB
  | (addr, topics, data) :: calls =>
    emitLogs { env with stateDB := emitLog env addr topics data } calls

/-! ## The block-hash window -/

theorem toInt_blockNumber {b : Nat} (hb : b < 2 ^ 63) : (BitVec.ofNat 64 b).toInt = b := by
  rw [BitVec.toInt_ofNat]
  simp only [Int.bmod]
  split_ifs <;> omega

theorem toInt_blockNumber_sub {b : Nat} (hb : b < 2 ^ 63) :
    (BitVec.ofNat 64 b - 256).toInt = (b : Int) - 256 := by
  rw [BitVec.toInt_sub, toInt_blockNumber hb, show (256 : Word64).toInt = 256 from rfl]
  simp only [Int.bmod]
  split_ifs <;> omega

/-- **The window, read as signed integers.** -/
theorem getBlockHash_window (env : EVM) (hb : env.blockNumber < 2 ^ 63) (number : Word64) :
    getBlockHash env number =
      if (env.blockNumber : Int) - 256 ≤ number.toInt ∧ number.toInt < env.blockNumber
      then env.getHash number else 0 := by
  simp only [getBlockHash, BitVec.sle, BitVec.slt, toInt_blockNumber hb,
    toInt_blockNumber_sub hb, Bool.and_eq_true, decide_eq_true_eq]

/-- **The window, read unsigned.** For every 64-bit number the oracle is asked exactly for the
256 most recent ancestors and, in the first 256 blocks, for the numbers at the top of the range,
which the signed comparison reads as negative numbers inside the window. -/
theorem getBlockHash_unsigned (env : EVM) (hb : env.blockNumber < 2 ^ 63) (number : Word64) :
    getBlockHash env number =
      if (env.blockNumber - 256 ≤ number.toNat ∧ number.toNat < env.blockNumber) ∨
          2 ^ 64 + env.blockNumber - 256 ≤ number.toNat
      then env.getHash number else 0 := by
  have hn := BitVec.toInt_eq_toNat_cond number
  have hlt := number.isLt
  rw [getBlockHash_window env hb]
  congr 1
  apply propext
  split_ifs at hn <;> omega

/-- At block 5 the oracle is asked for height `2^64 - 2`, read as `-2`. -/
theorem getBlockHash_unsigned_early :
    getBlockHash { (default : EVM) with blockNumber := 5 } (-2) = (default : EVM).getHash (-2) :=
  (getBlockHash_unsigned _ (by decide) _).trans (if_pos (by decide))

/-- At block 0 the check admits `number = -1`, and the oracle is asked for the hash of height
`uint64(-1) = 2^64 - 1`. -/
theorem getBlockHash_genesis_minus_one (env : EVM) :
    getBlockHash { env with blockNumber := 0 } (-1) = env.getHash (-1) ∧
      (-1 : Word64).toNat = 2 ^ 64 - 1 := by
  refine ⟨?_, rfl⟩
  rw [getBlockHash_window _ (by dsimp only; decide)]
  exact if_pos (by dsimp only; decide)

end HostContext

end EvmcBridge
