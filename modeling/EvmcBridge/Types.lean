import Mathlib.Data.BitVec

/-!
# The values the bridge passes around

Go's fixed-size types are bit vectors: `common.Address` has 160 bits, `common.Hash` and
`uint256.Int` have 256. The bridge converts between `int64` and `uint64` in both directions
(`uint64(gas)`, `int64(gasLeftU)`, `uint64(number)`). Such a conversion keeps the bits, so both
types are `Word64` here, and each use reads the word signed (`toInt`, `slt`) or unsigned
(`toNat`). A `*big.Int` that is never negative (a balance, a value, a block number) is a `Nat`.

The gas constants of `params/vars` are not in this excerpt. They are the fields of `Vars`, and
every result holds for every choice of them.
-/

namespace EvmcBridge

/-- `common.Address`. -/
abbrev Address := BitVec 160

/-- `common.Hash`: a storage key or value, a code hash, a block hash. -/
abbrev Hash := BitVec 256

/-- Go's `int64` and `uint64`, which share their bits. -/
abbrev Word64 := BitVec 64

/-- `[]byte`. -/
abbrev Bytes := List UInt8

/-- The transitions the bridge asks the chain configuration about: one for each getter
`GetEIP…Transition` it passes to `IsEnabled`. -/
inductive Transition
  | eip7 | eip150 | eip155 | eip161d | eip198 | eip145 | eip1283Disable | eip1884 | eip2200
  deriving DecidableEq, Repr

/-- The chain configuration, seen through `IsEnabled(transition, blockNumber)`. -/
structure ChainConfig where
  isEnabled : Transition → Nat → Bool
  deriving Inhabited

/-- `evmc.Capability`. -/
inductive Capability
  | evm1 | ewasm
  deriving DecidableEq, Repr

/-- The `evmc_capabilities` flag of a capability. -/
def Capability.toNat : Capability → Nat
  | evm1 => 1
  | ewasm => 2

/-- `evmc.CallKind`. -/
inductive CallKind
  | call | delegateCall | callCode | create | create2
  deriving DecidableEq, Repr

/-- `evmc.Error`: a status code of the engine other than success. Negative codes are the
engine's internal errors. -/
structure EvmcError where
  code : Int
  deriving DecidableEq, Repr

namespace EvmcError

/-- `evmc.Failure`. -/
def failure : EvmcError := ⟨1⟩

/-- `evmc.Revert`. -/
def revert : EvmcError := ⟨2⟩

/-- `IsInternalError`. -/
def isInternalError (e : EvmcError) : Bool := decide (e.code < 0)

end EvmcError

/-- The Go `error` values the bridge creates or compares against. -/
inductive Error
  /-- An `evmc.Error`. -/
  | evmc (e : EvmcError)
  /-- `ErrExecutionReverted`. -/
  | executionReverted
  /-- `ErrCodeStoreOutOfGas`. -/
  | codeStoreOutOfGas
  /-- `fmt.Errorf("%s: %v", evmcModuleError, e.Error())`: `Run` wraps an internal error. -/
  | evmcModule (e : EvmcError)
  /-- Any other error of the EVM operations (`ErrDepth`, `ErrInsufficientBalance`, ...). -/
  | other (name : String)
  deriving DecidableEq, Repr

/-- The call frame `*Contract`, through `Address()`, `Caller()`, `Value()`, `Code` and `Gas`. -/
structure Contract where
  address : Address
  caller : Address
  value : Nat
  code : Bytes
  gas : Word64
  deriving DecidableEq, Repr, Inhabited

/-- The refund constants of `params/vars` that the host context reads. -/
structure Vars where
  sstoreRefundGas : Nat
  netSstoreClearRefund : Nat
  netSstoreResetRefund : Nat
  netSstoreResetClearRefund : Nat
  sstoreSetGasEIP2200 : Nat
  sstoreResetGasEIP2200 : Nat
  sloadGasEIP2200 : Nat
  selfdestructRefundGas : Nat
  deriving DecidableEq, Repr, Inhabited

/-- The values the `vars` package gives the constants. -/
def Vars.standard : Vars where
  sstoreRefundGas := 15000
  netSstoreClearRefund := 15000
  netSstoreResetRefund := 4800
  netSstoreResetClearRefund := 19800
  sstoreSetGasEIP2200 := 20000
  sstoreResetGasEIP2200 := 5000
  sloadGasEIP2200 := 800
  selfdestructRefundGas := 24000

/-- The two EIP-2200 refunds `SetStorage`'s comments quote. -/
example : Vars.standard.sstoreSetGasEIP2200 - Vars.standard.sloadGasEIP2200 = 19200 ∧
    Vars.standard.sstoreResetGasEIP2200 - Vars.standard.sloadGasEIP2200 = 4200 := ⟨rfl, rfl⟩

end EvmcBridge
