import EvmcBridge.Types
import Mathlib.Algebra.BigOperators.Group.Finset

/-!
# The state accessor and the execution context

The host context reads and writes the ledger through `StateDB` and reads the block through
`*EVM`. Neither is in this excerpt. The spec treats both as opaque, and names the operations
the bridge uses: `getState/setState/getCommittedState`, `getBalance/addBalance`,
`getCode/getCodeSize/getCodeHash`, `exist/empty`, `hasSuicided/suicide`, `addLog`,
`addRefund/subRefund`. `StateDB` gives each of them the meaning the spec gives it, and no more.

`SubRefund` is the one partial operation: the refund counter "must never underflow", and the
state accessor stops (in go-ethereum it panics) when a subtraction would take it below zero.
Here that outcome is `none`.
-/

namespace EvmcBridge

/-- `common.BigToHash` of a value that is never negative: its low 256 bits. -/
def bigToHash (x : Nat) : Hash := BitVec.ofNat 256 x

/-- An entry of the log sequence. -/
structure Log where
  address : Address
  topics : List Hash
  data : Bytes
  blockNumber : Word64
  deriving DecidableEq, Repr

/-- Modelled from the spec: the state accessor `StateDB` of §6, which is not in this excerpt.
Storage holds the current value of each slot and the value it had when the transaction began;
the account fields hold balances, code, code hashes, the existence and emptiness predicates of
the current fork, and the self-destructed set. -/
@[ext]
structure StateDB where
  state : Address → Hash → Hash
  committedState : Address → Hash → Hash
  refund : Nat
  balance : Address → Nat
  code : Address → Bytes
  codeHash : Address → Hash
  exist : Address → Bool
  empty : Address → Bool
  suicided : Address → Bool
  logs : List Log
  deriving Inhabited

namespace StateDB

variable (db : StateDB)

@[simp] def getState (addr : Address) (key : Hash) : Hash := db.state addr key

@[simp] def getCommittedState (addr : Address) (key : Hash) : Hash := db.committedState addr key

@[simps] def setState (addr : Address) (key value : Hash) : StateDB :=
  { db with state := fun a k => if a = addr ∧ k = key then value else db.state a k }

@[simps] def addRefund (gas : Nat) : StateDB := { db with refund := db.refund + gas }

/-- `SubRefund`, which stops the run when the counter holds less than `gas`. -/
def subRefund (gas : Nat) : Option StateDB :=
  if gas ≤ db.refund then some { db with refund := db.refund - gas } else none

@[simp] def getBalance (addr : Address) : Nat := db.balance addr

@[simps] def addBalance (addr : Address) (amount : Nat) : StateDB :=
  { db with balance := fun a => if a = addr then db.balance a + amount else db.balance a }

@[simp] def getCode (addr : Address) : Bytes := db.code addr

@[simp] def getCodeSize (addr : Address) : Nat := (db.code addr).length

@[simp] def getCodeHash (addr : Address) : Hash := db.codeHash addr

@[simp] def hasSuicided (addr : Address) : Bool := db.suicided addr

/-- `Suicide` marks the account as self-destructed and zeroes its balance. -/
@[simps] def suicide (addr : Address) : StateDB :=
  { db with
    suicided := fun a => a = addr || db.suicided a
    balance := fun a => if a = addr then 0 else db.balance a }

@[simps] def addLog (log : Log) : StateDB := { db with logs := db.logs ++ [log] }

theorem subRefund_eq_some {gas : Nat} (h : gas ≤ db.refund) :
    db.subRefund gas = some { db with refund := db.refund - gas } := if_pos h

theorem subRefund_eq_none {gas : Nat} (h : db.refund < gas) : db.subRefund gas = none :=
  if_neg (Nat.not_le.mpr h)

theorem setState_self (addr : Address) (key : Hash) :
    db.setState addr key (db.state addr key) = db := by
  ext a k <;> try rfl
  simp only [setState_state]
  split_ifs with h
  · rw [h.1, h.2]
  · rfl

end StateDB

theorem sum_update_one {α : Type} [DecidableEq α] {W : Finset α} {x : α} (hx : x ∈ W)
    {f g : α → Nat} (hfg : ∀ s, s ≠ x → g s = f s) :
    (∑ s ∈ W, g s) + f x = (∑ s ∈ W, f s) + g x := by
  have h : ∑ s ∈ W.erase x, g s = ∑ s ∈ W.erase x, f s :=
    Finset.sum_congr rfl fun s hs => hfg s (Finset.ne_of_mem_erase hs)
  rw [← Finset.add_sum_erase W g hx, ← Finset.add_sum_erase W f hx, h]
  omega

/-- The execution context `*EVM`, as the bridge and the host context read it: the call depth,
the state, the chain configuration, and the block and transaction fields. -/
structure EVM where
  depth : Nat
  stateDB : StateDB
  chainConfig : ChainConfig
  blockNumber : Nat
  getHash : Word64 → Hash
  coinbase : Address
  time : Nat
  gasLimit : Word64
  difficulty : Nat
  gasPrice : Nat
  origin : Address
  deriving Inhabited

end EvmcBridge
