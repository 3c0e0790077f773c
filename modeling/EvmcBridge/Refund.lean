import EvmcBridge.Storage
import Mathlib.Algebra.Order.BigOperators.Group.Finset

/-!
# The refund counter over a transaction

A transaction makes a sequence of `SetStorage` calls, interleaved with other operations that
only add to the refund counter. This file follows such a sequence under net metering, from a
state where every slot still holds its committed value.

**The ledger.** Kept apart from the state, the `Ledger` records per slot its current value and
how many writes restored it to its original value from a different one, computed from the
writes alone.

**Theorem (`runTx_netRefund`).** The run never reaches a `SubRefund` that would take the counter
below zero, and after it the counter has grown by what the other operations added plus, summed
over the written slots, the slot's clear potential and its reset refund times its restore count.
A write `c → x → c` nets exactly the reset refund of `c`.

**Theorem (`runTx_legacyRefund`).** Without net metering every run returns, and the counter grows
by what the other operations added plus `SstoreRefundGas` for each write that clears a nonzero
slot.

The proof of the first is an induction over the steps with `W`, a set of slots outside which
the ledger is still at its start. The counter holds a base plus the sum over `W`. One write
changes the sum at its own slot only, by exactly what `setStorage_netRefund` adds to the
counter, and the potential it may take back is part of the sum.
-/

namespace EvmcBridge

open HostContext

/-- One step of a transaction as the refund counter sees it: a `SetStorage` call, or another
operation that only adds `gas` to the counter. -/
inductive TxOp
  | setStorage (addr : Address) (key value : Hash)
  | addRefund (gas : Nat)
  deriving DecidableEq, Repr

namespace TxOp

/-- The slots the steps write. -/
def written : List TxOp → Finset (Address × Hash)
  | [] => ∅
  | setStorage addr key _ :: ops => insert (addr, key) (written ops)
  | addRefund _ :: ops => written ops

/-- What the other operations add to the counter. -/
def added : List TxOp → Nat
  | [] => 0
  | setStorage .. :: ops => added ops
  | addRefund gas :: ops => gas + added ops

/-- How many steps clear a nonzero slot, against the current values `cur` as the steps change
them. -/
def clears (cur : Address → Hash → Hash) : List TxOp → Nat
  | [] => 0
  | setStorage addr key value :: ops =>
    (if cur addr key ≠ 0 ∧ value = 0 then 1 else 0) +
      clears (fun a k => if a = addr ∧ k = key then value else cur a k) ops
  | addRefund _ :: ops => clears cur ops

end TxOp

variable (vars : Vars)

/-- The effect of one step on the state: `none` when `SubRefund` would underflow. -/
def TxOp.apply (env : EVM) : TxOp → Option StateDB
  | .setStorage addr key value => (HostContext.setStorage vars env addr key value).map Prod.snd
  | .addRefund gas => some (env.stateDB.addRefund gas)

/-- The steps of a transaction, in order, in the execution context `env`. -/
def runTx (env : EVM) : List TxOp → Option StateDB
  | [] => some env.stateDB
  | op :: ops => (op.apply vars env).bind fun db => runTx { env with stateDB := db } ops

/-- Per slot: its current value, and how many writes restored it to its original value from a
different one. -/
structure Ledger where
  current : Address → Hash → Hash
  restores : Address → Hash → Nat

namespace Ledger

/-- The ledger when the transaction begins. -/
def start (db : StateDB) : Ledger := ⟨db.state, fun _ _ => 0⟩

/-- One step, given the original values. -/
def step (original : Address → Hash → Hash) (L : Ledger) : TxOp → Ledger
  | .setStorage addr key value =>
    { current := fun a k => if a = addr ∧ k = key then value else L.current a k
      restores := fun a k =>
        if a = addr ∧ k = key ∧ value = original a k ∧ L.current a k ≠ value
        then L.restores a k + 1 else L.restores a k }
  | .addRefund _ => L

/-- The ledger after the steps `ops`. -/
def replay (original : Address → Hash → Hash) (L : Ledger) (ops : List TxOp) : Ledger :=
  ops.foldl (step original) L

end Ledger

/-- What a slot has earned: its clear potential and `restores` reset refunds. -/
def slotRefund (original current : Hash) (restores : Nat) : Nat :=
  clearPotential vars original current + resetRefund vars original * restores

/-- `slotRefund` of each slot under a ledger. -/
def Ledger.earned (o : Address → Hash → Hash) (L : Ledger) (s : Address × Hash) : Nat :=
  slotRefund vars (o s.1 s.2) (L.current s.1 s.2) (L.restores s.1 s.2)

/-! ## One step -/

section Step

variable {vars} {o : Address → Hash → Hash} {L : Ledger} {addr : Address} {key value : Hash}

theorem Ledger.earned_step_ne {s : Address × Hash} (hs : s ≠ (addr, key)) :
    (L.step o (.setStorage addr key value)).earned vars o s = L.earned vars o s := by
  simp only [earned, step]
  rw [if_neg fun h => hs (Prod.ext h.1 h.2), if_neg fun h => hs (Prod.ext h.1 h.2.1)]

theorem Ledger.earned_step_self :
    (L.step o (.setStorage addr key value)).earned vars o (addr, key) =
      clearPotential vars (o addr key) value + resetRefund vars (o addr key) *
        (L.restores addr key + if value = o addr key ∧ L.current addr key ≠ value then 1 else 0) := by
  simp only [earned, slotRefund, step, and_self, true_and, if_true]
  split_ifs <;> rfl

end Step

/-! ## The run -/

/-- The run invariant: the ledger is the state's storage, it is still at its start outside `W`,
and the counter holds `base` plus what the slots of `W` have earned. -/
structure RefundInv (o : Address → Hash → Hash) (db : StateDB) (L : Ledger)
    (W : Finset (Address × Hash)) (base : Nat) : Prop where
  current : db.state = L.current
  committed : db.committedState = o
  outside : ∀ s ∉ W, L.current s.1 s.2 = o s.1 s.2 ∧ L.restores s.1 s.2 = 0
  refund : db.refund = base + ∑ s ∈ W, L.earned vars o s

theorem RefundInv.setStorage {env : EVM} (hnet : netMetering env = true)
    {o : Address → Hash → Hash} {L : Ledger} {W : Finset (Address × Hash)} {base : Nat}
    (hinv : RefundInv vars o env.stateDB L W base) (addr : Address) (key value : Hash) :
    ∃ db, TxOp.apply vars env (.setStorage addr key value) = some db ∧
      RefundInv vars o db (L.step o (.setStorage addr key value)) (insert (addr, key) W) base := by
  set x : Address × Hash := (addr, key)
  have hW : ∑ s ∈ insert x W, L.earned vars o s = ∑ s ∈ W, L.earned vars o s :=
    Finset.sum_insert_of_eq_zero_if_not_mem fun hx => by
      simp [Ledger.earned, slotRefund, clearPotential, hinv.outside x hx]
  have hc : env.stateDB.state addr key = L.current addr key := by rw [hinv.current]
  have ho : env.stateDB.committedState addr key = o addr key := by rw [hinv.committed]
  have hpot : clearPotential vars (o addr key) (L.current addr key) ≤ env.stateDB.refund := by
    have := Finset.single_le_sum (f := L.earned vars o) (fun _ _ => Nat.zero_le _)
      (Finset.mem_insert_self x W)
    have hx : clearPotential vars (o addr key) (L.current addr key) ≤ L.earned vars o x :=
      Nat.le_add_right _ _
    rw [hinv.refund, ← hW]
    omega
  obtain ⟨st, hst⟩ := setStorage_netRefund vars hnet addr key value (by rwa [hc, ho])
  refine ⟨_, congrArg (Option.map Prod.snd) hst, ?_, hinv.committed, ?_, ?_⟩
  · funext a k
    simp [Ledger.step, hinv.current]
  · intro s hs
    obtain ⟨hsx, hsW⟩ := not_or.mp (Finset.mem_insert.not.mp hs)
    obtain ⟨h1, h2⟩ := hinv.outside s hsW
    have : ¬(s.1 = addr ∧ s.2 = key) := fun h => hsx (Prod.ext h.1 h.2)
    simp only [Ledger.step]
    rw [if_neg this, if_neg fun h => this ⟨h.1, h.2.1⟩]
    exact ⟨h1, h2⟩
  · set L' := L.step o (.setStorage addr key value)
    have hupd : (∑ s ∈ insert x W, L'.earned vars o s) + L.earned vars o x =
        (∑ s ∈ insert x W, L.earned vars o s) + L'.earned vars o x :=
      sum_update_one (Finset.mem_insert_self x W) fun s hs => Ledger.earned_step_ne hs
    have hEx : L.earned vars o x =
        clearPotential vars (o addr key) (L.current addr key) +
          resetRefund vars (o addr key) * L.restores addr key := rfl
    have hr := hinv.refund
    rw [← hW] at hr
    rw [Ledger.earned_step_self] at hupd
    dsimp only
    rw [hc, ho]
    split_ifs at hupd ⊢ <;> simp only [mul_add, mul_one, add_zero] at hupd <;> omega

theorem RefundInv.addRefund {db : StateDB} {o : Address → Hash → Hash} {L : Ledger}
    {W : Finset (Address × Hash)} {base : Nat} (hinv : RefundInv vars o db L W base) (gas : Nat) :
    RefundInv vars o (db.addRefund gas) L W (base + gas) where
  current := hinv.current
  committed := hinv.committed
  outside := hinv.outside
  refund := by rw [StateDB.addRefund_refund, hinv.refund]; omega

/-- **The run lemma.** From any state satisfying the invariant, the run returns, and the
invariant holds after it with the written slots added to `W` and the added refund to `base`. -/
theorem RefundInv.run {env : EVM} (hnet : netMetering env = true) {o : Address → Hash → Hash}
    {L : Ledger} {W : Finset (Address × Hash)} {base : Nat}
    (hinv : RefundInv vars o env.stateDB L W base) (ops : List TxOp) :
    ∃ db, runTx vars env ops = some db ∧
      RefundInv vars o db (L.replay o ops) (W ∪ TxOp.written ops) (base + TxOp.added ops) := by
  induction ops generalizing env L W base with
  | nil => exact ⟨_, rfl, by simpa [TxOp.written, TxOp.added, Ledger.replay] using hinv⟩
  | cons op ops ih =>
    cases op with
    | setStorage addr key value =>
      obtain ⟨db, hdb, hinv₁⟩ := hinv.setStorage vars hnet addr key value
      obtain ⟨db', hrun, hinv₂⟩ := @ih { env with stateDB := db } hnet _ _ _ hinv₁
      refine ⟨db', by simp only [runTx, hdb, Option.some_bind, hrun], ?_⟩
      simpa [Ledger.replay, TxOp.written, TxOp.added, Finset.insert_union,
        Finset.union_insert] using hinv₂
    | addRefund gas =>
      obtain ⟨db', hrun, hinv₂⟩ := @ih { env with stateDB := env.stateDB.addRefund gas } hnet _ _ _
        (hinv.addRefund vars gas)
      refine ⟨db', by simp only [runTx, TxOp.apply, Option.some_bind, hrun], ?_⟩
      simpa [Ledger.replay, Ledger.step, TxOp.written, TxOp.added, Nat.add_assoc] using hinv₂

theorem RefundInv.start (db : StateDB) (hstart : db.state = db.committedState) :
    RefundInv vars db.committedState db (Ledger.start db) ∅ db.refund where
  current := rfl
  committed := rfl
  outside _ _ := ⟨congrFun (congrFun hstart _) _, rfl⟩
  refund := by simp

/-- **Net-metering refunds over a transaction.** From a state where every slot holds its
committed value, every sequence of writes and refund additions runs without a `SubRefund`
below zero. After it, the counter has grown by the added refund plus, over the written slots,
each slot's clear potential and its reset refund times the number of writes that restored it.
A write `c → x → c` nets exactly the reset refund of `c`. -/
theorem runTx_netRefund {env : EVM} (hnet : netMetering env = true)
    (hstart : env.stateDB.state = env.stateDB.committedState) :
    (∀ ops : List TxOp, ∃ db, runTx vars env ops = some db ∧
      db.refund = env.stateDB.refund + TxOp.added ops +
        ∑ s ∈ TxOp.written ops, slotRefund vars (env.stateDB.committedState s.1 s.2)
          (db.state s.1 s.2)
          (((Ledger.start env.stateDB).replay env.stateDB.committedState ops).restores s.1 s.2)) ∧
    ∀ addr key x, x ≠ env.stateDB.committedState addr key →
      ∃ db, runTx vars env
          [.setStorage addr key x, .setStorage addr key (env.stateDB.committedState addr key)] =
            some db ∧
        db.refund = env.stateDB.refund + resetRefund vars (env.stateDB.committedState addr key) := by
  have hrun (ops : List TxOp) := (RefundInv.start vars env.stateDB hstart).run vars hnet ops
  refine ⟨fun ops => ?_, fun addr key x hx => ?_⟩
  · obtain ⟨db, hdb, hinv⟩ := hrun ops
    refine ⟨db, hdb, ?_⟩
    rw [hinv.refund, Finset.empty_union, hinv.current]
    rfl
  · obtain ⟨db, hdb, hinv⟩ := hrun [.setStorage addr key x,
      .setStorage addr key (env.stateDB.committedState addr key)]
    refine ⟨db, hdb, ?_⟩
    have hcx : env.stateDB.state addr key ≠ x := by rw [hstart]; exact Ne.symm hx
    rw [hinv.refund]
    simp [TxOp.written, TxOp.added, Ledger.replay, Ledger.step, Ledger.start, Ledger.earned,
      slotRefund, clearPotential, hx, hcx, hx.symm]

/-- Under net metering with the constants of `vars`, `5 → 0 → 5` grants the clear refund, takes
it back with `SubRefund`, and nets the reset refund of a nonzero slot, 4200. -/
theorem runTx_netRefund_reset :
    let f : Address → Hash → Hash := fun a k => if a = 0 ∧ k = 0 then 5 else 0
    let env : EVM := { (default : EVM) with
      chainConfig := ⟨fun _ _ => true⟩
      stateDB := { (default : StateDB) with state := f, committedState := f } }
    ∃ db, runTx Vars.standard env [.setStorage 0 0 0, .setStorage 0 0 5] = some db ∧
      db.refund = 4200 := by
  intro f env
  obtain ⟨db, h, hr⟩ := (@runTx_netRefund Vars.standard env rfl rfl).2 0 0 0 (by decide)
  exact ⟨db, h, hr.trans (by decide)⟩

/-! ## Legacy metering -/

theorem setStorage_legacyRefund {env : EVM} (hlegacy : netMetering env = false)
    (addr : Address) (key value : Hash) :
    ∃ st, HostContext.setStorage vars env addr key value =
      some (st, { env.stateDB.setState addr key value with
        refund := env.stateDB.refund +
          if env.stateDB.state addr key ≠ 0 ∧ value = 0 then vars.sstoreRefundGas else 0 }) := by
  by_cases hcv : env.stateDB.state addr key = value
  · refine ⟨.unchanged, ?_⟩
    rw [HostContext.setStorage_unchanged vars env hcv, ← hcv, StateDB.setState_self,
      if_neg fun h => h.1 h.2]
    rfl
  · have hnet : (env.chainConfig.isEnabled .eip2200 env.blockNumber &&
        env.chainConfig.isEnabled .eip1884 env.blockNumber) = false := hlegacy
    simp only [HostContext.setStorage, StateDB.getState, if_neg hcv, hnet, Bool.not_false,
      if_true, HostContext.setStorageLegacy]
    by_cases hc : env.stateDB.state addr key = 0
    · exact ⟨.added, by rw [if_pos hc, if_neg fun h => h.1 hc]; rfl⟩
    by_cases hv : value = 0
    · exact ⟨.deleted, by rw [if_neg hc, if_pos hv, if_pos ⟨hc, hv⟩]; rfl⟩
    · exact ⟨.modified, by rw [if_neg hc, if_neg hv, if_neg fun h => hv h.2]; rfl⟩

/-- **Legacy refunds over a transaction.** Without net metering every sequence of writes and
refund additions runs, and the counter grows by the added refund plus `SstoreRefundGas` for
each write that clears a nonzero slot; it never decreases. -/
theorem runTx_legacyRefund {env : EVM} (hlegacy : netMetering env = false) (ops : List TxOp) :
    ∃ db, runTx vars env ops = some db ∧
      db.refund = env.stateDB.refund + TxOp.added ops +
        vars.sstoreRefundGas * TxOp.clears env.stateDB.state ops := by
  induction ops generalizing env with
  | nil => exact ⟨_, rfl, by simp [TxOp.added, TxOp.clears]⟩
  | cons op ops ih =>
    cases op with
    | setStorage addr key value =>
      obtain ⟨st, hst⟩ := setStorage_legacyRefund vars hlegacy addr key value
      obtain ⟨db, hrun, hdb⟩ := @ih { env with stateDB := { env.stateDB.setState addr key value with
        refund := env.stateDB.refund + if env.stateDB.state addr key ≠ 0 ∧ value = 0
          then vars.sstoreRefundGas else 0 } } hlegacy
      refine ⟨db, by simp only [runTx, TxOp.apply, hst, Option.map_some', Option.some_bind, hrun],
        ?_⟩
      rw [hdb]
      simp only [TxOp.added, TxOp.clears, StateDB.setState]
      split_ifs <;> simp only [Nat.mul_add, Nat.mul_one, Nat.mul_zero] <;> omega
    | addRefund gas =>
      obtain ⟨db, hrun, hdb⟩ := @ih { env with stateDB := env.stateDB.addRefund gas } hlegacy
      refine ⟨db, by simp only [runTx, TxOp.apply, Option.some_bind, hrun], ?_⟩
      rw [hdb]
      simp only [TxOp.added, TxOp.clears, StateDB.addRefund]
      omega

/-- Without net metering, `0 → 5 → 0` in an empty slot earns one `SstoreRefundGas`, 15000. -/
theorem runTx_legacyRefund_clear :
    ∃ db, runTx Vars.standard default [.setStorage 0 0 5, .setStorage 0 0 0] = some db ∧
      db.refund = 15000 := by
  obtain ⟨db, h, hr⟩ :=
    @runTx_legacyRefund Vars.standard default rfl [.setStorage 0 0 5, .setStorage 0 0 0]
  exact ⟨db, h, hr.trans (by decide)⟩

end EvmcBridge
