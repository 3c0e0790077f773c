import EvmcBridge.State

/-!
# Storage writes

`SetStorage` writes the new value into the slot and classifies the write for the engine's gas
accounting, adjusting the refund counter as it goes. A write that changes nothing returns
`Unchanged` at once. Any other write reads the slot's current value and its committed value
(the value at the start of the transaction), stores the new value, and then follows one of two
decision trees:

* *legacy metering* compares the current and new values against zero only;
* *net metering* (EIP-2200 and EIP-1884 both enabled) compares the triple
  (original, current, new), grants or takes back the clear refund, and grants a reset refund
  when the slot returns to its original value.

**Theorem (`setStorage_write`).** Whatever the mode and the branch, after `SetStorage(a, k, v)`
returns the slot holds `v`, no other slot and no committed value has changed, and writing `v`
again returns `Unchanged` and changes nothing.

**Theorem (`setStorage_status`).** The status returned is a table over the slot's original,
current and new values, and the one write that does not return is an un-clearing under net
metering whose clear refund the counter no longer holds.

**Theorem (`setStorageNet_refund`).** In net-metering mode one write moves the refund counter
by the change in the slot's *clear potential* (the clear refund it holds outstanding: granted
while an originally nonzero slot is zero) plus the reset refund when the write restores the
original value. The subtraction is made only when the potential is present, so it cannot take
the counter below zero when the counter holds the potential. `Refund.lean` sums this over runs.
-/

namespace EvmcBridge

/-- `evmc.StorageStatus`. -/
inductive StorageStatus
  | unchanged | modified | modifiedAgain | added | deleted
  deriving DecidableEq, Repr

/-- The outcome of one of the two decision trees: a status and a state that differs from the
written state in its refund counter only. -/
def StorageStatus.Keeps (db : StateDB) : StorageStatus × StateDB → Prop
  | (_, db') => db' = { db with refund := db'.refund }

/-- The status of a write as a table over the slot's original, current and new values: legacy
metering compares the current and new values against zero; net metering first asks whether the
slot has already changed in this transaction. -/
def StorageStatus.classify (net : Bool) (original current value : Hash) : StorageStatus :=
  if current = value then .unchanged
  else if net ∧ original ≠ current then .modifiedAgain
  else if current = 0 then .added
  else if value = 0 then .deleted
  else .modified

variable (vars : Vars)

namespace HostContext

/-- The legacy decision tree of `SetStorage`, after the write. -/
def setStorageLegacy (db : StateDB) (oldValue value : Hash) : StorageStatus × StateDB :=
  if oldValue = 0 then (.added, db)
  else if value = 0 then (.deleted, db.addRefund vars.sstoreRefundGas)
  else (.modified, db)

/-- Step 2.2.1 of the net-metering tree, for a slot already changed in this transaction: with a
nonzero original, un-clearing the slot takes the clear refund back, and clearing it grants the
refund again. -/
def adjustClearRefund (db : StateDB) (original current value : Hash) : Option StateDB :=
  if original ≠ 0 then
    if current = 0 then db.subRefund vars.netSstoreClearRefund
    else if value = 0 then some (db.addRefund vars.netSstoreClearRefund)
    else some db
  else some db

/-- Step 2.2.2: a slot restored to its original value gets the reset refund. -/
def addResetRefund (resetClearRefund cleanRefund : Nat) (db : StateDB) (original value : Hash) :
    StateDB :=
  if original = value then
    if original = 0 then db.addRefund resetClearRefund else db.addRefund cleanRefund
  else db

/-- The net-metering decision tree of `SetStorage`, after the write. -/
def setStorageNet (hasEIP2200 : Bool) (db : StateDB) (original current value : Hash) :
    Option (StorageStatus × StateDB) :=
  let resetClearRefund :=
    if hasEIP2200 then vars.sstoreSetGasEIP2200 - vars.sloadGasEIP2200
    else vars.netSstoreResetClearRefund
  let cleanRefund :=
    if hasEIP2200 then vars.sstoreResetGasEIP2200 - vars.sloadGasEIP2200
    else vars.netSstoreResetRefund
  if original = current then
    if original = 0 then some (.added, db)
    else if value = 0 then some (.deleted, db.addRefund vars.netSstoreClearRefund)
    else some (.modified, db)
  else
    (adjustClearRefund vars db original current value).map fun db =>
      (.modifiedAgain, addResetRefund resetClearRefund cleanRefund db original value)

/-- Net metering is in force: EIP-2200 and EIP-1884 are both enabled at the current block. -/
def netMetering (env : EVM) : Bool :=
  env.chainConfig.isEnabled .eip2200 env.blockNumber &&
    env.chainConfig.isEnabled .eip1884 env.blockNumber

/-- `SetStorage`. The new state is `none` when `SubRefund` would take the counter below zero. -/
def setStorage (env : EVM) (addr : Address) (key value : Hash) :
    Option (StorageStatus × StateDB) :=
  let db := env.stateDB
  let oldValue := db.getState addr key
  if oldValue = value then some (.unchanged, db)
  else
    let current := db.getState addr key
    let original := db.getCommittedState addr key
    let db := db.setState addr key value
    let hasEIP2200 := env.chainConfig.isEnabled .eip2200 env.blockNumber
    let hasEIP1884 := env.chainConfig.isEnabled .eip1884 env.blockNumber
    let hasNetStorageCostEIP := hasEIP2200 && hasEIP1884
    if !hasNetStorageCostEIP then some (setStorageLegacy vars db oldValue value)
    else setStorageNet vars hasEIP2200 db original current value

/-- `GetStorage`. -/
def getStorage (env : EVM) (addr : Address) (key : Hash) : Hash :=
  env.stateDB.getState addr key

/-! ## Both trees touch the refund counter only -/

theorem setStorageLegacy_keeps (db : StateDB) (oldValue value : Hash) :
    StorageStatus.Keeps db (setStorageLegacy vars db oldValue value) := by
  unfold setStorageLegacy
  split_ifs <;> rfl

theorem adjustClearRefund_keeps {db db' : StateDB} {o c v : Hash}
    (h : adjustClearRefund vars db o c v = some db') : db' = { db with refund := db'.refund } := by
  unfold adjustClearRefund StateDB.subRefund at h
  split_ifs at h <;> cases h <;> rfl

theorem addResetRefund_keeps (R C : Nat) (db : StateDB) (o v : Hash) :
    addResetRefund R C db o v = { db with refund := (addResetRefund R C db o v).refund } := by
  unfold addResetRefund
  split_ifs <;> rfl

theorem setStorageNet_keeps {e : Bool} {db : StateDB} {o c v : Hash} {r : StorageStatus × StateDB}
    (h : setStorageNet vars e db o c v = some r) : StorageStatus.Keeps db r := by
  dsimp only [setStorageNet] at h
  by_cases hoc : o = c
  · rw [if_pos hoc] at h
    split_ifs at h <;> cases h <;> rfl
  · rw [if_neg hoc] at h
    obtain ⟨db₁, h₁, rfl⟩ := Option.map_eq_some'.mp h
    show _ = _
    rw [addResetRefund_keeps, adjustClearRefund_keeps vars h₁]

theorem setStorage_unchanged (env : EVM) {addr : Address} {key value : Hash}
    (h : env.stateDB.state addr key = value) :
    setStorage vars env addr key value = some (.unchanged, env.stateDB) := if_pos h

theorem setStorage_keeps {env : EVM} {addr : Address} {key value : Hash}
    {r : StorageStatus × StateDB} (h : setStorage vars env addr key value = some r) :
    StorageStatus.Keeps (env.stateDB.setState addr key value) r := by
  dsimp only [setStorage] at h
  split_ifs at h with hv hnet
  · cases h
    simp only [StorageStatus.Keeps, ← hv, StateDB.getState, StateDB.setState_self]
  · cases h
    exact setStorageLegacy_keeps vars _ _ _
  · exact setStorageNet_keeps vars h

/-- **`SetStorage` writes its slot and only its slot, and is idempotent.** -/
theorem setStorage_write {env : EVM} {addr : Address} {key value : Hash} {st : StorageStatus}
    {db' : StateDB} (h : setStorage vars env addr key value = some (st, db')) :
    db'.getState addr key = value ∧
      (∀ a k, (a, k) ≠ (addr, key) → db'.getState a k = env.stateDB.getState a k) ∧
      db'.committedState = env.stateDB.committedState ∧
      setStorage vars { env with stateDB := db' } addr key value = some (.unchanged, db') := by
  have hk : db' = _ := setStorage_keeps vars h
  have hv : db'.getState addr key = value := by rw [hk]; simp
  refine ⟨hv, fun a k hak => ?_, by rw [hk]; rfl, setStorage_unchanged vars _ hv⟩
  rw [hk]
  simp only [StateDB.getState, StateDB.setState_state]
  rw [if_neg (by simpa [Prod.ext_iff] using hak)]

/-- Under net metering with the constants of `vars`: a slot committed at 5 and cleared in this
transaction, with the clear refund in the counter, is written back to 5. The write takes the
clear refund back with `SubRefund`, grants the reset refund 4200 and returns `ModifiedAgain`;
writing 5 again returns `Unchanged`. -/
theorem setStorage_write_restore :
    let o : Address → Hash → Hash := fun a k => if a = 0 ∧ k = 0 then 5 else 0
    let env : EVM := { (default : EVM) with
      chainConfig := ⟨fun _ _ => true⟩
      stateDB := { (default : StateDB) with committedState := o, refund := 15000 } }
    let db' : StateDB := { env.stateDB.setState 0 0 5 with refund := 4200 }
    setStorage Vars.standard env 0 0 5 = some (.modifiedAgain, db') ∧
      setStorage Vars.standard { env with stateDB := db' } 0 0 5 = some (.unchanged, db') := by
  intro o env db'
  have h : setStorage Vars.standard env 0 0 5 = some (.modifiedAgain, db') := by
    simp only [o, env, db']
    rfl
  exact ⟨h, (setStorage_write Vars.standard h).2.2.2⟩

/-! ## The status -/

theorem adjustClearRefund_eq_none (db : StateDB) (o c v : Hash) :
    adjustClearRefund vars db o c v = none ↔
      o ≠ 0 ∧ c = 0 ∧ db.refund < vars.netSstoreClearRefund := by
  unfold adjustClearRefund
  split_ifs <;> simp_all [StateDB.subRefund]

/-- **The status `SetStorage` returns**, and the one write it refuses: under net metering,
un-clearing a slot whose clear refund the counter no longer holds. -/
theorem setStorage_status (env : EVM) (addr : Address) (key value : Hash) :
    let o := env.stateDB.committedState addr key
    let c := env.stateDB.state addr key
    (setStorage vars env addr key value).map Prod.fst =
      if netMetering env ∧ c ≠ value ∧ o ≠ c ∧ o ≠ 0 ∧ c = 0 ∧
        env.stateDB.refund < vars.netSstoreClearRefund
      then none else some (StorageStatus.classify (netMetering env) o c value) := by
  dsimp only
  by_cases hcv : env.stateDB.state addr key = value
  · simp [setStorage_unchanged vars env hcv, hcv, StorageStatus.classify]
  dsimp only [setStorage, StateDB.getState, StateDB.getCommittedState]
  rw [if_neg hcv]
  have hrefund : (env.stateDB.setState addr key value).refund = env.stateDB.refund := rfl
  generalize env.stateDB.setState addr key value = db at *
  generalize env.stateDB.committedState addr key = o at *
  generalize env.stateDB.state addr key = c at *
  unfold netMetering StorageStatus.classify
  cases hnet : (env.chainConfig.isEnabled .eip2200 env.blockNumber &&
    env.chainConfig.isEnabled .eip1884 env.blockNumber)
  · simp only [Bool.not_false, if_true, Option.map_some', false_and, if_false, Bool.false_eq_true,
      setStorageLegacy, if_neg hcv]
    split_ifs <;> rfl
  · obtain ⟨h2200, -⟩ := (Bool.and_eq_true _ _).mp hnet
    simp only [Bool.not_true, Bool.false_eq_true, if_false, h2200, true_and, if_neg hcv,
      setStorageNet]
    by_cases hoc : o = c
    · subst hoc
      simp only [ne_eq, not_true_eq_false, false_and, and_false, if_false]
      split_ifs <;> rfl
    · have hnone := adjustClearRefund_eq_none vars db o c value
      rw [if_neg hoc, Option.map_map, if_pos hoc]
      cases h : adjustClearRefund vars db o c value with
      | none =>
        obtain ⟨ho, hc, hr⟩ := hnone.mp h
        exact (if_pos ⟨hcv, hoc, ho, hc, hrefund ▸ hr⟩).symm
      | some db' =>
        exact (if_neg fun hh => Option.noConfusion
          ((hnone.mpr ⟨hh.2.2.1, hh.2.2.2.1, hrefund ▸ hh.2.2.2.2⟩).symm.trans h)).symm

/-! ## Net metering: refunds against the clear potential -/

/-- The clear refund a slot holds outstanding under net metering: the slot was nonzero when the
transaction began and is zero now. -/
def clearPotential (original current : Hash) : Nat :=
  if original ≠ 0 ∧ current = 0 then vars.netSstoreClearRefund else 0

/-- The EIP-2200 refund for restoring a slot to `original`: `resetClearRefund` when the original
is zero, `cleanRefund` otherwise. -/
def resetRefund (original : Hash) : Nat :=
  if original = 0 then vars.sstoreSetGasEIP2200 - vars.sloadGasEIP2200
  else vars.sstoreResetGasEIP2200 - vars.sloadGasEIP2200

theorem adjustClearRefund_refund {db : StateDB} {o c v : Hash} (hcv : c ≠ v)
    (h : clearPotential vars o c ≤ db.refund) :
    adjustClearRefund vars db o c v =
      some { db with refund := db.refund - clearPotential vars o c + clearPotential vars o v } := by
  unfold adjustClearRefund clearPotential at *
  by_cases ho : o = 0
  · simp only [ho, ne_eq, not_true_eq_false, false_and, if_false, Nat.sub_zero, Nat.add_zero]
  by_cases hc : c = 0
  · have hv : ¬v = 0 := fun hv => hcv (hc.trans hv.symm)
    simp only [ne_eq, ho, not_false_eq_true, hc, and_self, if_true, hv, and_false, if_false,
      Nat.add_zero] at h ⊢
    exact StateDB.subRefund_eq_some _ h
  · by_cases hv : v = 0 <;>
      simp only [ne_eq, ho, not_false_eq_true, hc, hv, true_and, and_false, if_true, if_false,
        Nat.sub_zero, Nat.add_zero, StateDB.addRefund, Option.some.injEq]

theorem addResetRefund_refund (R C : Nat) (db : StateDB) (o v : Hash) :
    (addResetRefund R C db o v).refund =
      db.refund + if o = v then (if o = 0 then R else C) else 0 := by
  unfold addResetRefund
  split_ifs <;> simp

/-- **One net-metering write.** Given a counter that holds the slot's clear potential, the tree
returns, and moves the counter by the change in potential plus the reset refund of a write that
restores the original value. -/
theorem setStorageNet_refund (db : StateDB) {o c v : Hash} (hcv : c ≠ v)
    (h : clearPotential vars o c ≤ db.refund) :
    ∃ st, setStorageNet vars true db o c v = some (st, { db with
      refund := db.refund - clearPotential vars o c + clearPotential vars o v +
        if v = o then resetRefund vars o else 0 }) := by
  dsimp only [setStorageNet]
  by_cases hoc : o = c
  · subst hoc
    have hφ : clearPotential vars o o = 0 := if_neg fun h => h.1 h.2
    rw [if_pos rfl, hφ, if_neg (Ne.symm hcv), Nat.sub_zero, Nat.add_zero]
    by_cases ho : o = 0
    · exact ⟨.added, by simp [ho, clearPotential]⟩
    by_cases hv : v = 0
    · exact ⟨.deleted, by rw [if_neg ho, if_pos hv, clearPotential, if_pos ⟨ho, hv⟩]; rfl⟩
    · exact ⟨.modified, by rw [if_neg ho, if_neg hv, clearPotential, if_neg fun h => hv h.2]; rfl⟩
  · rw [if_neg hoc, adjustClearRefund_refund vars hcv h]
    refine ⟨.modifiedAgain, ?_⟩
    simp only [Option.map_some', Option.some.injEq, Prod.mk.injEq, true_and]
    rw [addResetRefund_keeps, addResetRefund_refund]
    simp [resetRefund, eq_comm (a := v)]

/-- **One `SetStorage` under net metering**, unchanged writes included: the counter moves by
the slot's change in clear potential, plus the reset refund when the write restores the original
value from a different one. -/
theorem setStorage_netRefund {env : EVM} (hnet : netMetering env = true) (addr : Address)
    (key value : Hash)
    (h : clearPotential vars (env.stateDB.committedState addr key) (env.stateDB.state addr key) ≤
      env.stateDB.refund) :
    ∃ st, setStorage vars env addr key value = some (st, { env.stateDB.setState addr key value with
      refund := env.stateDB.refund -
          clearPotential vars (env.stateDB.committedState addr key) (env.stateDB.state addr key) +
          clearPotential vars (env.stateDB.committedState addr key) value +
        if value = env.stateDB.committedState addr key ∧ env.stateDB.state addr key ≠ value
        then resetRefund vars (env.stateDB.committedState addr key) else 0 }) := by
  by_cases hcv : env.stateDB.state addr key = value
  · subst hcv
    refine ⟨.unchanged, ?_⟩
    rw [setStorage_unchanged vars env rfl, StateDB.setState_self]
    simp only [ne_eq, not_true_eq_false, and_false, if_false, add_zero, Nat.sub_add_cancel h]
  · obtain ⟨h2200, h1884⟩ := (Bool.and_eq_true _ _).mp hnet
    obtain ⟨st, hst⟩ :=
      setStorageNet_refund vars (env.stateDB.setState addr key value) hcv (by simpa using h)
    refine ⟨st, ?_⟩
    dsimp only [setStorage, StateDB.getState, StateDB.getCommittedState]
    rw [if_neg hcv]
    simp only [h2200, h1884, Bool.and_self, Bool.not_true, Bool.false_eq_true, if_false, hst,
      StateDB.setState_refund, ne_eq, hcv, not_false_eq_true, and_true]

end HostContext

end EvmcBridge
