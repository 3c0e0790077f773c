import EvmcBridge.Refund
import EvmcBridge.Selfdestruct
import EvmcBridge.Host

/-!
# The host callbacks over a transaction

Within a transaction the engine changes the state through three host callbacks: `SetStorage`,
`Selfdestruct` and `EmitLog`. Each has its own part of the state: storage for the first,
balances and the self-destructed set for the second, the log sequence for the third. The
refund counter is the one part two of them share, and only `SetStorage` can fail on it.

**Theorem (`runHost_interleaving`).** Take any interleaving of the three callbacks, and run each
kind on its own from the same state: the writes, the self-destructs, the log entries. If the
writes return, the interleaving returns, and its state is assembled from the three runs:
storage from the writes, balances and the self-destructed set from the self-destructs, the log
sequence from the log entries, and the counter is the writes' counter plus what the
self-destructs added. A self-destruct's refund can only help a later write.

The proof is an induction over the interleaving, with one lemma per callback saying that it
commutes with assembling. For `SetStorage` that lemma follows the decision trees: each reads
its slot and the counter, and a counter larger by a constant stays larger by it, through every
`AddRefund` and every `SubRefund` that returns.

**Theorem (`runTx_slotwise`).** Under net metering, from the start of a transaction, the writes
to different slots do not interact: two sequences that write each slot the same values in the
same order, and add the same refund, both return the same state, however they interleave the
slots. The counter is shared, but `Refund.lean` shows it equal to a sum of per-slot terms, and
the ledger at a slot is a function of the writes to that slot alone (`Ledger.replay_slot`).
-/

namespace EvmcBridge

open HostContext

/-- A host callback that changes the state. -/
inductive HostOp
  | setStorage (addr : Address) (key value : Hash)
  | selfdestruct (addr beneficiary : Address)
  | emitLog (addr : Address) (topics : List Hash) (data : Bytes)
  deriving DecidableEq, Repr

namespace HostOp

/-- The writes among the callbacks, in order. -/
def writes : List HostOp → List TxOp
  | [] => []
  | setStorage addr key value :: ops => .setStorage addr key value :: writes ops
  | selfdestruct .. :: ops => writes ops
  | emitLog .. :: ops => writes ops

/-- The self-destructs among the callbacks, in order. -/
def destructs : List HostOp → List (Address × Address)
  | [] => []
  | setStorage .. :: ops => destructs ops
  | selfdestruct addr beneficiary :: ops => (addr, beneficiary) :: destructs ops
  | emitLog .. :: ops => destructs ops

/-- The log entries among the callbacks, in order. -/
def entries : List HostOp → List (Address × List Hash × Bytes)
  | [] => []
  | setStorage .. :: ops => entries ops
  | selfdestruct .. :: ops => entries ops
  | emitLog addr topics data :: ops => (addr, topics, data) :: entries ops

end HostOp

variable (vars : Vars)

/-- The effect of one callback on the state: `none` when `SubRefund` would underflow. -/
def HostOp.apply (env : EVM) : HostOp → Option StateDB
  | .setStorage addr key value => (HostContext.setStorage vars env addr key value).map Prod.snd
  | .selfdestruct addr beneficiary => some (HostContext.selfdestruct vars env addr beneficiary)
  | .emitLog addr topics data => some (HostContext.emitLog env addr topics data)

/-- The callbacks of a transaction, in order, in the execution context `env`. -/
def runHost (env : EVM) : List HostOp → Option StateDB
  | [] => some env.stateDB
  | op :: ops => (op.apply vars env).bind fun db => runHost { env with stateDB := db } ops

/-- The state assembled from three runs: storage and the counter from `db`, plus the refund the
self-destruct run `sd` added to `base`; balances and the self-destructed set from `sd`; the log
sequence from `lg`. -/
@[simps] def StateDB.assemble (db : StateDB) (base : Nat) (sd lg : StateDB) : StateDB :=
  { db with
    refund := db.refund + sd.refund - base
    balance := sd.balance
    suicided := sd.suicided
    logs := lg.logs }

theorem StateDB.assemble_self (db : StateDB) : db.assemble db.refund db db = db := by
  simp only [StateDB.assemble, Nat.add_sub_cancel]

/-! ## Each callback commutes with assembling -/

section Assemble

variable {vars} {base : Nat} {sd lg : StateDB} (hb : base ≤ sd.refund)
include hb

theorem StateDB.assemble_addRefund (db : StateDB) (gas : Nat) :
    (db.addRefund gas).assemble base sd lg = (db.assemble base sd lg).addRefund gas := by
  simp only [StateDB.assemble, StateDB.addRefund, StateDB.mk.injEq, true_and, and_true]
  omega

theorem StateDB.assemble_subRefund {db db' : StateDB} {gas : Nat}
    (h : db.subRefund gas = some db') :
    (db.assemble base sd lg).subRefund gas = some (db'.assemble base sd lg) := by
  unfold StateDB.subRefund at h
  split at h <;> cases h
  rw [StateDB.subRefund_eq_some _ (by simp only [StateDB.assemble]; omega)]
  simp only [StateDB.assemble, Option.some.injEq, StateDB.mk.injEq, true_and, and_true]
  omega

theorem setStorageLegacy_assemble (db : StateDB) (oldValue value : Hash) :
    setStorageLegacy vars (db.assemble base sd lg) oldValue value =
      Prod.map id (StateDB.assemble · base sd lg) (setStorageLegacy vars db oldValue value) := by
  unfold setStorageLegacy
  split_ifs <;> simp only [Prod.map, id, StateDB.assemble_addRefund hb]

theorem adjustClearRefund_assemble {db db' : StateDB} {o c v : Hash}
    (h : adjustClearRefund vars db o c v = some db') :
    adjustClearRefund vars (db.assemble base sd lg) o c v = some (db'.assemble base sd lg) := by
  unfold adjustClearRefund at h ⊢
  split_ifs at h ⊢
  · exact StateDB.assemble_subRefund hb h
  all_goals cases h
  exacts [by rw [StateDB.assemble_addRefund hb], rfl, rfl]

theorem addResetRefund_assemble (R C : Nat) (db : StateDB) (o v : Hash) :
    addResetRefund R C (db.assemble base sd lg) o v =
      (addResetRefund R C db o v).assemble base sd lg := by
  unfold addResetRefund
  split_ifs <;> simp only [StateDB.assemble_addRefund hb]

theorem setStorageNet_assemble {e : Bool} {db db' : StateDB} {o c v : Hash} {st : StorageStatus}
    (h : setStorageNet vars e db o c v = some (st, db')) :
    setStorageNet vars e (db.assemble base sd lg) o c v = some (st, db'.assemble base sd lg) := by
  dsimp only [setStorageNet] at h ⊢
  by_cases hoc : o = c
  · rw [if_pos hoc] at h ⊢
    split_ifs at h ⊢ <;> cases h
    exacts [rfl, by rw [StateDB.assemble_addRefund hb], rfl]
  · rw [if_neg hoc] at h ⊢
    obtain ⟨db₁, h₁, hst⟩ := Option.map_eq_some'.mp h
    cases hst
    rw [adjustClearRefund_assemble hb h₁, Option.map_some', addResetRefund_assemble hb]

theorem setStorage_assemble {env : EVM} {db db' : StateDB} {addr : Address} {key value : Hash}
    {st : StorageStatus}
    (h : setStorage vars { env with stateDB := db } addr key value = some (st, db')) :
    setStorage vars { env with stateDB := db.assemble base sd lg } addr key value =
      some (st, db'.assemble base sd lg) := by
  dsimp only [setStorage] at h ⊢
  simp only [StateDB.getState, StateDB.getCommittedState, StateDB.assemble_state,
    StateDB.assemble_committedState] at h ⊢
  split_ifs at h ⊢ with hv hnet
  · cases h
    rfl
  · rw [show (db.assemble base sd lg).setState addr key value =
      (db.setState addr key value).assemble base sd lg from rfl,
      setStorageLegacy_assemble hb, Option.some.inj h]
    rfl
  · exact setStorageNet_assemble hb h

theorem selfdestruct_assemble (env : EVM) (db : StateDB) (addr beneficiary : Address) :
    selfdestruct vars { env with stateDB := db.assemble base sd lg } addr beneficiary =
      db.assemble base (selfdestruct vars { env with stateDB := sd } addr beneficiary) lg := by
  simp only [selfdestruct, StateDB.hasSuicided, StateDB.getBalance, StateDB.assemble_suicided,
    StateDB.assemble_balance]
  cases sd.suicided addr <;> apply StateDB.ext <;> try rfl
  simp only [Bool.not_false, if_true, StateDB.suicide_refund, StateDB.addBalance_refund,
    StateDB.addRefund_refund, StateDB.assemble_refund]
  omega

omit hb in
theorem emitLog_assemble (env : EVM) (db : StateDB) (addr : Address) (topics : List Hash)
    (data : Bytes) :
    emitLog { env with stateDB := db.assemble base sd lg } addr topics data =
      db.assemble base sd (emitLog { env with stateDB := lg } addr topics data) := rfl

end Assemble

/-! ## Interleavings -/

/-- The run lemma: from an assembled state, an interleaving returns the assembly of what its
three kinds of callbacks give, each kind run on its own. -/
theorem runHost_assemble (env : EVM) (ops : List HostOp) {base : Nat} {w w' sd lg : StateDB}
    (hb : base ≤ sd.refund)
    (hw : runTx vars { env with stateDB := w } (HostOp.writes ops) = some w') :
    runHost vars { env with stateDB := w.assemble base sd lg } ops =
      some (w'.assemble base (selfdestructs vars { env with stateDB := sd } (HostOp.destructs ops))
        (emitLogs { env with stateDB := lg } (HostOp.entries ops))) := by
  induction ops generalizing w sd lg with
  | nil => cases hw; rfl
  | cons op ops ih =>
    cases op with
    | setStorage addr key value =>
      obtain ⟨w₁, hw₁, hrest⟩ := Option.bind_eq_some.mp hw
      obtain ⟨⟨st, _⟩, hst, rfl⟩ := Option.map_eq_some'.mp hw₁
      simp only [runHost, HostOp.apply, setStorage_assemble hb hst, Option.map_some',
        Option.some_bind]
      exact ih hb hrest
    | selfdestruct addr beneficiary =>
      simp only [runHost, HostOp.apply, Option.some_bind, selfdestruct_assemble hb]
      exact ih (by rw [selfdestruct_refund]; exact hb.trans (Nat.le_add_right _ _)) hw
    | emitLog addr topics data =>
      simp only [runHost, HostOp.apply, Option.some_bind, emitLog_assemble]
      exact ih hb hw

/-- **Any interleaving of the host callbacks** is assembled from the runs of its writes, its
self-destructs and its log entries, each kind on its own from the same state, when the writes
return. -/
theorem runHost_interleaving (env : EVM) (ops : List HostOp) {w : StateDB}
    (hw : runTx vars env (HostOp.writes ops) = some w) :
    runHost vars env ops = some (w.assemble env.stateDB.refund
      (selfdestructs vars env (HostOp.destructs ops)) (emitLogs env (HostOp.entries ops))) := by
  have h := @runHost_assemble vars env ops env.stateDB.refund env.stateDB w env.stateDB
    env.stateDB (le_refl _) hw
  rwa [StateDB.assemble_self] at h

/-- Under net metering with the constants of `vars`, from a slot committed at 5 and cleared in
this transaction, with the clear refund 15000 in the counter: a self-destruct grants 24000, the
write back to 5 takes the clear refund back and grants 4200, and a log entry follows. The
counter ends at `4200 + 39000 - 15000 = 28200`. -/
theorem runHost_interleaving_refund :
    let o : Address → Hash → Hash := fun a k => if a = 0 ∧ k = 0 then 5 else 0
    let env : EVM := { (default : EVM) with
      chainConfig := ⟨fun _ _ => true⟩
      stateDB := { (default : StateDB) with committedState := o, refund := 15000 } }
    let ops : List HostOp := [.selfdestruct 1 2, .setStorage 0 0 5, .emitLog 0 [] []]
    let w : StateDB := { env.stateDB.setState 0 0 5 with refund := 4200 }
    runHost Vars.standard env ops = some (w.assemble env.stateDB.refund
        (selfdestructs Vars.standard env (HostOp.destructs ops))
        (emitLogs env (HostOp.entries ops))) ∧
      (w.assemble env.stateDB.refund (selfdestructs Vars.standard env (HostOp.destructs ops))
        (emitLogs env (HostOp.entries ops))).refund = 28200 := by
  intro o env ops w
  have hw : runTx Vars.standard env (HostOp.writes ops) = some w := by
    simp only [o, env, ops, w]
    rfl
  refine ⟨runHost_interleaving Vars.standard env ops hw, ?_⟩
  simp only [o, env, ops, w]
  rfl

/-! ## Slots do not interact -/

/-- Whether a step writes the slot `(a, k)`. -/
def TxOp.writesSlot (a : Address) (k : Hash) : TxOp → Bool
  | .setStorage addr key _ => decide (addr = a ∧ key = k)
  | .addRefund _ => false

theorem TxOp.mem_written {a : Address} {k : Hash} (ops : List TxOp) :
    (a, k) ∈ TxOp.written ops ↔ ∃ op, op ∈ ops.filter (TxOp.writesSlot a k) := by
  induction ops with
  | nil => simp [TxOp.written]
  | cons op ops ih =>
    cases op with
    | setStorage addr key value =>
      by_cases hs : addr = a ∧ key = k
      · obtain ⟨rfl, rfl⟩ := hs
        simp [TxOp.written, TxOp.writesSlot]
      · simp only [TxOp.written, Finset.mem_insert, Prod.mk.injEq, ih, List.filter_cons,
          TxOp.writesSlot, hs, decide_False, Bool.false_eq_true, if_false]
        exact or_iff_right fun h => hs ⟨h.1.symm, h.2.symm⟩
    | addRefund gas => simpa [TxOp.written, TxOp.writesSlot] using ih

theorem Ledger.replay_slot {o : Address → Hash → Hash} {a : Address} {k : Hash}
    (ops : List TxOp) :
    ∀ {L L' : Ledger}, L.current a k = L'.current a k → L.restores a k = L'.restores a k →
      (L.replay o ops).current a k =
          (L'.replay o (ops.filter (TxOp.writesSlot a k))).current a k ∧
        (L.replay o ops).restores a k =
          (L'.replay o (ops.filter (TxOp.writesSlot a k))).restores a k := by
  induction ops with
  | nil => exact fun hc hr => ⟨hc, hr⟩
  | cons op ops ih =>
    intro L L' hc hr
    cases op with
    | setStorage addr key value =>
      by_cases hs : addr = a ∧ key = k
      · obtain ⟨rfl, rfl⟩ := hs
        simp only [List.filter_cons, TxOp.writesSlot, and_self, decide_True, if_true]
        exact ih (by simp [Ledger.step]) (by simp [Ledger.step, hc, hr])
      · have hs' : ¬(a = addr ∧ k = key) := fun h => hs ⟨h.1.symm, h.2.symm⟩
        simp only [List.filter_cons, TxOp.writesSlot, hs, decide_False, Bool.false_eq_true,
          if_false]
        refine ih (by simp [Ledger.step, hs', hc]) ?_
        simp only [Ledger.step]
        rw [if_neg fun h => hs' ⟨h.1, h.2.1⟩, hr]
    | addRefund gas => exact ih hc hr

theorem runTx_keeps {env : EVM} {ops : List TxOp} {db : StateDB}
    (h : runTx vars env ops = some db) :
    ∃ s r, db = { env.stateDB with state := s, refund := r } := by
  induction ops generalizing env with
  | nil => cases h; exact ⟨_, _, rfl⟩
  | cons op ops ih =>
    obtain ⟨db₁, h₁, hrest⟩ := Option.bind_eq_some.mp h
    obtain ⟨s, r, rfl⟩ := ih hrest
    have hdb₁ : ∃ s r, db₁ = { env.stateDB with state := s, refund := r } := by
      cases op with
      | setStorage addr key value =>
        obtain ⟨⟨st, _⟩, hst, rfl⟩ := Option.map_eq_some'.mp h₁
        exact ⟨_, _, setStorage_keeps vars hst⟩
      | addRefund gas => cases h₁; exact ⟨_, _, rfl⟩
    obtain ⟨s₁, r₁, rfl⟩ := hdb₁
    exact ⟨s, r, rfl⟩

/-- **Writes to different slots do not interact.** Under net metering, from the start of a
transaction, two sequences of steps that write each slot the same values in the same order and
add the same refund both return, and return the same state, however they interleave the
slots. -/
theorem runTx_slotwise {env : EVM} (hnet : netMetering env = true)
    (hstart : env.stateDB.state = env.stateDB.committedState) {ops ops' : List TxOp}
    (hslot : ∀ a k, ops.filter (TxOp.writesSlot a k) = ops'.filter (TxOp.writesSlot a k))
    (hadded : TxOp.added ops = TxOp.added ops') :
    ∃ db, runTx vars env ops = some db ∧ runTx vars env ops' = some db := by
  set o := env.stateDB.committedState
  set L := Ledger.start env.stateDB
  have hinit := RefundInv.start vars env.stateDB hstart
  obtain ⟨db, hdb, hinv⟩ := hinit.run vars hnet ops
  obtain ⟨db', hdb', hinv'⟩ := hinit.run vars hnet ops'
  have hL (a : Address) (k : Hash) :
      (L.replay o ops).current a k = (L.replay o ops').current a k ∧
        (L.replay o ops).restores a k = (L.replay o ops').restores a k := by
    obtain ⟨hc, hr⟩ := @Ledger.replay_slot o a k ops L L rfl rfl
    obtain ⟨hc', hr'⟩ := @Ledger.replay_slot o a k ops' L L rfl rfl
    rw [hc, hr, hc', hr', hslot]
    exact ⟨rfl, rfl⟩
  have hW : TxOp.written ops = TxOp.written ops' := by
    ext ⟨a, k⟩
    rw [TxOp.mem_written, TxOp.mem_written, hslot]
  obtain ⟨s, r, rfl⟩ := runTx_keeps vars hdb
  obtain ⟨s', r', rfl⟩ := runTx_keeps vars hdb'
  have hs : s = s' := by
    funext a k
    rw [show s = _ from hinv.current, show s' = _ from hinv'.current]
    exact (hL a k).1
  have hr : r = r' := by
    rw [show r = _ from hinv.refund, show r' = _ from hinv'.refund, hadded, hW]
    refine congrArg _ (Finset.sum_congr rfl fun x _ => ?_)
    simp only [Ledger.earned, (hL x.1 x.2).1, (hL x.1 x.2).2]
  exact ⟨_, hdb, hs ▸ hr ▸ hdb'⟩

/-- Under net metering with the constants of `vars`, from a state whose slot `(0, 0)` holds 5:
the slot is cleared and written back, a clear refund and a `SubRefund`, before or after a write
to slot `(0, 1)`. -/
theorem runTx_slotwise_swap :
    let f : Address → Hash → Hash := fun a k => if a = 0 ∧ k = 0 then 5 else 0
    let env : EVM := { (default : EVM) with
      chainConfig := ⟨fun _ _ => true⟩
      stateDB := { (default : StateDB) with state := f, committedState := f } }
    ∃ db, runTx Vars.standard env [.setStorage 0 0 0, .setStorage 0 1 1, .setStorage 0 0 5] =
        some db ∧
      runTx Vars.standard env [.setStorage 0 1 1, .setStorage 0 0 0, .setStorage 0 0 5] =
        some db := by
  intro f env
  refine @runTx_slotwise Vars.standard env rfl rfl _ _ (fun a k => ?_) rfl
  by_cases h₁ : (0 : Address) = a ∧ (0 : Hash) = k
  · obtain ⟨rfl, rfl⟩ := h₁
    rfl
  by_cases h₂ : (0 : Address) = a ∧ (1 : Hash) = k
  · obtain ⟨rfl, rfl⟩ := h₂
    rfl
  simp only [List.filter, TxOp.writesSlot, h₁, h₂, decide_False]

end EvmcBridge
