import EvmcBridge.State
import Mathlib.Data.Fintype.Card

/-!
# Self-destruct over a transaction

`Selfdestruct(addr, beneficiary)` grants the self-destruct refund unless `addr` has already
self-destructed in this transaction, moves the whole balance of `addr` to the beneficiary, and
marks `addr`. A self-destructed account keeps its mark for the rest of the transaction.

**Theorem (`selfdestructs_accounting`).**

* Over any sequence of calls, the refund counter grows by the refund times the number of
  distinct addresses called that had not self-destructed when the sequence began.
* Each call keeps the total balance over all accounts, except that a self-beneficiary's balance
  is destroyed.
* A repeated call on an address grants no refund. It moves exactly what the address received
  since its previous call, because that call left it with a zero balance.

**Theorem (`selfdestructs_totalBalance`).** Over a whole sequence, the total balance falls by
exactly what the self-beneficiaries destroy.
-/

namespace EvmcBridge

/-- A bit-vector type is finite: the total balance sums over every address. -/
instance fintypeBitVec (n : Nat) : Fintype (BitVec n) :=
  Fintype.ofEquiv (Fin (2 ^ n)) ⟨BitVec.ofFin, BitVec.toFin, fun _ => rfl, fun _ => rfl⟩

/-- The balance held over all accounts. -/
def StateDB.totalBalance (db : StateDB) : Nat := ∑ a, db.balance a

variable (vars : Vars)

namespace HostContext

/-- `Selfdestruct`. -/
def selfdestruct (env : EVM) (addr beneficiary : Address) : StateDB :=
  let db := env.stateDB
  let db := if !db.hasSuicided addr then db.addRefund vars.selfdestructRefundGas else db
  let db := db.addBalance beneficiary (db.getBalance addr)
  db.suicide addr

/-- Self-destructs, in order, within one transaction. -/
def selfdestructs (env : EVM) : List (Address × Address) → StateDB
  | [] => env.stateDB
  | (addr, beneficiary) :: ops =>
    selfdestructs { env with stateDB := selfdestruct vars env addr beneficiary } ops

/-- What `a` receives over a sequence of self-destructs: the balance each call whose beneficiary
is `a` moves. -/
def received (a : Address) (env : EVM) : List (Address × Address) → Nat
  | [] => 0
  | (addr, beneficiary) :: ops =>
    (if beneficiary = a then env.stateDB.balance addr else 0) +
      received a { env with stateDB := selfdestruct vars env addr beneficiary } ops

/-- What a sequence of self-destructs destroys: the balance of each call that is its own
beneficiary. -/
def burned (env : EVM) : List (Address × Address) → Nat
  | [] => 0
  | (addr, beneficiary) :: ops =>
    (if addr = beneficiary then env.stateDB.balance addr else 0) +
      burned { env with stateDB := selfdestruct vars env addr beneficiary } ops

/-! ## One call -/

section Call

variable (env : EVM) (addr beneficiary : Address)

@[simp] theorem selfdestruct_refund :
    (selfdestruct vars env addr beneficiary).refund =
      env.stateDB.refund + if env.stateDB.suicided addr then 0 else vars.selfdestructRefundGas := by
  simp only [selfdestruct]
  cases h : env.stateDB.suicided addr <;> simp [h]

@[simp] theorem selfdestruct_suicided (x : Address) :
    (selfdestruct vars env addr beneficiary).suicided x = (x = addr || env.stateDB.suicided x) := by
  simp only [selfdestruct]
  split_ifs <;> simp

@[simp] theorem selfdestruct_balance (x : Address) :
    (selfdestruct vars env addr beneficiary).balance x =
      if x = addr then 0
      else if x = beneficiary then env.stateDB.balance x + env.stateDB.balance addr
      else env.stateDB.balance x := by
  simp only [selfdestruct]
  split_ifs <;> simp_all

theorem selfdestruct_totalBalance :
    (selfdestruct vars env addr beneficiary).totalBalance +
        (if addr = beneficiary then env.stateDB.balance addr else 0) =
      env.stateDB.totalBalance := by
  set db := env.stateDB
  set m : Address → Nat := fun x =>
    if x = beneficiary then db.balance x + db.balance addr else db.balance x
  have h₁ := sum_update_one (Finset.mem_univ beneficiary) (g := m) (f := db.balance)
    fun x hx => if_neg hx
  have h₂ := sum_update_one (Finset.mem_univ addr)
    (g := (selfdestruct vars env addr beneficiary).balance) (f := m)
    fun x hx => by simp [hx, m, db]
  simp only [StateDB.totalBalance, selfdestruct_balance, if_true] at h₂ ⊢
  simp only [m, if_true] at h₁ h₂
  split_ifs at h₂ ⊢ with hab
  · subst hab; omega
  · omega

end Call

/-! ## Runs -/

theorem selfdestructs_suicided_of {env : EVM} {x : Address} (hx : env.stateDB.suicided x = true)
    (ops : List (Address × Address)) : (selfdestructs vars env ops).suicided x = true := by
  induction ops generalizing env with
  | nil => exact hx
  | cons op ops ih => exact ih (by simp [hx])

theorem selfdestructs_append (env : EVM) (ops ops' : List (Address × Address)) :
    selfdestructs vars env (ops ++ ops') =
      selfdestructs vars { env with stateDB := selfdestructs vars env ops } ops' := by
  induction ops generalizing env with
  | nil => rfl
  | cons op ops ih => exact ih _

theorem card_filter_insert (s : Finset Address) (a : Address) (p : Address → Bool) :
    ((insert a s).filter fun x => p x = false).card =
      (if p a then 0 else 1) + (s.filter fun x => (x = a || p x) = false).card := by
  have hs : (s.filter fun x => (x = a || p x) = false) = (s.filter fun x => p x = false).erase a := by
    ext x
    simp only [Finset.mem_filter, Finset.mem_erase, Bool.or_eq_false_iff, decide_eq_false_iff_not]
    tauto
  rw [hs, Finset.filter_insert]
  cases hp : p a
  · have : (s.filter fun x => p x = false).erase a ∪ {a} = insert a (s.filter fun x => p x = false) := by
      ext x; by_cases x = a <;> simp_all
    simp only [if_true, if_false, Bool.false_eq_true]
    rw [Finset.card_insert_eq_ite, Finset.card_erase_eq_ite]
    split_ifs with h
    · have := Finset.card_pos.mpr ⟨a, h⟩; omega
    · omega
  · have ha : a ∉ s.filter fun x => p x = false := by simp [hp]
    simp [Finset.erase_eq_of_not_mem ha]

theorem selfdestructs_refund (env : EVM) (ops : List (Address × Address)) :
    (selfdestructs vars env ops).refund = env.stateDB.refund + vars.selfdestructRefundGas *
      ((ops.map Prod.fst).toFinset.filter fun a => env.stateDB.suicided a = false).card := by
  induction ops generalizing env with
  | nil => simp [selfdestructs]
  | cons op ops ih =>
    obtain ⟨a, b⟩ := op
    simp only [selfdestructs, ih, selfdestruct_refund, selfdestruct_suicided, List.map_cons,
      List.toFinset_cons, card_filter_insert]
    split_ifs <;> simp only [Nat.mul_add, Nat.mul_zero, Nat.mul_one] <;> omega

theorem selfdestructs_balance (a : Address) (env : EVM) (ops : List (Address × Address))
    (ha : a ∉ ops.map Prod.fst) :
    (selfdestructs vars env ops).balance a = env.stateDB.balance a + received vars a env ops := by
  induction ops generalizing env with
  | nil => simp [selfdestructs, received]
  | cons op ops ih =>
    obtain ⟨x, y⟩ := op
    simp only [List.map_cons, List.mem_cons, not_or] at ha
    simp only [selfdestructs, received, ih _ ha.2, selfdestruct_balance, if_neg ha.1]
    by_cases h : y = a
    · subst h
      simp only [if_true]
      omega
    · simp only [h, Ne.symm h, if_false, Nat.zero_add]

/-- Over any sequence of calls, the total balance falls by exactly what self-beneficiaries
destroy. -/
theorem selfdestructs_totalBalance (env : EVM) (ops : List (Address × Address)) :
    (selfdestructs vars env ops).totalBalance + burned vars env ops =
      env.stateDB.totalBalance := by
  induction ops generalizing env with
  | nil => simp [selfdestructs, burned]
  | cons op ops ih =>
    obtain ⟨a, b⟩ := op
    have hstep := selfdestruct_totalBalance vars env a b
    have hrest := ih { env with stateDB := selfdestruct vars env a b }
    simp only [selfdestructs, burned] at hrest ⊢
    omega

/-- **Self-destructs within one transaction.** -/
theorem selfdestructs_accounting :
    (∀ (env : EVM) (ops : List (Address × Address)),
      (selfdestructs vars env ops).refund = env.stateDB.refund + vars.selfdestructRefundGas *
        ((ops.map Prod.fst).toFinset.filter fun a => env.stateDB.suicided a = false).card) ∧
    (∀ (env : EVM) (addr beneficiary : Address),
      (selfdestruct vars env addr beneficiary).totalBalance +
          (if addr = beneficiary then env.stateDB.balance addr else 0) =
        env.stateDB.totalBalance) ∧
    (∀ (env : EVM) (pre : List (Address × Address)) (a b₁ b₂ : Address)
        (mid : List (Address × Address)), a ∉ mid.map Prod.fst →
      let env₁ : EVM := { env with stateDB := selfdestructs vars env (pre ++ [(a, b₁)]) }
      let envₘ : EVM := { env with stateDB := selfdestructs vars env₁ mid }
      (selfdestruct vars envₘ a b₂).refund = envₘ.stateDB.refund ∧
        envₘ.stateDB.getBalance a = received vars a env₁ mid ∧
        (b₂ ≠ a → (selfdestruct vars envₘ a b₂).balance b₂ =
          envₘ.stateDB.balance b₂ + received vars a env₁ mid)) := by
  refine ⟨selfdestructs_refund vars, selfdestruct_totalBalance vars, ?_⟩
  intro env pre a b₁ b₂ mid ha env₁ envₘ
  have hmarked : env₁.stateDB.suicided a = true := by
    simp only [env₁, selfdestructs_append, selfdestructs]
    simp
  have hzero : env₁.stateDB.balance a = 0 := by
    simp only [env₁, selfdestructs_append, selfdestructs]
    simp
  have hbal : envₘ.stateDB.balance a = received vars a env₁ mid := by
    show (selfdestructs vars env₁ mid).balance a = _
    rw [selfdestructs_balance vars a env₁ mid ha, hzero, Nat.zero_add]
  have hsuic : envₘ.stateDB.suicided a = true := selfdestructs_suicided_of vars hmarked mid
  refine ⟨by rw [selfdestruct_refund, hsuic, if_pos rfl, Nat.add_zero], hbal, fun hb => ?_⟩
  rw [selfdestruct_balance, if_neg hb, if_pos rfl, hbal]

end HostContext

end EvmcBridge
