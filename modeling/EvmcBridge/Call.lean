import EvmcBridge.State

/-!
# Call dispatch

`hostContext.Call` routes a nested call of the engine to one of the `*EVM` operations by its
kind, and hands the result back in the engine's terms. The Go switch does two things per case:
it invokes the operation (`invoke`), and for the create kinds it adjusts the result before
leaving the switch (`finish`, which also maps the errors). Here the two are apart, and `call`
composes them.

The operations themselves are not in this excerpt: `EvmOps` holds them as functions, and every
result below holds for every choice of them.

**Theorem (`call_results`).** Whatever the kind and the operation's result, the engine gets
`nil`, `Revert` or `Failure`. It gets `Revert` exactly when the operation reverted, `nil` exactly
when the operation succeeded or (for `Create` before EIP-7) ran out of gas storing the code,
and `Failure` otherwise. A create kind returns its creation output on `Revert` and nothing
otherwise; a call kind returns the operation's output whatever the result, so a failed call
that comes back with an output passes it on (`call_failure_output`, in `Run.lean`, where the
output comes back from a nested engine through `Run`).

**Theorem (`call_create2_salt`).** `SetUint64(salt.Uint64())` keeps only the low 64 bits of the
Create2 salt, so two dispatches whose salts agree modulo `2^64` are the same dispatch.
-/

namespace EvmcBridge

/-- The result of a call operation: `(ret, leftOverGas, err)`. -/
structure CallResult where
  ret : Bytes
  gasLeft : Word64
  err : Option Error

/-- The result of a create operation: `(ret, contractAddr, leftOverGas, err)`. -/
structure CreateResult where
  ret : Bytes
  addr : Address
  gasLeft : Word64
  err : Option Error
  deriving Inhabited

/-- The `*EVM` operations a dispatch invokes, as functions of their arguments. -/
structure EvmOps where
  call : Contract → Address → Bytes → Word64 → Nat → CallResult
  staticCall : Contract → Address → Bytes → Word64 → CallResult
  delegateCall : Contract → Address → Bytes → Word64 → CallResult
  callCode : Contract → Address → Bytes → Word64 → Nat → CallResult
  create : Contract → Bytes → Word64 → Nat → CreateResult
  create2 : Contract → Bytes → Word64 → Nat → BitVec 256 → CreateResult

/-- Operations that return `c` for every call and `r` for every creation, whatever their
arguments. -/
def EvmOps.returning (c : CallResult) (r : CreateResult) : EvmOps where
  call _ _ _ _ _ := c
  staticCall _ _ _ _ := c
  delegateCall _ _ _ _ := c
  callCode _ _ _ _ _ := c
  create _ _ _ _ := r
  create2 _ _ _ _ _ := r

/-- What `hostContext.Call` returns: `(output, gasLeft, createAddr, err)`. -/
structure OpResult where
  output : Bytes
  gasLeft : Word64
  createAddr : Address
  err : Option Error
  deriving DecidableEq, Repr

/-- A call operation's result, with the zero created address. -/
def CallResult.toOpResult (r : CallResult) : OpResult := ⟨r.ret, r.gasLeft, 0, r.err⟩

/-- A create operation's result, its output being the creation output. -/
def CreateResult.toOpResult (r : CreateResult) : OpResult := ⟨r.ret, r.gasLeft, r.addr, r.err⟩

namespace HostContext

/-- The salt the Create2 case passes: `saltUint256.SetUint64(salt.Uint64())`. -/
def create2Salt (salt : Nat) : BitVec 256 := (BitVec.ofNat 64 salt).zeroExtend 256

/-- The operations of the switch of `hostContext.Call`, with their arguments. -/
def invoke (ops : EvmOps) (contract : Contract) (kind : CallKind) (destination : Address)
    (value : Nat) (input : Bytes) (gasU : Word64) (static : Bool) (salt : Nat) : OpResult :=
  match kind with
  | .call =>
    if static then (ops.staticCall contract destination input gasU).toOpResult
    else (ops.call contract destination input gasU value).toOpResult
  | .delegateCall => (ops.delegateCall contract destination input gasU).toOpResult
  | .callCode => (ops.callCode contract destination input gasU value).toOpResult
  | .create => (ops.create contract input gasU value).toOpResult
  | .create2 => (ops.create2 contract input gasU value (create2Salt salt)).toOpResult

/-- "Map errors": `ErrExecutionReverted` to `evmc.Revert`, any other error to `evmc.Failure`. -/
def mapError (err : Option Error) : Option Error :=
  if err = some .executionReverted then some (.evmc .revert)
  else if err ≠ none then some (.evmc .failure)
  else err

/-- What the switch does with the operation's result, then the error mapping. A create kind
assigns the creation output only on a revert; `Create` before EIP-7 drops
`ErrCodeStoreOutOfGas`. -/
def finish (env : EVM) (kind : CallKind) (r : OpResult) : OpResult :=
  match kind with
  | .create =>
    let isHomestead := env.chainConfig.isEnabled .eip7 env.blockNumber
    let err := if !isHomestead && r.err = some .codeStoreOutOfGas then none else r.err
    let output := if err = some .executionReverted then r.output else []
    { r with output := output, err := mapError err }
  | .create2 =>
    let output := if r.err = some .executionReverted then r.output else []
    { r with output := output, err := mapError r.err }
  | _ => { r with err := mapError r.err }

/-- `hostContext.Call`. The sender and the depth are not read. -/
def call (ops : EvmOps) (env : EVM) (contract : Contract) (kind : CallKind)
    (destination _sender : Address) (value : Nat) (input : Bytes) (gas : Word64) (_depth : Nat)
    (static : Bool) (salt : Nat) : OpResult :=
  let gasU := gas
  finish env kind (invoke ops contract kind destination value input gasU static salt)

/-! ## Error mapping -/

theorem mapError_revert {err : Option Error} :
    mapError err = some (.evmc .revert) ↔ err = some .executionReverted := by
  unfold mapError
  split_ifs <;> simp_all [EvmcError.revert, EvmcError.failure]

theorem mapError_none {err : Option Error} : mapError err = none ↔ err = none := by
  unfold mapError
  split_ifs <;> simp_all

theorem mapError_cases (err : Option Error) :
    mapError err = none ∨ mapError err = some (.evmc .revert) ∨
      mapError err = some (.evmc .failure) := by
  unfold mapError
  split_ifs <;> simp_all

theorem invoke_returning {c : CallResult} {r : CreateResult} (hret : c.ret = r.ret)
    (herr : c.err = r.err) (contract : Contract) (kind : CallKind) (destination : Address)
    (value : Nat) (input : Bytes) (gasU : Word64) (static : Bool) (salt : Nat) :
    let u := invoke (EvmOps.returning c r) contract kind destination value input gasU static salt
    u.output = c.ret ∧ u.err = c.err := by
  cases kind <;> cases static <;>
    simp [invoke, EvmOps.returning, CallResult.toOpResult, CreateResult.toOpResult, hret, herr]

/-! ## What the engine gets back -/

theorem finish_results (env : EVM) (kind : CallKind) (u : OpResult) :
    let r := finish env kind u
    let legacyCodeStore := kind = .create ∧
      env.chainConfig.isEnabled .eip7 env.blockNumber = false ∧ u.err = some .codeStoreOutOfGas
    (r.err = none ∨ r.err = some (.evmc .revert) ∨ r.err = some (.evmc .failure)) ∧
    (r.err = some (.evmc .revert) ↔ u.err = some .executionReverted) ∧
    (r.err = none ↔ u.err = none ∨ legacyCodeStore) ∧
    (r.err = some (.evmc .failure) ↔
      u.err ≠ none ∧ u.err ≠ some .executionReverted ∧ ¬legacyCodeStore) ∧
    ((kind = .create ∨ kind = .create2) →
      r.output = if r.err = some (.evmc .revert) then u.output else []) ∧
    ((kind = .call ∨ kind = .delegateCall ∨ kind = .callCode) → r.output = u.output) := by
  intro r legacyCodeStore
  -- the error the switch leaves before the mapping
  have herr : r.err = mapError (if legacyCodeStore then none else u.err) := by
    cases kind <;> simp [r, legacyCodeStore, finish]
  have hout : (kind = .create ∨ kind = .create2) →
      r.output = if (if legacyCodeStore then none else u.err) = some .executionReverted
        then u.output else [] := by
    rintro (rfl | rfl) <;> simp [r, legacyCodeStore, finish]
  have hfail : ∀ e : Option Error, mapError e = some (.evmc .failure) ↔
      e ≠ none ∧ e ≠ some .executionReverted := fun e => by
    unfold mapError
    split_ifs <;> simp_all [EvmcError.revert, EvmcError.failure]
  refine ⟨by rw [herr]; exact mapError_cases _, ?_, ?_, ?_, fun hk => ?_, ?_⟩
  · rw [herr, mapError_revert]
    split_ifs with h
    · simp [h.2.2]
    · rfl
  · rw [herr, mapError_none]
    split_ifs with h
    · exact iff_of_true rfl (Or.inr h)
    · simp [h]
  · rw [herr, hfail]
    split_ifs with h
    · exact iff_of_false (fun h' => h'.1 rfl) (fun h' => h'.2.2 h)
    · simp [h]
  · rw [hout hk]
    simp only [herr, mapError_revert]
  · rintro (rfl | rfl | rfl) <;> rfl

/-- **What `Call` reports to the engine**, for every kind and every result of the operation it
invokes. -/
theorem call_results (ops : EvmOps) (env : EVM) (contract : Contract) (kind : CallKind)
    (destination sender : Address) (value : Nat) (input : Bytes) (gas : Word64) (depth : Nat)
    (static : Bool) (salt : Nat) :
    let u := invoke ops contract kind destination value input gas static salt
    let r := call ops env contract kind destination sender value input gas depth static salt
    let legacyCodeStore := kind = .create ∧
      env.chainConfig.isEnabled .eip7 env.blockNumber = false ∧ u.err = some .codeStoreOutOfGas
    (r.err = none ∨ r.err = some (.evmc .revert) ∨ r.err = some (.evmc .failure)) ∧
    (r.err = some (.evmc .revert) ↔ u.err = some .executionReverted) ∧
    (r.err = none ↔ u.err = none ∨ legacyCodeStore) ∧
    (r.err = some (.evmc .failure) ↔
      u.err ≠ none ∧ u.err ≠ some .executionReverted ∧ ¬legacyCodeStore) ∧
    ((kind = .create ∨ kind = .create2) →
      r.output = if r.err = some (.evmc .revert) then u.output else []) ∧
    ((kind = .call ∨ kind = .delegateCall ∨ kind = .callCode) → r.output = u.output) :=
  finish_results env kind _

/-! ## The Create2 salt -/

theorem create2Salt_mod (salt : Nat) : create2Salt (salt % 2 ^ 64) = create2Salt salt := by
  have h : BitVec.ofNat 64 (salt % 2 ^ 64) = BitVec.ofNat 64 salt := by
    apply BitVec.eq_of_toNat_eq
    simp only [BitVec.toNat_ofNat, Nat.mod_mod]
  simp only [create2Salt, h]

/-- **The Create2 salt keeps its low 64 bits only.** -/
theorem call_create2_salt (ops : EvmOps) (env : EVM) (contract : Contract)
    (destination sender : Address) (value : Nat) (input : Bytes) (gas : Word64) (depth : Nat)
    (static : Bool) (salt : Nat) :
    call ops env contract .create2 destination sender value input gas depth static
        (salt % 2 ^ 64) =
      call ops env contract .create2 destination sender value input gas depth static salt := by
  simp only [call, invoke, create2Salt_mod]

/-- The salts `2^64` and `0` make the same Create2 dispatch, whatever the operations do. -/
theorem call_create2_salt_collision (ops : EvmOps) (env : EVM) (contract : Contract)
    (destination sender : Address) (value : Nat) (input : Bytes) (gas : Word64) (depth : Nat)
    (static : Bool) :
    call ops env contract .create2 destination sender value input gas depth static (2 ^ 64) =
      call ops env contract .create2 destination sender value input gas depth static 0 :=
  (call_create2_salt ops env contract destination sender value input gas depth static _).symm

end HostContext

end EvmcBridge
