import EvmcBridge.Revision
import EvmcBridge.Call

/-!
# The engine bridge

`EVMC.Run` hands a frame to the engine. It counts the call depth up on entry and down on every
exit, returns at once for a frame without code, guesses the call kind from the state, raises the
read-only flag for the run if asked and it is not up yet, calls the engine's `Execute`, and
translates the engine's status into a ledger error.

The engine is not in this excerpt. Inside `Execute` it may call back into the host, and a nested
call re-enters `Run` on the same bridge. A `Session` is a whole engine execution, written out
as a tree: its callbacks in order, each a change of the state or a nested frame with the
session of its own execution, and then the result it returns. Each frame's read-only request and
each result are arbitrary, so every nesting of every depth, with every outcome at every level,
is a session.

**Theorem (`run_bookkeeping`).** A run of any session leaves the depth and the read-only flag as
it found them. The `Execute` calls it makes receive, in order, the depth before the run plus
the number of `Run`s enclosing the calling `Run`, and a read-only flag that is up exactly when it was up
before the run or some `Run` on the call's chain asked for it. `Session.nesting` computes these
numbers from the tree alone. The proof is an induction over the session, with one lemma for
`Run` around any engine that hands the depth and the flag back.

**Theorem (`call_reports_nested`).** Composed with `hostContext.Call`, `Run`'s translation
reports to the calling engine `nil` when the nested engine succeeded, `Revert` with the nested
output when it reverted, and `Failure` for every other status, internal errors included. A
`Failure` that comes back with an output keeps it on a call (`call_failure_output`).

**Theorem (`run_kind`).** `Run` passes `Create` exactly when the frame's address has no code.
That is the init code of a creation, but also a delegate or code call made from init code,
which runs under the creating frame's address (`run_kind_delegate_from_init`).

**Theorem (`run_effects`).** Flattened, a session is the list of its state changes in the order
they happen, a nested frame's in the place of its callback, none for a frame without code. A run
applies exactly that list to the state, each change once, and hands the rest of the bridge back
as it found it. The proof is the same induction, with a frame lemma for `Run` around any engine
that changes the state only.

`CanRun` closes the file: the bridge runs code that opens with the Ewasm preamble when its
capability is Ewasm, and all other code when it is EVM1.
-/

namespace EvmcBridge

/-- The bridge `EVMC`: its execution context, its capability and its read-only flag. The
engine instance is the `execute` argument of `EVMC.run`. -/
structure EVMC where
  env : EVM
  cap : Capability
  readOnly : Bool

/-- The arguments `Run` passes to the engine's `Execute`. -/
structure ExecuteArgs where
  rev : Revision
  kind : CallKind
  static : Bool
  depth : Nat
  gas : Word64
  destination : Address
  sender : Address
  input : Bytes
  value : Hash
  code : Bytes
  create2Salt : Hash
  deriving DecidableEq, Repr

/-- What `Execute` returns: `(output, gasLeft, err)`, where `err` is `nil` or an `evmc.Error`. -/
structure ExecuteResult where
  output : Bytes
  gasLeft : Word64
  err : Option EvmcError
  deriving DecidableEq, Repr, Inhabited

/-- An engine execution: the bridge as the engine leaves it, its result, and the `Execute` calls
made inside it, in order. -/
structure Execution where
  evm : EVMC
  result : ExecuteResult
  trace : List ExecuteArgs

/-- What `Run` returns: the bridge, the frame with its gas updated, `(ret, err)`, and the
`Execute` calls made, in order. -/
structure RunResult where
  evm : EVMC
  contract : Contract
  output : Bytes
  err : Option Error
  trace : List ExecuteArgs

namespace EVMC

/-- `evm.env.depth++`. -/
def enter (evm : EVMC) : EVMC := { evm with env := { evm.env with depth := evm.env.depth + 1 } }

/-- The deferred `evm.env.depth--`. -/
def exit (evm : EVMC) : EVMC := { evm with env := { evm.env with depth := evm.env.depth - 1 } }

/-- The status translation after `Execute`: `Revert` becomes `ErrExecutionReverted`, an internal
error is wrapped and drops the output, and any other status is returned as it is. -/
def translate (res : ExecuteResult) : Bytes × Option Error :=
  if res.err = some .revert then (res.output, some .executionReverted)
  else match res.err with
    | some e => if e.isInternalError then ([], some (.evmcModule e)) else (res.output, some (.evmc e))
    | none => (res.output, none)

/-- `EVMC.Run`, around the engine `execute`. -/
def run (execute : ExecuteArgs → EVMC → Execution) (evm : EVMC) (contract : Contract)
    (input : Bytes) (readOnly : Bool) : RunResult :=
  let evm := evm.enter
  if contract.code.length = 0 then ⟨evm.exit, contract, [], none, []⟩
  else
    let kind : CallKind :=
      if evm.env.stateDB.getCodeSize contract.address = 0 then .create else .call
    let setReadOnly := readOnly && !evm.readOnly
    let evm := if setReadOnly then { evm with readOnly := true } else evm
    let args : ExecuteArgs :=
      { rev := getRevision evm.env, kind := kind, static := evm.readOnly,
        depth := evm.env.depth - 1, gas := contract.gas, destination := contract.address,
        sender := contract.caller, input := input, value := bigToHash contract.value,
        code := contract.code, create2Salt := 0 }
    let e := execute args evm
    let contract := { contract with gas := e.result.gasLeft }
    let (output, err) := translate e.result
    let evm := if setReadOnly then { e.evm with readOnly := false } else e.evm
    ⟨evm.exit, contract, output, err, args :: e.trace⟩

/-- The bridge as `Run` hands it to the engine: one level deeper, read-only if it was or if
asked. -/
def handOff (evm : EVMC) (readOnly : Bool) : EVMC :=
  { evm.enter with readOnly := evm.readOnly || readOnly }

@[simp] theorem handOff_depth (evm : EVMC) (readOnly : Bool) :
    (evm.handOff readOnly).env.depth = evm.env.depth + 1 := rfl

@[simp] theorem handOff_readOnly (evm : EVMC) (readOnly : Bool) :
    (evm.handOff readOnly).readOnly = (evm.readOnly || readOnly) := rfl

theorem exit_enter (evm : EVMC) : evm.enter.exit = evm := rfl

theorem run_empty (execute : ExecuteArgs → EVMC → Execution) (evm : EVMC) {contract : Contract}
    (input : Bytes) (readOnly : Bool) (hc : contract.code = []) :
    run execute evm contract input readOnly = ⟨evm, contract, [], none, []⟩ := by
  simp [run, hc, exit_enter]

/-- **`Run` on a frame with code**: the engine gets the bridge `handOff` makes and the arguments
below, and `Run` restores the flag if it raised it, counts the depth down, and translates. -/
theorem run_eq (execute : ExecuteArgs → EVMC → Execution) (evm : EVMC) {contract : Contract}
    (input : Bytes) (readOnly : Bool) (hc : contract.code ≠ []) :
    ∃ args : ExecuteArgs, args.depth = evm.env.depth ∧ args.static = (evm.readOnly || readOnly) ∧
      args.kind = (if evm.env.stateDB.getCodeSize contract.address = 0 then .create else .call) ∧
      run execute evm contract input readOnly =
        let e := execute args (evm.handOff readOnly)
        ⟨(if readOnly && !evm.readOnly then { e.evm with readOnly := false } else e.evm).exit,
          { contract with gas := e.result.gasLeft }, (translate e.result).1,
          (translate e.result).2, args :: e.trace⟩ := by
  have hhandOff : (if (readOnly && !evm.enter.readOnly) = true then
      ⟨evm.enter.env, evm.enter.cap, true⟩ else evm.enter) = evm.handOff readOnly := by
    cases readOnly <;> cases h : evm.readOnly <;> simp [handOff, enter, h]
  have hlen : contract.code.length ≠ 0 := by simpa using hc
  refine ⟨_, ?_, ?_, ?_, by simp only [run, if_neg hlen]; rw [hhandOff]; rfl⟩ <;> rfl

theorem translate_err (res : ExecuteResult) :
    (translate res).2 = res.err.map fun e =>
      if e = .revert then .executionReverted
      else if e.isInternalError then .evmcModule e else .evmc e := by
  unfold translate
  rcases h : res.err with _ | e
  · simp
  · by_cases he : e = .revert
    · simp [he]
    · simp only [Option.some.injEq, he, if_false, Option.map_some']
      split_ifs <;> rfl

theorem translate_revert {res : ExecuteResult} (h : res.err = some .revert) :
    translate res = (res.output, some .executionReverted) := by
  simp [translate, h]

/-- What `Run` keeps in stack discipline: the depth and the read-only flag. -/
def stack (evm : EVMC) : Nat × Bool := (evm.env.depth, evm.readOnly)

theorem run_stack {execute : ExecuteArgs → EVMC → Execution}
    (hexec : ∀ args evm, (execute args evm).evm.stack = evm.stack) (evm : EVMC)
    (contract : Contract) (input : Bytes) (readOnly : Bool) :
    (run execute evm contract input readOnly).evm.stack = evm.stack := by
  by_cases hc : contract.code = []
  · rw [run_empty execute evm input readOnly hc]
  · obtain ⟨args, -, -, -, h⟩ := run_eq execute evm input readOnly hc
    have he := hexec args (evm.handOff readOnly)
    rw [h]
    simp only [stack, handOff_depth, handOff_readOnly, Prod.mk.injEq] at he ⊢
    cases readOnly <;> cases hf : evm.readOnly <;> simp_all [exit]

/-- The bridge with its state replaced and everything else kept. -/
def withState (evm : EVMC) (db : StateDB) : EVMC :=
  { evm with env := { evm.env with stateDB := db } }

theorem run_withState {execute : ExecuteArgs → EVMC → Execution} {f : StateDB → StateDB}
    (hexec : ∀ args evm, (execute args evm).evm = evm.withState (f evm.env.stateDB)) (evm : EVMC)
    (contract : Contract) (input : Bytes) (readOnly : Bool) :
    (run execute evm contract input readOnly).evm =
      evm.withState (if contract.code = [] then evm.env.stateDB else f evm.env.stateDB) := by
  by_cases hc : contract.code = []
  · rw [run_empty execute evm input readOnly hc, if_pos hc]
    rfl
  · obtain ⟨args, -, -, -, h⟩ := run_eq execute evm input readOnly hc
    rw [h, if_neg hc]
    dsimp only
    rw [hexec]
    cases readOnly <;> cases hf : evm.readOnly <;>
      simp [withState, handOff, enter, exit, hf]

end EVMC

/-- An engine execution written out: its host callbacks, in order, and then its result. A
callback either changes the state (storage, balances, logs, self-destructs, and what a nested
operation does around its frame) or runs a nested frame, with its read-only request and the
session of its own execution. -/
inductive Session
  | done (result : ExecuteResult)
  | host (effect : StateDB → StateDB) (rest : Session)
  | reenter (contract : Contract) (input : Bytes) (readOnly : Bool) (child rest : Session)

namespace Session

/-- The engine that plays a session: each nested frame re-enters `Run` on the same bridge. -/
def execute : Session → ExecuteArgs → EVMC → Execution
  | done result, _, evm => ⟨evm, result, []⟩
  | host effect rest, args, evm =>
    rest.execute args { evm with env := { evm.env with stateDB := effect evm.env.stateDB } }
  | reenter contract input readOnly child rest, args, evm =>
    let r := EVMC.run child.execute evm contract input readOnly
    let e := rest.execute args r.evm
    ⟨e.evm, e.result, r.trace ++ e.trace⟩

/-- The result a session ends with. -/
def result : Session → ExecuteResult
  | done result => result
  | host _ rest => rest.result
  | reenter _ _ _ _ rest => rest.result

/-- For each `Execute` call of the frames a session runs, in order: the number of `Run`s
enclosing the `Run` that makes it, and whether some `Run` on its chain, that one included,
asked for read-only. A frame without code makes no call, and neither do the frames inside it. -/
def nesting : Session → Nat → Bool → List (Nat × Bool)
  | done _, _, _ => []
  | host _ rest, level, asked => rest.nesting level asked
  | reenter contract _ readOnly child rest, level, asked =>
    (if contract.code = [] then []
      else (level, asked || readOnly) :: child.nesting (level + 1) (asked || readOnly)) ++
      rest.nesting level asked

/-- The state changes a session makes, in the order they happen: a frame without code makes
none, and a nested frame's stand where its callback does. -/
def effects : Session → List (StateDB → StateDB)
  | done _ => []
  | host effect rest => effect :: rest.effects
  | reenter contract _ _ child rest =>
    (if contract.code = [] then [] else child.effects) ++ rest.effects

theorem execute_result (s : Session) (args : ExecuteArgs) (evm : EVMC) :
    (s.execute args evm).result = s.result := by
  induction s generalizing evm with
  | done => rfl
  | host _ _ ih => exact ih _
  | reenter _ _ _ _ _ _ ih => exact ih _

theorem execute_stack (s : Session) : ∀ args evm, (s.execute args evm).evm.stack = evm.stack := by
  induction s with
  | done => intros; rfl
  | host _ _ ih => intro args evm; exact ih args _
  | reenter _ _ _ _ _ ihc ihr =>
    intro args evm
    exact (ihr args _).trans (EVMC.run_stack ihc evm _ _ _)

theorem execute_evm (s : Session) :
    ∀ args evm, (s.execute args evm).evm =
      evm.withState (s.effects.foldl (fun db f => f db) evm.env.stateDB) := by
  induction s with
  | done => intros; rfl
  | host _ _ ih => intro args evm; exact ih args _
  | reenter contract input readOnly child rest ihc ihr =>
    intro args evm
    have hrun := EVMC.run_withState (f := child.effects.foldl fun db f => f db) ihc evm contract
      input readOnly
    simp only [execute, ihr, hrun, effects, List.foldl_append]
    split <;> rfl

/-- The `Execute` calls of a session played from a bridge at depth `d + level`, whose flag is up
when it was up at the start (`f`) or some enclosing `Run` asked (`asked`). -/
theorem execute_trace (s : Session) (args : ExecuteArgs) (evm : EVMC) (d level : Nat)
    (f asked : Bool) (hstack : evm.stack = (d + level, f || asked)) :
    (s.execute args evm).trace.map (fun a => (a.depth, a.static)) =
      (s.nesting level asked).map fun p => (d + p.1, f || p.2) := by
  induction s generalizing args evm level asked with
  | done => rfl
  | host _ _ ih => exact ih args _ level asked hstack
  | reenter contract input readOnly child rest ihc ihr =>
    have hrest := ihr args _ level asked
      ((EVMC.run_stack child.execute_stack evm contract input readOnly).trans hstack)
    simp only [execute, nesting, List.map_append, hrest]
    congr 1
    by_cases hc : contract.code = []
    · simp [EVMC.run_empty _ _ _ _ hc, hc]
    · obtain ⟨a, hd, hs, -, h⟩ := EVMC.run_eq child.execute evm input readOnly hc
      simp only [EVMC.stack, Prod.mk.injEq] at hstack
      have hchild := ihc a (evm.handOff readOnly) (level + 1) (asked || readOnly)
        (by simp [EVMC.stack, hstack, Bool.or_assoc, Nat.add_assoc])
      rw [h, if_neg hc]
      simp only [List.map_cons, hchild, hd, hs, hstack, Bool.or_assoc]

end Session

/-- The nesting of a whole run: the outermost frame, then the frames its session runs. -/
def nesting (contract : Contract) (readOnly : Bool) (s : Session) : List (Nat × Bool) :=
  if contract.code = [] then [] else (0, readOnly) :: s.nesting 1 readOnly

/-- **`Run` keeps the depth and the read-only flag in stack discipline.** -/
theorem run_bookkeeping (s : Session) (evm : EVMC) (contract : Contract) (input : Bytes)
    (readOnly : Bool) :
    let r := EVMC.run s.execute evm contract input readOnly
    r.evm.env.depth = evm.env.depth ∧ r.evm.readOnly = evm.readOnly ∧
      r.trace.map (fun a => (a.depth, a.static)) =
        (nesting contract readOnly s).map fun p => (evm.env.depth + p.1, evm.readOnly || p.2) := by
  intro r
  have hstack := EVMC.run_stack s.execute_stack evm contract input readOnly
  simp only [EVMC.stack, Prod.mk.injEq] at hstack
  refine ⟨hstack.1, hstack.2, ?_⟩
  by_cases hc : contract.code = []
  · simp [r, EVMC.run_empty _ _ _ _ hc, nesting, hc]
  · obtain ⟨a, hd, hs, -, h⟩ := EVMC.run_eq s.execute evm input readOnly hc
    have htrace := s.execute_trace a (evm.handOff readOnly) evm.env.depth 1 evm.readOnly readOnly rfl
    simp only [r, h, nesting, if_neg hc, List.map_cons, hd, hs, htrace, Nat.add_zero]

/-- **A run applies the state changes of its session, in order, and nothing else.** Each
callback's change is applied once, where it stands in the nesting, and the bridge comes back as
it was found but for the state: depth, read-only flag, capability and execution context. -/
theorem run_effects (s : Session) (evm : EVMC) (contract : Contract) (input : Bytes)
    (readOnly : Bool) :
    (EVMC.run s.execute evm contract input readOnly).evm =
      evm.withState ((if contract.code = [] then [] else s.effects).foldl (fun db f => f db)
        evm.env.stateDB) := by
  rw [EVMC.run_withState (f := s.effects.foldl fun db f => f db) s.execute_evm]
  split <;> rfl

/-! ## What the caller is told -/

theorem run_returns (s : Session) (evm : EVMC) (contract : Contract) (input : Bytes)
    (readOnly : Bool) :
    let r := EVMC.run s.execute evm contract input readOnly
    (r.output, r.err) = if contract.code = [] then ([], none) else EVMC.translate s.result := by
  by_cases hc : contract.code = []
  · simp [EVMC.run_empty _ _ _ _ hc, hc]
  · obtain ⟨a, -, -, -, h⟩ := EVMC.run_eq s.execute evm input readOnly hc
    simp [h, hc, Session.execute_result]

theorem run_err (s : Session) (evm : EVMC) (contract : Contract) (input : Bytes)
    (readOnly : Bool) :
    let r := EVMC.run s.execute evm contract input readOnly
    (r.err = none ↔ contract.code = [] ∨ s.result.err = none) ∧
    (r.err = some .executionReverted ↔ contract.code ≠ [] ∧ s.result.err = some .revert) ∧
    r.err ≠ some .codeStoreOutOfGas ∧
    (r.err = some .executionReverted → r.output = s.result.output) := by
  intro r
  have hr : (r.output, r.err) = if contract.code = [] then ([], none) else EVMC.translate s.result :=
    run_returns s evm contract input readOnly
  by_cases hc : contract.code = []
  · simp only [if_pos hc, Prod.mk.injEq] at hr
    simp [hr.2, hc]
  · rw [if_neg hc] at hr
    have herr : r.err = (EVMC.translate s.result).2 := congrArg Prod.snd hr
    rw [EVMC.translate_err] at herr
    rcases hres : s.result.err with _ | x
    · simp [herr, hres, hc]
    · by_cases hx : x = .revert
      · subst hx
        have hout : r.output = (EVMC.translate s.result).1 := congrArg Prod.fst hr
        simp [herr, hres, hc, hout, EVMC.translate_revert hres]
      · simp only [herr, hres, hx, Option.map_some', if_false]
        split_ifs <;> simp [hc, hx]

/-- **What the calling engine is told about a nested frame**, for every kind of dispatch, when
the operation hands `Run`'s error back unchanged. -/
theorem call_reports_nested (s : Session) (evm : EVMC) (frame : Contract) (frameInput : Bytes)
    (readOnly : Bool) (gasLeft : Word64) (createAddr : Address) (env : EVM) (contract : Contract)
    (kind : CallKind) (destination sender : Address) (value : Nat) (input : Bytes) (gas : Word64)
    (depth : Nat) (static : Bool) (salt : Nat) :
    let r := EVMC.run s.execute evm frame frameInput readOnly
    let ops := EvmOps.returning ⟨r.output, gasLeft, r.err⟩ ⟨r.output, createAddr, gasLeft, r.err⟩
    let reported :=
      HostContext.call ops env contract kind destination sender value input gas depth static salt
    (reported.err = none ↔ frame.code = [] ∨ s.result.err = none) ∧
    (reported.err = some (.evmc .revert) ↔ frame.code ≠ [] ∧ s.result.err = some .revert) ∧
    (reported.err = some (.evmc .revert) → reported.output = s.result.output) ∧
    (reported.err = some (.evmc .failure) ↔
      frame.code ≠ [] ∧ s.result.err ≠ none ∧ s.result.err ≠ some .revert) := by
  intro r ops reported
  obtain ⟨hnone, hrev, hstore, hout⟩ := run_err s evm frame frameInput readOnly
  let u := HostContext.invoke ops contract kind destination value input gas static salt
  obtain ⟨hu₁, hu₂⟩ : u.output = r.output ∧ u.err = r.err :=
    HostContext.invoke_returning rfl rfl contract kind destination value input gas static salt
  obtain ⟨-, hrev', hnone', hfail', hcreate, hcall⟩ := HostContext.finish_results env kind u
  have hlegacy : ¬(kind = .create ∧ env.chainConfig.isEnabled .eip7 env.blockNumber = false ∧
      u.err = some .codeStoreOutOfGas) := fun h => hstore (hu₂ ▸ h.2.2)
  simp only [hlegacy, or_false, not_false_eq_true, and_true] at hnone' hfail'
  have hrep : reported = HostContext.finish env kind u := rfl
  refine ⟨by rw [hrep, hnone', hu₂, hnone], by rw [hrep, hrev', hu₂, hrev], fun h => ?_, ?_⟩
  · have hr : r.err = some .executionReverted := hu₂ ▸ hrev'.mp (hrep ▸ h)
    have hkeep : (HostContext.finish env kind u).output = u.output := by
      cases kind with
      | call => exact hcall (Or.inl rfl)
      | delegateCall => exact hcall (Or.inr (Or.inl rfl))
      | callCode => exact hcall (Or.inr (Or.inr rfl))
      | create => rw [hcreate (Or.inl rfl), if_pos (hrep ▸ h)]
      | create2 => rw [hcreate (Or.inr rfl), if_pos (hrep ▸ h)]
    rw [hrep, hkeep, hu₁, hout hr]
  · rw [hrep, hfail', hu₂, Ne, hnone, Ne, hrev]
    by_cases hc : frame.code = [] <;> simp [hc]

/-- A nested engine fails with output `[1]`: `Run` hands the output and the `Failure` status
back, and `Call` reports `Failure` with the output. -/
theorem HostContext.call_failure_output :
    let r := EVMC.run (Session.done ⟨[1], 0, some .failure⟩).execute ⟨default, .evm1, false⟩
      ⟨1, 0, 0, [0x60], 0⟩ [] false
    let u := HostContext.call (EvmOps.returning ⟨r.output, 0, r.err⟩ default) default default
      .call 1 0 0 [] 0 0 false 0
    r.err = some (.evmc .failure) ∧ u.err = some (.evmc .failure) ∧ u.output = [1] := by
  decide

/-! ## The call kind -/

/-- Modelled from the spec: the frame the `*EVM` operation of a dispatch hands to `Run`, which is
not in this excerpt. A call runs the destination's code at the destination; a code call runs it
at the calling frame's address, and a delegate call there too, with the calling frame's caller
and value; a creation runs its init code at the new address, if no code is there yet. -/
def dispatchFrame (db : StateDB) (caller : Contract) (kind : CallKind) (destination : Address)
    (value : Nat) (input : Bytes) (gas : Word64) (static : Bool) (newAddress : Address) :
    Option Contract :=
  match kind with
  | .call =>
    some ⟨destination, caller.address, if static then 0 else value, db.code destination, gas⟩
  | .delegateCall => some ⟨caller.address, caller.caller, caller.value, db.code destination, gas⟩
  | .callCode => some ⟨caller.address, caller.address, value, db.code destination, gas⟩
  | .create | .create2 =>
    if db.code newAddress = [] then some ⟨newAddress, caller.address, value, input, gas⟩ else none

theorem run_kind_guess (execute : ExecuteArgs → EVMC → Execution) (evm : EVMC)
    {frame : Contract} (input : Bytes) (readOnly : Bool) (hc : frame.code ≠ []) :
    (EVMC.run execute evm frame input readOnly).trace.head?.map ExecuteArgs.kind =
      some (if evm.env.stateDB.code frame.address = [] then .create else .call) := by
  obtain ⟨args, -, -, hkind, h⟩ := EVMC.run_eq execute evm input readOnly hc
  simp [h, hkind, List.length_eq_zero]

/-- A delegate call made from init code at `1`, to the code at `2`, is passed to the engine as
`Create`. -/
theorem run_kind_delegate_from_init :
    let db : StateDB := { (default : StateDB) with code := fun a => if a = 2 then [0x60] else [] }
    let frame : Contract := ⟨1, 0, 0, [0x60], 0⟩
    dispatchFrame db ⟨1, 0, 0, [0x61], 0⟩ .delegateCall 2 0 [] 0 false 0 = some frame ∧
      (EVMC.run (Session.done default).execute ⟨{ (default : EVM) with stateDB := db }, .evm1, false⟩
        frame [] false).trace.head?.map ExecuteArgs.kind = some .create :=
  ⟨rfl, rfl⟩

/-- **The call kind.** For every frame with code, `Create` exactly when the frame's address has
no code; so for each dispatch's frame, `Create` for the creations, and for a delegate or code
call made from a frame whose address has no code yet. -/
theorem run_kind (execute : ExecuteArgs → EVMC → Execution) (evm : EVMC) (caller : Contract)
    (kind : CallKind) (destination : Address) (value : Nat) (input : Bytes) (gas : Word64)
    (static : Bool) (newAddress : Address) {frame : Contract} (frameInput : Bytes)
    (readOnly : Bool)
    (hf : dispatchFrame evm.env.stateDB caller kind destination value input gas static
      newAddress = some frame) (hc : frame.code ≠ []) :
    (∀ (frame' : Contract) (input' : Bytes) (readOnly' : Bool), frame'.code ≠ [] →
      (EVMC.run execute evm frame' input' readOnly').trace.head?.map ExecuteArgs.kind =
        some (if evm.env.stateDB.code frame'.address = [] then .create else .call)) ∧
    (EVMC.run execute evm frame frameInput readOnly).trace.head?.map ExecuteArgs.kind =
      some (if kind = .create ∨ kind = .create2 ∨ ((kind = .delegateCall ∨ kind = .callCode) ∧
        evm.env.stateDB.code caller.address = []) then .create else .call) := by
  refine ⟨fun _ input' readOnly' hc' => run_kind_guess execute evm input' readOnly' hc', ?_⟩
  rw [run_kind_guess execute evm frameInput readOnly hc]
  cases kind with
  | call | delegateCall | callCode =>
    simp only [dispatchFrame, Option.some.injEq] at hf
    subst hf
    simp_all
  | create | create2 =>
    simp only [dispatchFrame, Option.ite_none_right_eq_some, Option.some.injEq] at hf
    obtain ⟨h, rfl⟩ := hf
    simp [h]

theorem run_kind_create2 :
    let db : StateDB := { (default : StateDB) with code := fun a => if a = 2 then [0x60] else [] }
    let evm : EVMC := ⟨{ (default : EVM) with stateDB := db }, .evm1, false⟩
    dispatchFrame db ⟨2, 0, 0, [0x60], 0⟩ .create2 0 0 [0x61] 0 false 3 =
        some ⟨3, 2, 0, [0x61], 0⟩ ∧ [0x61] ≠ [] ∧
      (EVMC.run (Session.done default).execute evm ⟨3, 2, 0, [0x61], 0⟩ [] false).trace.head?.map
        ExecuteArgs.kind = some .create := by
  intro db evm
  exact ⟨rfl, by decide, (@run_kind (Session.done default).execute evm ⟨2, 0, 0, [0x60], 0⟩ .create2
    0 0 [0x61] 0 false 3 ⟨3, 2, 0, [0x61], 0⟩ [] false rfl (by decide)).2.trans rfl⟩

/-! ## Code format -/

/-- The four bytes `"\x00asm"` that open Ewasm code. -/
def wasmPreamble : Bytes := [0x00, 0x61, 0x73, 0x6d]

/-- `EVMC.CanRun`: the bridge runs the code its own capability requires. -/
def EVMC.canRun (evm : EVMC) (code : Bytes) : Bool :=
  let required : Capability := if wasmPreamble.isPrefixOf code then .ewasm else .evm1
  evm.cap = required

end EvmcBridge
