import EvmcBridge.State

/-!
# Revision resolution

`getRevision` picks the engine's revision from the chain configuration at the current block. It
asks about one indicator transition per revision, newest first, and returns the revision of the
first one enabled. If none is enabled, it returns Frontier.

**Theorem (`getRevision_greatest`).** The revision returned is the greatest *selected* one, where
a revision is selected when its indicator is enabled (Frontier always is). The configuration
need not be consistent: Istanbul's indicator may be enabled while Homestead's is not.

**Theorem (`getRevision_monotone`).** If no transition flaps (once enabled, it stays enabled at
every greater height), the revision never goes back as the block number grows. The selected set
only grows, so its greatest element does too, whatever order the transitions came in.
-/

namespace EvmcBridge

/-- `evmc.Revision`, in adoption order. -/
inductive Revision
  | frontier | homestead | tangerineWhistle | spuriousDragon
  | byzantium | constantinople | petersburg | istanbul
  deriving DecidableEq, Repr

namespace Revision

/-- The `evmc_revision` number. -/
def toNat : Revision → Nat
  | frontier => 0
  | homestead => 1
  | tangerineWhistle => 2
  | spuriousDragon => 3
  | byzantium => 4
  | constantinople => 5
  | petersburg => 6
  | istanbul => 7

instance : LE Revision := ⟨fun a b => a.toNat ≤ b.toNat⟩

instance : DecidableRel (α := Revision) (· ≤ ·) := fun a b =>
  inferInstanceAs (Decidable (a.toNat ≤ b.toNat))

theorem le_def {a b : Revision} : a ≤ b ↔ a.toNat ≤ b.toNat := Iff.rfl

/-- The transition whose enabling selects the revision in `getRevision`. -/
def indicator : Revision → Option Transition
  | frontier => none
  | homestead => some .eip7
  | tangerineWhistle => some .eip150
  | spuriousDragon => some .eip155
  | byzantium => some .eip198
  | constantinople => some .eip145
  | petersburg => some .eip1283Disable
  | istanbul => some .eip1884

/-- `r` is selected at height `n` under `conf`. -/
def Selected (conf : ChainConfig) (n : Nat) (r : Revision) : Prop :=
  ∀ t, r.indicator = some t → conf.isEnabled t n = true

end Revision

/-- No flapping: once a transition is enabled, it stays enabled at every greater height. -/
def ChainConfig.StaysEnabled (conf : ChainConfig) : Prop :=
  ∀ t n m, n ≤ m → conf.isEnabled t n = true → conf.isEnabled t m = true

/-- The configuration that enables each transition from its activation height on, if it has one. -/
def ChainConfig.ofActivation (activation : Transition → Option Nat) : ChainConfig :=
  ⟨fun t n => (activation t).any (· ≤ n)⟩

theorem ChainConfig.ofActivation_staysEnabled (activation : Transition → Option Nat) :
    (ChainConfig.ofActivation activation).StaysEnabled := by
  intro t n m hnm h
  cases ha : activation t <;> simp_all [ofActivation]
  omega

/-- `getRevision`: the indicator transitions, newest first. -/
def getRevision (env : EVM) : Revision :=
  let n := env.blockNumber
  let conf := env.chainConfig
  if conf.isEnabled .eip1884 n then .istanbul
  else if conf.isEnabled .eip1283Disable n then .petersburg
  else if conf.isEnabled .eip145 n then .constantinople
  else if conf.isEnabled .eip198 n then .byzantium
  else if conf.isEnabled .eip155 n then .spuriousDragon
  else if conf.isEnabled .eip150 n then .tangerineWhistle
  else if conf.isEnabled .eip7 n then .homestead
  else .frontier

open Revision

theorem Revision.selected_ite {conf : ChainConfig} {n : Nat} {a b : Revision} {c : Prop}
    [Decidable c] (ha : c → a.Selected conf n) (hb : b.Selected conf n) :
    (if c then a else b).Selected conf n := by
  split
  exacts [ha ‹_›, hb]

theorem Revision.le_ite {r a b : Revision} {c : Prop} [Decidable c] (ha : r ≤ a) (hb : r ≤ b) :
    r ≤ if c then a else b := by
  split <;> assumption

theorem getRevision_selected (env : EVM) :
    (getRevision env).Selected env.chainConfig env.blockNumber := by
  simp only [getRevision]
  repeat' apply Revision.selected_ite
  all_goals first
    | intro h t ht; simp only [indicator, Option.some.injEq] at ht; exact ht ▸ h
    | nofun

/-- With `r`'s indicator enabled, the chain stops at `r` or at a newer revision. -/
theorem le_getRevision {env : EVM} {r : Revision}
    (hr : r.Selected env.chainConfig env.blockNumber) : r ≤ getRevision env := by
  cases r <;> simp only [Selected, indicator, Option.some.injEq, forall_eq'] at hr <;>
    simp only [getRevision, hr, if_true] <;> repeat' apply Revision.le_ite
  all_goals decide

theorem getRevision_greatest (env : EVM) :
    (getRevision env).Selected env.chainConfig env.blockNumber ∧
      ∀ r, r.Selected env.chainConfig env.blockNumber → r ≤ getRevision env :=
  ⟨getRevision_selected env, fun _ => le_getRevision⟩

theorem Revision.Selected.mono {conf : ChainConfig} (hconf : conf.StaysEnabled) {n m : Nat} (hnm : n ≤ m)
    {r : Revision} (hr : r.Selected conf n) : r.Selected conf m :=
  fun t ht => hconf t n m hnm (hr t ht)

theorem getRevision_monotone {env env' : EVM} (hconf : env'.chainConfig = env.chainConfig)
    (hstay : env.chainConfig.StaysEnabled) (hle : env.blockNumber ≤ env'.blockNumber) :
    getRevision env ≤ getRevision env' :=
  le_getRevision (hconf ▸ (getRevision_selected env).mono hstay hle)

/-- EIP-150 and EIP-155 from height 100 on, nothing later: Frontier at 99, Spurious Dragon at 100. -/
theorem getRevision_monotone_spuriousDragon :
    let conf := ChainConfig.ofActivation fun t =>
      if t = .eip150 ∨ t = .eip155 then some 100 else none
    conf.StaysEnabled ∧
      getRevision { (default : EVM) with chainConfig := conf, blockNumber := 99 } = .frontier ∧
      getRevision { (default : EVM) with chainConfig := conf, blockNumber := 100 } =
        .spuriousDragon ∧
      getRevision { (default : EVM) with chainConfig := conf, blockNumber := 99 } ≤
        getRevision { (default : EVM) with chainConfig := conf, blockNumber := 100 } :=
  ⟨ChainConfig.ofActivation_staysEnabled _, by decide, by decide,
    getRevision_monotone rfl (ChainConfig.ofActivation_staysEnabled _) (by decide)⟩

end EvmcBridge
