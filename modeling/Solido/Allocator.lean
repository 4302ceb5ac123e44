import Solido.State

namespace Solido

/-! The target balance allocator of `lido::balance`, by its contract, and one allocator that
meets it. -/

/-- Modelled from the spec: the contract of the target balance allocator. It computes the targets
whenever a validator is active, and both of its selectors name a validator of the list. -/
structure AllocatorContract (c : Collaborators) : Prop where
  getTargetBalance_isSome : ∀ (undelegated : Nat) (validators : AccountList Validator),
    validators.iterActive ≠ [] → (c.getTargetBalance undelegated validators).isSome
  getMinimumStakeValidatorIndexAmount_lt : ∀ (validators : AccountList Validator)
    (targets : List Nat), validators.iterActive ≠ [] →
      (c.getMinimumStakeValidatorIndexAmount validators targets).1 < validators.entries.length
  getUnstakeValidatorIndex_lt : ∀ (validators : AccountList Validator) (targets : List Nat)
    (threshold : Rational) (index : Nat) (excess : Nat),
      c.getUnstakeValidatorIndex validators targets threshold = some (index, excess) →
        index < validators.entries.length

namespace Uniform

/-- Modelled from the spec: the fair-share targets, an even split of all of the pool's lamports
among the active validators. Without an active validator there is nothing to split. -/
def targetBalance (undelegated : Nat) (validators : AccountList Validator) :
    Option (List Nat) :=
  match validators.iterActive.length with
  | 0 => none
  | active + 1 =>
      let total := undelegated + (validators.entries.map Validator.stakeAccountsBalance).sum
      some (validators.entries.map fun v => if v.isActive then total / (active + 1) else 0)

/-- The active validators, each with its position in the list and its target. -/
def activeWithTargets (validators : AccountList Validator) (targets : List Nat) :
    List (Nat × Validator × Nat) :=
  (validators.entries.zip targets).enum.filter fun x => x.2.1.isActive

/-- How far a validator's balance is below its target. -/
def shortfall (x : Nat × Validator × Nat) : Nat := x.2.2 - x.2.1.stakeAccountsBalance

/-- How far a validator's balance is above its target. -/
def excess (x : Nat × Validator × Nat) : Nat := x.2.1.stakeAccountsBalance - x.2.2

/-- Modelled from the spec: the active validator furthest below its target, the first one on a
tie, with its shortfall. -/
def minimumStakeValidatorIndexAmount (validators : AccountList Validator)
    (targets : List Nat) : Nat × Nat :=
  match (activeWithTargets validators targets).argmax shortfall with
  | some x => (x.1, shortfall x)
  | none => (0, 0)

/-- Modelled from the spec: among the active validators above their target by more than the
threshold, relative to the target, the one with the largest excess, with that excess. -/
def unstakeValidatorIndex (validators : AccountList Validator) (targets : List Nat)
    (threshold : Rational) : Option (Nat × Nat) :=
  (((activeWithTargets validators targets).filter fun x =>
    decide (threshold < ⟨excess x, x.2.2⟩)).argmax excess).map fun x => (x.1, excess x)

theorem index_lt_of_mem_activeWithTargets {validators : AccountList Validator}
    {targets : List Nat} {x : Nat × Validator × Nat}
    (hx : x ∈ activeWithTargets validators targets) : x.1 < validators.entries.length := by
  have hlt := (List.mem_enum (List.mem_filter.mp hx).1).1
  simp only [List.length_zip] at hlt
  omega

theorem entries_ne_nil_of_iterActive {validators : AccountList Validator}
    (h : validators.iterActive ≠ []) : 0 < validators.entries.length := by
  cases hentries : validators.entries with
  | nil => simp [AccountList.iterActive, hentries] at h
  | cons _ _ => simp

/-- Modelled from the spec: the collaborators of the runs of the model on small ledgers. They
take the uniform allocator, derive an address by spelling out what it is derived from, count
every delegated lamport as active, keep a validator whose commission is within the maximum,
remove a validator that is inactive and holds nothing, and show a balance in lamports. -/
def collaborators : Collaborators where
  findStakeAccountAddress validator _ _ seed stakeType :=
    ⟨1000 * validator.pubkey.key + 10 * seed + if stakeType = .stake then 0 else 1⟩
  findTemporaryStakeAccountAddress validator _ _ seed epoch :=
    ⟨1000 * validator.pubkey.key + 10 * seed + 2 + 100000 * epoch⟩
  findAuthorityProgramAddress _ _ authority := if authority = .stake then ⟨10⟩ else ⟨11⟩
  getReserveAccount _ _ _ := .ok ⟨3⟩
  unpackMint _ := .ok ⟨0⟩
  deserializeStakeAccount
    | [voter, activationEpoch] =>
        some ⟨⟨⟨voter.toNat⟩, 0, activationEpoch.toNat, u64Max⟩⟩
    | _ => none
  stakeBalance lamports _ _ _ := ⟨0, 0, lamports, 0⟩
  canMerge into merged := into.balance.activating = 0 && into.balance.deactivating = 0 &&
    merged.balance.activating = 0 && merged.balance.deactivating = 0
  doesPerformWell criteria commission _ := commission ≤ criteria.maxCommission
  checkCanBeRemoved validator := !validator.active && validator.stakeAccountsBalance = 0 &&
    validator.stakeSeeds.begin = validator.stakeSeeds.end &&
    validator.unstakeSeeds.begin = validator.unstakeSeeds.end
  computeEffectiveStakeBalance validator := validator.stakeAccountsBalance
  getTargetBalance := targetBalance
  getMinimumStakeValidatorIndexAmount := minimumStakeValidatorIndexAmount
  getUnstakeValidatorIndex := unstakeValidatorIndex
  minimumStakeAccountBalance := 1000000000
  stakeStateSize := 200
  displayLamports amount := toString amount ++ " lamports"

/-- The uniform allocator meets the allocator's contract. -/
theorem collaborators_contract : AllocatorContract collaborators where
  getTargetBalance_isSome undelegated validators h := by
    show (targetBalance undelegated validators).isSome
    unfold targetBalance
    split
    · rename_i hzero
      exact absurd (List.length_eq_zero.mp hzero) h
    · rfl
  getMinimumStakeValidatorIndexAmount_lt validators targets h := by
    show (minimumStakeValidatorIndexAmount validators targets).1 < _
    unfold minimumStakeValidatorIndexAmount
    split
    · rename_i x hx
      exact index_lt_of_mem_activeWithTargets (List.argmax_mem hx)
    · exact entries_ne_nil_of_iterActive h
  getUnstakeValidatorIndex_lt validators targets threshold index excess h := by
    simp only [show collaborators.getUnstakeValidatorIndex = unstakeValidatorIndex from rfl,
      unstakeValidatorIndex, Option.map_eq_some', Prod.mk.injEq] at h
    obtain ⟨x, hx, rfl, -⟩ := h
    exact index_lt_of_mem_activeWithTargets (List.mem_filter.mp (List.argmax_mem hx)).1

end Uniform

end Solido
