import Solido.Lifecycle

namespace Solido

namespace SolidoState

variable (c : Collaborators) (s : SolidoState)

/-! Staking the reserve with the validator furthest below its target. -/

/-- The account `try_stake_deposit` creates, and the account it merges that into: the last stake
account when that one started activating in this epoch, else the new account itself. -/
def stakeDepositAccounts (validator : Validator) (last : Option (Pubkey × StakeAccount)) :
    Pubkey × Pubkey :=
  let appended := c.findStakeAccountAddress validator s.solidoProgramId s.solidoAddress
    validator.stakeSeeds.end .stake
  match last with
  | some (addr, account) =>
      if account.activationEpoch = s.clock.epoch then
        (c.findTemporaryStakeAccountAddress validator s.solidoProgramId s.solidoAddress
          validator.stakeSeeds.end s.clock.epoch, addr)
      else (appended, appended)
  | none => (appended, appended)

/-- The part of `try_stake_deposit` after the reserve check: deposit `amount` with the validator
at `validatorIndex`. -/
def stakeDepositTo (validatorIndex : Nat) (validator : Validator) (amount : Nat) :
    Except Failure (Option MaintenanceInstruction) := do
  let stakeAccounts ← index s.validatorStakeAccounts validatorIndex
  let (stakeAccountEnd, accountMergeInto) := s.stakeDepositAccounts c validator stakeAccounts.getLast?
  let some maintainerIndex := s.maintainers.position s.maintainerAddress | pure none
  let validatorIndex ← expectResult "Too many validators" "TryFromIntError(())"
    (u32TryFrom validatorIndex)
  pure (some (.new (.stakeDeposit s.solidoProgramId
    ⟨s.solidoAddress, s.maintainerAddress, s.reserveAddress, validator.pubkey, accountMergeInto,
      stakeAccountEnd, s.getStakeAuthority c, s.solido.validatorList, s.solido.maintainerList⟩
    amount validatorIndex maintainerIndex)
    (.stakeDeposit validator.pubkey stakeAccountEnd amount)))

/-- `try_stake_deposit`: top the validator furthest below its target up to at most its target,
but never by less than the minimum stake account balance, and only from the reserve. -/
def tryStakeDeposit : Except Failure (Option MaintenanceInstruction) := do
  let some () ← s.confirmShouldStakeUnstakeInCurrentSlot | pure none
  let some _ := s.validators.iterActive.head? | pure none
  let reserveBalance := s.getEffectiveReserve
  let targets ← expect "Failed to compute target balance."
    (c.getTargetBalance reserveBalance s.validators)
  let (validatorIndex, amountBelowTarget) :=
    c.getMinimumStakeValidatorIndexAmount s.validators targets
  let validator ← index s.validators.entries validatorIndex
  let amountToDeposit := max (min amountBelowTarget reserveBalance) c.minimumStakeAccountBalance
  if amountToDeposit > reserveBalance then pure none
  else s.stakeDepositTo c validatorIndex validator amountToDeposit

section StakeDepositSpec

variable {c : Collaborators} {s : SolidoState} {mi : MaintenanceInstruction}

theorem stakeDepositTo_eq_ok_some {validatorIndex : Nat} {validator : Validator} {amount : Nat}
    (h : s.stakeDepositTo c validatorIndex validator amount = .ok (some mi)) :
    ∃ stakeAccounts maintainerIndex, s.validatorStakeAccounts[validatorIndex]? = some stakeAccounts ∧
      s.maintainers.position s.maintainerAddress = some maintainerIndex ∧
      validatorIndex < 2 ^ 32 ∧
      mi = .new (.stakeDeposit s.solidoProgramId
        ⟨s.solidoAddress, s.maintainerAddress, s.reserveAddress, validator.pubkey,
          (s.stakeDepositAccounts c validator stakeAccounts.getLast?).2,
          (s.stakeDepositAccounts c validator stakeAccounts.getLast?).1, s.getStakeAuthority c,
          s.solido.validatorList, s.solido.maintainerList⟩
        amount validatorIndex maintainerIndex)
        (.stakeDeposit validator.pubkey (s.stakeDepositAccounts c validator stakeAccounts.getLast?).1
          amount) := by
  simp only [stakeDepositTo, bind_eq_ok] at h
  obtain ⟨stakeAccounts, hstake, h⟩ := h
  split at h
  · rename_i maintainerIndex hmaintainer
    obtain ⟨index32, hindex32, h⟩ := bind_eq_ok.mp h
    unfold u32TryFrom at hindex32
    split at hindex32
    · cases hindex32
      cases h
      exact ⟨stakeAccounts, maintainerIndex, index_eq_ok.mp hstake, hmaintainer, by assumption, rfl⟩
    · cases hindex32
  · cases h

theorem stakeDepositTo_isSome {validatorIndex maintainerIndex : Nat} (validator : Validator)
    (amount : Nat) (hindex : validatorIndex < s.validatorStakeAccounts.length)
    (hmaintainer : s.maintainers.position s.maintainerAddress = some maintainerIndex)
    (hlt : validatorIndex < 2 ^ 32) :
    ∃ mi, s.stakeDepositTo c validatorIndex validator amount = .ok (some mi) := by
  simp [stakeDepositTo, index_of_lt hindex, hmaintainer, u32TryFrom_of_lt hlt]

theorem tryStakeDeposit_of_open (hc : AllocatorContract c)
    (hgate : s.confirmShouldStakeUnstakeInCurrentSlot = .ok (some ()))
    (hactive : s.validators.iterActive ≠ []) :
    ∃ targets validator, c.getTargetBalance s.getEffectiveReserve s.validators = some targets ∧
      s.validators.entries[(c.getMinimumStakeValidatorIndexAmount s.validators targets).1]? =
        some validator ∧
      s.tryStakeDeposit c =
        if max (min (c.getMinimumStakeValidatorIndexAmount s.validators targets).2
            s.getEffectiveReserve) c.minimumStakeAccountBalance > s.getEffectiveReserve then .ok none
        else s.stakeDepositTo c (c.getMinimumStakeValidatorIndexAmount s.validators targets).1
          validator (max (min (c.getMinimumStakeValidatorIndexAmount s.validators targets).2
            s.getEffectiveReserve) c.minimumStakeAccountBalance) := by
  obtain ⟨targets, htargets⟩ :=
    Option.isSome_iff_exists.mp (hc.getTargetBalance_isSome s.getEffectiveReserve _ hactive)
  have hlt := hc.getMinimumStakeValidatorIndexAmount_lt s.validators targets hactive
  obtain ⟨first, rest, hcons⟩ := List.exists_cons_of_ne_nil hactive
  refine ⟨targets, _, htargets, List.getElem?_eq_getElem hlt, ?_⟩
  simp only [tryStakeDeposit, hgate, hcons, List.head?_cons, htargets, expect_some,
    index_of_lt hlt, ok_bind]
  rfl

theorem tryStakeDeposit_of_closed (hgate : s.confirmShouldStakeUnstakeInCurrentSlot = .ok none) :
    s.tryStakeDeposit c = .ok none := by
  rw [tryStakeDeposit, hgate]
  rfl

theorem tryStakeDeposit_of_iterActive_eq_nil
    (hgate : s.confirmShouldStakeUnstakeInCurrentSlot = .ok (some ()))
    (hactive : s.validators.iterActive = []) : s.tryStakeDeposit c = .ok none := by
  rw [tryStakeDeposit, hgate, ok_bind, hactive]
  rfl

/-- A deposit is made from a gate that is open through to the end: the targets, the chosen
validator, the amount within the reserve, and the deposit itself. -/
theorem tryStakeDeposit_eq_ok_some (h : s.tryStakeDeposit c = .ok (some mi)) :
    ∃ targets validator, c.getTargetBalance s.getEffectiveReserve s.validators = some targets ∧
      s.validators.entries[(c.getMinimumStakeValidatorIndexAmount s.validators targets).1]? =
        some validator ∧
      max (min (c.getMinimumStakeValidatorIndexAmount s.validators targets).2 s.getEffectiveReserve)
        c.minimumStakeAccountBalance ≤ s.getEffectiveReserve ∧
      s.stakeDepositTo c (c.getMinimumStakeValidatorIndexAmount s.validators targets).1 validator
        (max (min (c.getMinimumStakeValidatorIndexAmount s.validators targets).2
          s.getEffectiveReserve) c.minimumStakeAccountBalance) = .ok (some mi) := by
  simp only [tryStakeDeposit, bind_eq_ok] at h
  obtain ⟨gate, -, h⟩ := h
  split at h
  · split at h
    · simp only [bind_eq_ok] at h
      obtain ⟨targets, htargets, validator, hvalidator, h⟩ := h
      split at h
      · cases h
      · exact ⟨targets, validator, expect_eq_ok.mp htargets, index_eq_ok.mp hvalidator,
          Nat.le_of_not_lt (by assumption), h⟩
    · cases h
  · cases h

theorem stakeDepositTo_isOk {validatorIndex : Nat} (validator : Validator) (amount : Nat)
    (hindex : validatorIndex < s.validatorStakeAccounts.length) (hlt : validatorIndex < 2 ^ 32) :
    ∃ result, s.stakeDepositTo c validatorIndex validator amount = .ok result := by
  simp only [stakeDepositTo, index_of_lt hindex, ok_bind]
  split
  · rw [u32TryFrom_of_lt hlt, expectResult_some, ok_bind]
    exact ⟨_, rfl⟩
  · exact ⟨_, rfl⟩

theorem tryStakeDeposit_isOk (hc : AllocatorContract c) (hs : s.Consistent c)
    (hgate : ∃ gate, s.confirmShouldStakeUnstakeInCurrentSlot = .ok gate) :
    ∃ result, s.tryStakeDeposit c = .ok result := by
  obtain ⟨_ | ⟨⟨⟩⟩, hgate⟩ := hgate
  · exact ⟨_, tryStakeDeposit_of_closed hgate⟩
  · by_cases hactive : s.validators.iterActive = []
    · exact ⟨_, tryStakeDeposit_of_iterActive_eq_nil hgate hactive⟩
    · obtain ⟨targets, validator, -, -, heq⟩ := tryStakeDeposit_of_open hc hgate hactive
      have hlt := hc.getMinimumStakeValidatorIndexAmount_lt s.validators targets hactive
      rw [heq]
      split
      · exact ⟨_, rfl⟩
      · exact stakeDepositTo_isOk validator _ (hs.stakeAccounts_length ▸ hlt)
          (lt_trans hlt s.validators.length_lt)

end StakeDepositSpec

/-- A snapshot of the unit tests' kind with one active validator that has no stake account yet,
and two SOL in the reserve above its rent. -/
def oneValidatorSnapshot : SolidoState :=
  { newEmptySolido with
    validatorStakeAccounts := [[]]
    validatorUnstakeAccounts := [[]]
    validatorVoteAccountBalances := [0]
    validatorVoteAccounts := [some ⟨⟨8⟩, 5, 0⟩]
    validatorIdentityAccountBalances := [0]
    validatorPerfs := [none]
    validatorBlockProductionRates := [none]
    validatorInfos := [⟨"validator", none⟩]
    reserveAccount := ⟨128 * 6960 + 2000000000, []⟩
    validators := ⟨[⟨⟨7⟩, ⟨0, 0⟩, ⟨0, 0⟩, 0, true⟩], by decide⟩ }

/-- The part of `try_unstake_from_active_validators` after the floor check: unstake `amount` from
the validator's first stake account. -/
def unstakeFrom (validator : Validator) (stakeAccount : Pubkey × StakeAccount)
    (amount : Nat) : Option MaintenanceInstruction := do
  let (unstakeAccount, instruction) ← s.getUnstakeInstruction c validator stakeAccount amount
  pure (.new instruction (.unstakeFromActiveValidator ⟨validator.pubkey, stakeAccount.1,
    unstakeAccount, validator.stakeSeeds.begin, validator.unstakeSeeds.end, amount⟩))

/-- `try_unstake_from_active_validators`: unstake the excess of the validator furthest above its
target from its first stake account, leaving both accounts at least the minimum. -/
def tryUnstakeFromActiveValidators : Except Failure (Option MaintenanceInstruction) := do
  let some () ← s.confirmShouldStakeUnstakeInCurrentSlot | pure none
  let some _ := s.validators.iterActive.head? | pure none
  let targets ← expect "Failed to compute target balance."
    (c.getTargetBalance s.getEffectiveReserve s.validators)
  let some (validatorIndex, unstakeAmount) :=
    c.getUnstakeValidatorIndex s.validators targets unbalanceThreshold | pure none
  let validator ← index s.validators.entries validatorIndex
  let some stakeAccount := (← index s.validatorStakeAccounts validatorIndex).head? | pure none
  let maximumUnstake ← expectResult "Stake account should always have the minimum amount."
    "ArithmeticError" (checkedSub stakeAccount.2.balance.total c.minimumStakeAccountBalance)
  let amount := min unstakeAmount maximumUnstake
  if amount < c.minimumStakeAccountBalance then pure none
  else pure (s.unstakeFrom c validator stakeAccount amount)

section UnstakeSpec

variable {c : Collaborators} {s : SolidoState} {mi : MaintenanceInstruction}

theorem unstakeFrom_eq_some {validator : Validator} {stakeAccount : Pubkey × StakeAccount}
    {amount : Nat} (h : s.unstakeFrom c validator stakeAccount amount = some mi) :
    ∃ unstakeAccount instruction,
      s.getUnstakeInstruction c validator stakeAccount amount = some (unstakeAccount, instruction) ∧
      mi = .new instruction (.unstakeFromActiveValidator ⟨validator.pubkey, stakeAccount.1,
        unstakeAccount, validator.stakeSeeds.begin, validator.unstakeSeeds.end, amount⟩) := by
  simp only [unstakeFrom, Option.bind_eq_bind, Option.bind_eq_some, Option.pure_def,
    Option.some.injEq] at h
  obtain ⟨⟨unstakeAccount, instruction⟩, hget, rfl⟩ := h
  exact ⟨unstakeAccount, instruction, hget, rfl⟩

theorem tryUnstakeFromActiveValidators_eq_ok_some
    (h : s.tryUnstakeFromActiveValidators c = .ok (some mi)) :
    ∃ targets validatorIndex excess validator stakeAccount rest,
      c.getTargetBalance s.getEffectiveReserve s.validators = some targets ∧
      c.getUnstakeValidatorIndex s.validators targets unbalanceThreshold =
        some (validatorIndex, excess) ∧
      s.validators.entries[validatorIndex]? = some validator ∧
      s.validatorStakeAccounts[validatorIndex]? = some (stakeAccount :: rest) ∧
      c.minimumStakeAccountBalance ≤ stakeAccount.2.balance.total ∧
      c.minimumStakeAccountBalance ≤
        min excess (stakeAccount.2.balance.total - c.minimumStakeAccountBalance) ∧
      s.unstakeFrom c validator stakeAccount
        (min excess (stakeAccount.2.balance.total - c.minimumStakeAccountBalance)) = some mi := by
  simp only [tryUnstakeFromActiveValidators, bind_eq_ok] at h
  obtain ⟨gate, -, h⟩ := h
  split at h
  · split at h
    · simp only [bind_eq_ok] at h
      obtain ⟨targets, htargets, h⟩ := h
      split at h
      · rename_i validatorIndex excess hsel
        simp only [bind_eq_ok] at h
        obtain ⟨validator, hvalidator, stakeAccounts, hstake, h⟩ := h
        split at h
        · rename_i stakeAccount hhead
          obtain ⟨maximumUnstake, hmax, h⟩ := bind_eq_ok.mp h
          obtain ⟨hle, rfl⟩ := checkedSub_eq_some.mp (expect_eq_ok.mp hmax)
          split at h
          · cases h
          · obtain ⟨rest, rfl⟩ : ∃ rest, stakeAccounts = stakeAccount :: rest := by
              cases stakeAccounts with
              | nil => cases hhead
              | cons _ rest => cases hhead; exact ⟨rest, rfl⟩
            exact ⟨targets, validatorIndex, excess, validator, stakeAccount, rest,
              expect_eq_ok.mp htargets, hsel, index_eq_ok.mp hvalidator, index_eq_ok.mp hstake, hle,
              Nat.le_of_not_lt (by assumption), Except.ok.inj h⟩
        · cases h
      · cases h
    · cases h
  · cases h

theorem unstakeFrom_isSome {validator : Validator} (hv : validator ∈ s.validators.entries)
    (hmaintainer : s.maintainerAddress ∈ s.maintainers.entries.map Maintainer.pubkey)
    (stakeAccount : Pubkey × StakeAccount) (amount : Nat) :
    ∃ mi, s.unstakeFrom c validator stakeAccount amount = some mi := by
  obtain ⟨maintainerIndex, hm⟩ := AccountList.position_of_mem_map hmaintainer
  obtain ⟨validatorIndex, hvi⟩ := AccountList.position_of_mem hv
  obtain ⟨⟨unstakeAccount, instruction⟩, hget⟩ := Option.isSome_iff_exists.mp
    (getUnstakeInstruction_isSome (c := c) hvi hm stakeAccount amount)
  simp [unstakeFrom, hget]

theorem tryUnstakeFromActiveValidators_of_closed
    (hgate : s.confirmShouldStakeUnstakeInCurrentSlot = .ok none) :
    s.tryUnstakeFromActiveValidators c = .ok none := by
  rw [tryUnstakeFromActiveValidators, hgate]
  rfl

theorem tryUnstakeFromActiveValidators_of_open
    (hgate : s.confirmShouldStakeUnstakeInCurrentSlot = .ok (some ()))
    (hactive : s.validators.iterActive ≠ []) {targets : List Nat} {validatorIndex excess : Nat}
    {validator : Validator} {stakeAccount : Pubkey × StakeAccount}
    {rest : List (Pubkey × StakeAccount)}
    (htargets : c.getTargetBalance s.getEffectiveReserve s.validators = some targets)
    (hsel : c.getUnstakeValidatorIndex s.validators targets unbalanceThreshold =
      some (validatorIndex, excess))
    (hvalidator : s.validators.entries[validatorIndex]? = some validator)
    (hstake : s.validatorStakeAccounts[validatorIndex]? = some (stakeAccount :: rest))
    (hmin : c.minimumStakeAccountBalance ≤ stakeAccount.2.balance.total) :
    s.tryUnstakeFromActiveValidators c =
      if min excess (stakeAccount.2.balance.total - c.minimumStakeAccountBalance) <
          c.minimumStakeAccountBalance then .ok none
      else .ok (s.unstakeFrom c validator stakeAccount
        (min excess (stakeAccount.2.balance.total - c.minimumStakeAccountBalance))) := by
  obtain ⟨first, others, hcons⟩ := List.exists_cons_of_ne_nil hactive
  simp only [tryUnstakeFromActiveValidators, hgate, hcons, List.head?_cons, htargets, expect_some,
    hsel, index_eq_ok.mpr hvalidator, index_eq_ok.mpr hstake, checkedSub_of_le hmin, ok_bind]
  rfl

theorem tryUnstakeFromActiveValidators_isOk (hc : AllocatorContract c) (hs : s.Consistent c)
    (hgate : ∃ gate, s.confirmShouldStakeUnstakeInCurrentSlot = .ok gate)
    (hminimum : ∀ accounts ∈ s.validatorStakeAccounts, ∀ account ∈ accounts.head?,
      c.minimumStakeAccountBalance ≤ account.2.balance.total) :
    ∃ result, s.tryUnstakeFromActiveValidators c = .ok result := by
  obtain ⟨_ | ⟨⟨⟩⟩, hgate⟩ := hgate
  · exact ⟨none, tryUnstakeFromActiveValidators_of_closed hgate⟩
  cases hfirst : s.validators.iterActive.head? with
  | none => exact ⟨none, by simp only [tryUnstakeFromActiveValidators, hgate, hfirst, ok_bind]; rfl⟩
  | some first =>
    have hactive : s.validators.iterActive ≠ [] := fun hnil => by simp [hnil] at hfirst
    obtain ⟨targets, htargets⟩ :=
      Option.isSome_iff_exists.mp (hc.getTargetBalance_isSome s.getEffectiveReserve _ hactive)
    simp only [tryUnstakeFromActiveValidators, hgate, hfirst, htargets, expect_some, ok_bind]
    split
    next validatorIndex excess hsel =>
      have hlt := hc.getUnstakeValidatorIndex_lt _ _ _ _ _ hsel
      rw [index_of_lt hlt, ok_bind, index_of_lt (hs.stakeAccounts_length ▸ hlt), ok_bind]
      split
      next account hhead =>
        have hmin := hminimum _ (List.getElem_mem _) account hhead
        rw [checkedSub_of_le hmin, expectResult_some, ok_bind]
        split <;> exact ⟨_, rfl⟩
      · exact ⟨_, rfl⟩
    · exact ⟨_, rfl⟩

end UnstakeSpec

/-- Two active validators with one stake account each, the first with five SOL where the
second has one, and the first with three unstake accounts still deactivating. The reserve holds
its rent only, and the exchange rate is up to date. -/
def twoValidatorSnapshot : SolidoState :=
  { newEmptySolido with
    validatorStakeAccounts :=
      [[(⟨7000⟩, ⟨⟨2282880, 0, 5000000000 - 2282880, 0⟩, 0, 0⟩)],
        [(⟨9000⟩, ⟨⟨2282880, 0, 1000000000 - 2282880, 0⟩, 0, 0⟩)]]
    validatorUnstakeAccounts :=
      [[(⟨7001⟩, ⟨⟨0, 0, 0, 1000000000⟩, 0, 0⟩), (⟨7011⟩, ⟨⟨0, 0, 0, 1000000000⟩, 1, 0⟩),
        (⟨7021⟩, ⟨⟨0, 0, 0, 1000000000⟩, 2, 0⟩)], []]
    validatorVoteAccountBalances := [0, 0]
    validatorVoteAccounts := [some ⟨⟨8⟩, 0, 0⟩, some ⟨⟨10⟩, 0, 0⟩]
    validatorIdentityAccountBalances := [0, 0]
    validatorPerfs := [none, none]
    validatorBlockProductionRates := [none, none]
    validatorInfos := [⟨"first", none⟩, ⟨"second", none⟩]
    validators := ⟨[⟨⟨7⟩, ⟨0, 1⟩, ⟨0, 3⟩, 5000000000, true⟩,
      ⟨⟨9⟩, ⟨0, 1⟩, ⟨0, 0⟩, 1000000000, true⟩], by decide⟩ }

end SolidoState

end Solido
