import Solido.Rebalance

namespace Solido

namespace SolidoState

variable (c : Collaborators) (s : SolidoState)

/-! Bringing a validator's recorded balance up to date with its accounts. -/

/-- One pass of the loop over a validator's stake accounts in `try_update_stake_account_balance`:
add the account's balance to the total, and its inactive part above the rent to what can be
withdrawn. -/
def addStakeAccount (stakeRent : Nat) (sums : Nat × Nat) (account : Pubkey × StakeAccount) :
    Except Failure (Nat × Nat) := do
  let totalStakeBalance ← expectResult
    "If this overflows, there would be more than u64::MAX staked." "ArithmeticError"
    (checkedAdd sums.1 account.2.balance.total)
  let diff ← expectResult "Inactive stake is always greater than rent exempt amount"
    "ArithmeticError" (checkedSub account.2.balance.inactive stakeRent)
  let canBeWithdrawn ← expectResult
    "If this overflows, there would be more than u64::MAX staked." "ArithmeticError"
    (checkedAdd sums.2 diff)
  pure (totalStakeBalance, canBeWithdrawn)

/-- The loop over a validator's unstake accounts: add up the fully inactive ones, up to the first
that is not. -/
def removeUnstake (removed : Nat) : List (Pubkey × StakeAccount) → Except Failure Nat
  | [] => .ok removed
  | (_, account) :: rest =>
      if account.balance.inactive ≠ account.balance.total then .ok removed
      else do
        let removed ← expectResult "Summing unstake accounts should not overflow."
          "ArithmeticError" (checkedAdd removed account.balance.total)
        removeUnstake removed rest

/-- The loop body of `try_update_stake_account_balance`: update a validator whose stake grew, or
did not grow but has enough inactive stake to withdraw, or has unstake accounts to sweep. -/
def updateStakeAccountBalance :
    Nat × Validator × List (Pubkey × StakeAccount) × List (Pubkey × StakeAccount) →
      Except Failure (Flow MaintenanceInstruction)
  | (validatorIndex, validator, stakeAccounts, unstakeAccounts) => do
      let stakeRent := s.rent.minimumBalance c.stakeStateSize
      let (totalStakeBalance, canBeWithdrawn) ←
        stakeAccounts.foldlM (addStakeAccount stakeRent) (0, 0)
      let effectiveStakeBalance := c.computeEffectiveStakeBalance validator
      let expectedDifferenceStake ← (if totalStakeBalance > effectiveStakeBalance then
          expectResult "Does not overflow because current > entry.balance." "ArithmeticError"
            (checkedSub totalStakeBalance effectiveStakeBalance)
        else pure canBeWithdrawn)
      let removedUnstake ← removeUnstake 0 unstakeAccounts
      if expectedDifferenceStake > minimumWithdrawAmount ∨ removedUnstake > 0 then do
        let validatorIndex ← expectResult "Too many validators" "TryFromIntError(())"
          (u32TryFrom validatorIndex)
        pure (.done (some (.new (.updateStakeAccountBalance s.solidoProgramId
          ⟨s.solidoAddress, validator.pubkey,
            stakeAccounts.map Prod.fst ++ unstakeAccounts.map Prod.fst, s.reserveAddress,
            s.getStakeAuthority c, s.getMintAuthority c, s.solido.stSolMint,
            s.solido.feeRecipients.treasuryAccount, s.solido.feeRecipients.developerAccount,
            s.solido.validatorList⟩ validatorIndex)
          (.updateStakeAccountBalance validator.pubkey expectedDifferenceStake removedUnstake))))
      else pure .next

/-- `try_update_stake_account_balance`: the first validator, in list order, whose balance needs
an update. -/
def tryUpdateStakeAccountBalance : Except Failure (Option MaintenanceInstruction) :=
  firstDone (s.updateStakeAccountBalance c)
    (s.validators.entries.zip (s.validatorStakeAccounts.zip s.validatorUnstakeAccounts)).enum

/-! What the loop computes, in the words of the spec. -/

/-- The sum of the balances of a validator's stake accounts. -/
def totalStake (accounts : List (Pubkey × StakeAccount)) : Nat :=
  (accounts.map fun account => account.2.balance.total).sum

/-- What can be withdrawn from them: the inactive part of each above its rent. -/
def withdrawableStake (stakeRent : Nat) (accounts : List (Pubkey × StakeAccount)) : Nat :=
  (accounts.map fun account => account.2.balance.inactive - stakeRent).sum

/-- The balance of the longest run of fully inactive unstake accounts at the front. -/
def sweepableUnstake (accounts : List (Pubkey × StakeAccount)) : Nat :=
  ((accounts.takeWhile fun account => account.2.balance.inactive = account.2.balance.total).map
    fun account => account.2.balance.total).sum

/-- The rent-exempt balance of a stake account. -/
def stakeRent : Nat := s.rent.minimumBalance c.stakeStateSize

/-- The change of a validator's stake that an update reports: the growth of its stake accounts
over its recorded balance or, when they did not grow, what can be withdrawn from them. -/
def expectedDifferenceStake (validator : Validator) (stakeAccounts : List (Pubkey × StakeAccount)) :
    Nat :=
  if c.computeEffectiveStakeBalance validator < totalStake stakeAccounts then
    totalStake stakeAccounts - c.computeEffectiveStakeBalance validator
  else withdrawableStake (s.stakeRent c) stakeAccounts

/-- Whether a validator's recorded balance needs an update: its stake grew by more than the
withdrawal floor, or it did not grow and more than the floor can be withdrawn, or an unstake
account at the front has fully deactivated. -/
def needsBalanceUpdate :
    Validator × List (Pubkey × StakeAccount) × List (Pubkey × StakeAccount) → Bool
  | (validator, stakeAccounts, unstakeAccounts) =>
      let recorded := c.computeEffectiveStakeBalance validator
      (recorded < totalStake stakeAccounts &&
          minimumWithdrawAmount < totalStake stakeAccounts - recorded) ||
        (totalStake stakeAccounts ≤ recorded &&
          minimumWithdrawAmount < withdrawableStake (s.stakeRent c) stakeAccounts) ||
        0 < sweepableUnstake unstakeAccounts

/-- The update of a validator's balance: all of its stake accounts and then all of its unstake
accounts, the change of its stake, and what its unstake accounts return to the reserve. -/
def balanceUpdate :
    Nat × Validator × List (Pubkey × StakeAccount) × List (Pubkey × StakeAccount) →
      MaintenanceInstruction
  | (validatorIndex, validator, stakeAccounts, unstakeAccounts) =>
      .new (.updateStakeAccountBalance s.solidoProgramId
        ⟨s.solidoAddress, validator.pubkey,
          stakeAccounts.map Prod.fst ++ unstakeAccounts.map Prod.fst, s.reserveAddress,
          s.getStakeAuthority c, s.getMintAuthority c, s.solido.stSolMint,
          s.solido.feeRecipients.treasuryAccount, s.solido.feeRecipients.developerAccount,
          s.solido.validatorList⟩ validatorIndex)
        (.updateStakeAccountBalance validator.pubkey
          (s.expectedDifferenceStake c validator stakeAccounts) (sweepableUnstake unstakeAccounts))

/-- What `try_update_stake_account_balance` expects of a validator's accounts: every stake account
keeps at least its rent inactive, and the sums fit a `u64`. -/
def BalancesFit : Validator × List (Pubkey × StakeAccount) × List (Pubkey × StakeAccount) → Prop
  | (_, stakeAccounts, unstakeAccounts) =>
      (∀ account ∈ stakeAccounts, s.stakeRent c ≤ account.2.balance.inactive) ∧
        totalStake stakeAccounts ≤ u64Max ∧
        withdrawableStake (s.stakeRent c) stakeAccounts ≤ u64Max ∧
        sweepableUnstake unstakeAccounts ≤ u64Max

instance (x : Validator × List (Pubkey × StakeAccount) × List (Pubkey × StakeAccount)) :
    Decidable (s.BalancesFit c x) :=
  match x with
  | (_, _, _) => inferInstanceAs (Decidable (_ ∧ _ ∧ _ ∧ _))

section BalanceSpec

variable {c : Collaborators} {s : SolidoState}

theorem foldlM_addStakeAccount {stakeRent : Nat} :
    ∀ {accounts : List (Pubkey × StakeAccount)} {sums : Nat × Nat},
      (∀ account ∈ accounts, stakeRent ≤ account.2.balance.inactive) →
      sums.1 + totalStake accounts ≤ u64Max →
      sums.2 + withdrawableStake stakeRent accounts ≤ u64Max →
      accounts.foldlM (addStakeAccount stakeRent) sums =
        .ok (sums.1 + totalStake accounts, sums.2 + withdrawableStake stakeRent accounts)
  | [], _, _, _, _ => by simp [totalStake, withdrawableStake]
  | account :: rest, (total, withdrawable), hrent, htotal, hwithdrawable => by
      simp only [totalStake, withdrawableStake, List.map_cons, List.sum_cons] at htotal hwithdrawable
      have hstep : addStakeAccount stakeRent (total, withdrawable) account =
          .ok (total + account.2.balance.total,
            withdrawable + (account.2.balance.inactive - stakeRent)) := by
        simp [addStakeAccount, checkedAdd_of_le (show total + account.2.balance.total ≤ u64Max by omega),
          checkedSub_of_le (hrent account (List.mem_cons_self _ _)),
          checkedAdd_of_le (show withdrawable + (account.2.balance.inactive - stakeRent) ≤ u64Max by omega)]
      rw [List.foldlM_cons, hstep, ok_bind, foldlM_addStakeAccount
        (fun x hx => hrent x (List.mem_cons_of_mem _ hx)) (by simp only [totalStake]; omega)
        (by simp only [withdrawableStake]; omega)]
      simp only [totalStake, withdrawableStake, List.map_cons, List.sum_cons, Except.ok.injEq,
        Prod.mk.injEq]
      omega

theorem removeUnstake_eq : ∀ {removed : Nat} {accounts : List (Pubkey × StakeAccount)},
    removed + sweepableUnstake accounts ≤ u64Max →
      removeUnstake removed accounts = .ok (removed + sweepableUnstake accounts)
  | _, [], _ => by simp [removeUnstake, sweepableUnstake]
  | removed, (addr, account) :: rest, h => by
      by_cases hinactive : account.balance.inactive = account.balance.total
      · have hsweep : sweepableUnstake ((addr, account) :: rest) =
            account.balance.total + sweepableUnstake rest := by
          simp [sweepableUnstake, hinactive]
        rw [hsweep] at h ⊢
        rw [removeUnstake, if_neg (not_not.mpr hinactive), checkedAdd_of_le (by omega), expectResult_some,
          ok_bind, removeUnstake_eq (by omega), Nat.add_assoc]
      · simp [removeUnstake, sweepableUnstake, hinactive]

theorem updateStakeAccountBalance_eq
    {x : Nat × Validator × List (Pubkey × StakeAccount) × List (Pubkey × StakeAccount)}
    (hindex : x.1 < 2 ^ 32) (hfit : s.BalancesFit c x.2) :
    s.updateStakeAccountBalance c x =
      .ok (if s.needsBalanceUpdate c x.2 then .done (some (s.balanceUpdate c x)) else .next) := by
  obtain ⟨i, validator, stakeAccounts, unstakeAccounts⟩ := x
  obtain ⟨hrent, htotal, hwithdrawable, hsweep⟩ := hfit
  have hfold := @foldlM_addStakeAccount _ stakeAccounts (0, 0) hrent (by simpa using htotal)
    (by simpa using hwithdrawable)
  simp only [Nat.zero_add] at hfold
  simp only [updateStakeAccountBalance, hfold, ok_bind, @removeUnstake_eq 0 unstakeAccounts (by simpa using hsweep),
    Nat.zero_add, u32TryFrom_of_lt hindex, expectResult_some, stakeRent] at hfold ⊢
  have hdiff : (if totalStake stakeAccounts > c.computeEffectiveStakeBalance validator then
      expectResult "Does not overflow because current > entry.balance." "ArithmeticError"
        (checkedSub (totalStake stakeAccounts) (c.computeEffectiveStakeBalance validator))
      else pure (withdrawableStake (s.rent.minimumBalance c.stakeStateSize) stakeAccounts)) =
      .ok (s.expectedDifferenceStake c validator stakeAccounts) := by
    unfold expectedDifferenceStake stakeRent
    split
    · rw [checkedSub_of_le (Nat.le_of_lt (by assumption)), expectResult_some]
    · rfl
  have hcond : s.expectedDifferenceStake c validator stakeAccounts > minimumWithdrawAmount ∨
      sweepableUnstake unstakeAccounts > 0 ↔
        s.needsBalanceUpdate c (validator, stakeAccounts, unstakeAccounts) = true := by
    unfold expectedDifferenceStake needsBalanceUpdate
    split <;> simp [*] <;> omega
  rw [hdiff, ok_bind]
  by_cases hneeds : s.needsBalanceUpdate c (validator, stakeAccounts, unstakeAccounts) = true
  · rw [if_pos (hcond.mpr hneeds), if_pos hneeds]
    rfl
  · rw [if_neg (mt hcond.mp hneeds), if_neg hneeds]
    rfl

theorem tryUpdateStakeAccountBalance_eq
    (hfit : ∀ x ∈ (s.validators.entries.zip
      (s.validatorStakeAccounts.zip s.validatorUnstakeAccounts)).enum, s.BalancesFit c x.2) :
    s.tryUpdateStakeAccountBalance c = .ok (((s.validators.entries.zip
      (s.validatorStakeAccounts.zip s.validatorUnstakeAccounts)).enum.find?
        fun x => s.needsBalanceUpdate c x.2).map (s.balanceUpdate c)) := by
  refine firstDone_eq_find? fun x hx => updateStakeAccountBalance_eq ?_ (hfit x hx)
  have hlt := (List.mem_enum hx).1
  have hbound := s.validators.length_lt
  simp only [List.length_zip] at hlt
  omega

/-- An update names all of the validator's stake accounts and then all of its unstake accounts,
as the snapshot lists them. -/
theorem updateStakeAccountBalance_eq_done {mi : MaintenanceInstruction}
    {x : Nat × Validator × List (Pubkey × StakeAccount) × List (Pubkey × StakeAccount)}
    (h : s.updateStakeAccountBalance c x = .ok (.done (some mi))) :
    ∃ validatorIndex expectedDifferenceStake removedUnstake,
      mi = .new (.updateStakeAccountBalance s.solidoProgramId
        ⟨s.solidoAddress, x.2.1.pubkey, x.2.2.1.map Prod.fst ++ x.2.2.2.map Prod.fst,
          s.reserveAddress, s.getStakeAuthority c, s.getMintAuthority c, s.solido.stSolMint,
          s.solido.feeRecipients.treasuryAccount, s.solido.feeRecipients.developerAccount,
          s.solido.validatorList⟩ validatorIndex)
        (.updateStakeAccountBalance x.2.1.pubkey expectedDifferenceStake removedUnstake) := by
  obtain ⟨i, validator, stakeAccounts, unstakeAccounts⟩ := x
  simp only [updateStakeAccountBalance, bind_eq_ok] at h
  obtain ⟨sums, -, expected, -, removed, -, h⟩ := h
  split at h
  · obtain ⟨validatorIndex, -, h⟩ := bind_eq_ok.mp h
    cases h
    exact ⟨validatorIndex, _, _, rfl⟩
  · cases h

theorem tryUpdateStakeAccountBalance_eq_ok_some {mi : MaintenanceInstruction}
    (h : s.tryUpdateStakeAccountBalance c = .ok (some mi)) :
    ∃ x ∈ (s.validators.entries.zip (s.validatorStakeAccounts.zip s.validatorUnstakeAccounts)).enum,
      s.updateStakeAccountBalance c x = .ok (.done (some mi)) :=
  mem_of_firstDone_eq_ok_some h

end BalanceSpec

/-- With every validator's sums within a `u64`, `try_update_stake_account_balance` updates the
first validator, in list order, whose stake grew by more than the withdrawal floor, or did not
grow and has more than the floor to withdraw, or has fully deactivated unstake accounts at the
front; the update lists all of its accounts and returns those unstake accounts to the reserve. -/
theorem tryUpdateStakeAccountBalance_spec (s : SolidoState) (c : Collaborators)
    (hfit : ∀ x ∈ (s.validators.entries.zip
      (s.validatorStakeAccounts.zip s.validatorUnstakeAccounts)).enum, s.BalancesFit c x.2) :
    (s.tryUpdateStakeAccountBalance c = .ok none ↔
      ∀ x ∈ (s.validators.entries.zip (s.validatorStakeAccounts.zip s.validatorUnstakeAccounts)).enum,
        s.needsBalanceUpdate c x.2 = false) ∧
    ∀ mi, s.tryUpdateStakeAccountBalance c = .ok (some mi) ↔
      ∃ front x back,
        (s.validators.entries.zip (s.validatorStakeAccounts.zip s.validatorUnstakeAccounts)).enum =
          front ++ x :: back ∧
        (∀ y ∈ front, s.needsBalanceUpdate c y.2 = false) ∧ s.needsBalanceUpdate c x.2 = true ∧
        mi = s.balanceUpdate c x := by
  rw [tryUpdateStakeAccountBalance_eq hfit]
  refine ⟨by simp only [Except.ok.injEq, Option.map_eq_none', List.find?_eq_none, Bool.not_eq_true],
    fun mi => ?_⟩
  simp only [Except.ok.injEq, Option.map_eq_some', List.find?_eq_some, Bool.not_eq_true']
  constructor
  · rintro ⟨x, ⟨hx, front, back, heq, hfront⟩, rfl⟩
    exact ⟨front, x, back, heq, hfront, hx, rfl⟩
  · rintro ⟨front, x, back, heq, hfront, hx, rfl⟩
    exact ⟨x, ⟨hx, front, back, heq, hfront⟩, rfl⟩

/-- The stake account of a validator that received a one lamport donation after a merge left
0.003 SOL above the rent inactive. -/
def donatedStakeAccount : Pubkey × StakeAccount :=
  (⟨7000⟩, ⟨⟨2282880 + 3000000, 0, 5000000001 - 2282880 - 3000000, 0⟩, 0, 0⟩)

/-- `oneValidatorSnapshot` with the validator holding the donated account, five SOL recorded. -/
def donatedSnapshot : SolidoState :=
  { oneValidatorSnapshot with
    validatorStakeAccounts := [[donatedStakeAccount]]
    validators := ⟨[⟨⟨7⟩, ⟨0, 1⟩, ⟨0, 0⟩, 5000000000, true⟩], by decide⟩ }

/-- The same, with the donation already recorded: the stake did not grow, and the withdrawable
0.003 SOL is swept. -/
def sweptSnapshot : SolidoState :=
  { donatedSnapshot with validators := ⟨[⟨⟨7⟩, ⟨0, 1⟩, ⟨0, 0⟩, 5000000001, true⟩], by decide⟩ }

theorem tryUpdateStakeAccountBalance_spec_settled_and_swept :
    (∀ x ∈ (twoValidatorSnapshot.validators.entries.zip
      (twoValidatorSnapshot.validatorStakeAccounts.zip
        twoValidatorSnapshot.validatorUnstakeAccounts)).enum,
        twoValidatorSnapshot.BalancesFit Uniform.collaborators x.2) ∧
      twoValidatorSnapshot.tryUpdateStakeAccountBalance Uniform.collaborators = .ok none ∧
    (∀ x ∈ (sweptSnapshot.validators.entries.zip
      (sweptSnapshot.validatorStakeAccounts.zip sweptSnapshot.validatorUnstakeAccounts)).enum,
        sweptSnapshot.BalancesFit Uniform.collaborators x.2) ∧
      ∃ mi, sweptSnapshot.tryUpdateStakeAccountBalance Uniform.collaborators = .ok (some mi) ∧
        mi.output = .updateStakeAccountBalance ⟨7⟩ 3000000 0 ∧
        ∃ front x back,
          (sweptSnapshot.validators.entries.zip
            (sweptSnapshot.validatorStakeAccounts.zip sweptSnapshot.validatorUnstakeAccounts)).enum =
            front ++ x :: back ∧
          (∀ y ∈ front, sweptSnapshot.needsBalanceUpdate Uniform.collaborators y.2 = false) ∧
          sweptSnapshot.needsBalanceUpdate Uniform.collaborators x.2 = true ∧
          mi = sweptSnapshot.balanceUpdate Uniform.collaborators x := by
  have hfit : ∀ x ∈ (twoValidatorSnapshot.validators.entries.zip
      (twoValidatorSnapshot.validatorStakeAccounts.zip
        twoValidatorSnapshot.validatorUnstakeAccounts)).enum,
        twoValidatorSnapshot.BalancesFit Uniform.collaborators x.2 := by decide
  have hfitSwept : ∀ x ∈ (sweptSnapshot.validators.entries.zip
      (sweptSnapshot.validatorStakeAccounts.zip sweptSnapshot.validatorUnstakeAccounts)).enum,
        sweptSnapshot.BalancesFit Uniform.collaborators x.2 := by decide
  obtain ⟨mi, hmi, hout⟩ : ∃ mi,
      sweptSnapshot.tryUpdateStakeAccountBalance Uniform.collaborators = .ok (some mi) ∧
        mi.output = .updateStakeAccountBalance ⟨7⟩ 3000000 0 := ⟨_, rfl, rfl⟩
  exact ⟨hfit, (tryUpdateStakeAccountBalance_spec twoValidatorSnapshot Uniform.collaborators
    hfit).1.mpr (by decide), hfitSwept, mi, hmi, hout,
    ((tryUpdateStakeAccountBalance_spec sweptSnapshot Uniform.collaborators hfitSwept).2 mi).mp hmi⟩

theorem withdrawable_stake_kept_after_growth :
    totalStake [donatedStakeAccount] =
        Uniform.collaborators.computeEffectiveStakeBalance ⟨⟨7⟩, ⟨0, 1⟩, ⟨0, 0⟩, 5000000000, true⟩ + 1 ∧
      minimumWithdrawAmount <
        withdrawableStake (donatedSnapshot.stakeRent Uniform.collaborators) [donatedStakeAccount] ∧
      donatedSnapshot.validatorUnstakeAccounts = [[]] ∧
      donatedSnapshot.tryUpdateStakeAccountBalance Uniform.collaborators = .ok none :=
  ⟨by decide, by decide, rfl, rfl⟩

end SolidoState

end Solido
