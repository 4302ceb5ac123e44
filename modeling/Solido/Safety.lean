import Solido.Layout

namespace Solido

namespace SolidoState

/-! The selector does not panic on a snapshot whose ledger keeps the program's own bounds. -/

/-- What the ledger has to keep for no step of the selector to panic. The epoch schedule and the
clock are those of a running cluster, and each validator's balances are within the bounds the
on-chain program keeps. -/
structure SaneLedger (c : Collaborators) (s : SolidoState) : Prop where
  epochSchedule_wellFormed : s.epochSchedule.WellFormed
  /-- `slots_into_current_epoch` and the stake gate subtract the first slot of the epoch. -/
  firstSlot_le_slot : s.epochSchedule.getFirstSlotInEpoch s.clock.epoch ≤ s.clock.slot
  /-- The stake gate adds one to the epoch, and measures it by the first slot of the next. -/
  epochEnd_le : s.epochSchedule.getFirstSlotInEpoch s.clock.epoch +
    s.epochSchedule.getSlotsInEpoch s.clock.epoch ≤ u64Max
  /-- `try_unstake_from_inactive_validator` counts the unstake accounts by a subtraction. -/
  unstakeSeeds_le : ∀ validator ∈ s.validators.entries,
    validator.unstakeSeeds.begin ≤ validator.unstakeSeeds.end
  /-- The sums of `try_update_stake_account_balance` stay within a `u64`, and every stake
  account keeps its rent inactive. -/
  balancesFit : ∀ x ∈ (s.validators.entries.zip
    (s.validatorStakeAccounts.zip s.validatorUnstakeAccounts)).enum, s.BalancesFit c x.2
  /-- Unstaking subtracts the minimum from the first stake account of the validator. -/
  minimum_le_first : ∀ accounts ∈ s.validatorStakeAccounts, ∀ account ∈ accounts.head?,
    c.minimumStakeAccountBalance ≤ account.2.balance.total

variable {c : Collaborators} {s : SolidoState}

/-- On a consistent snapshot with one performance and one block production rate per validator,
none of the ten steps of the selector panics, so neither does the selector. -/
theorem instructionOutput_isOk (hc : AllocatorContract c) (hs : s.Consistent c)
    (hperfs : s.validatorPerfs.length = s.validators.entries.length)
    (hrates : s.validatorBlockProductionRates.length = s.validators.entries.length)
    (hledger : s.SaneLedger c) : ∃ result, s.instructionOutput c = .ok result := by
  have hgate := confirmShouldStakeUnstakeInCurrentSlot_isOk hledger.epochSchedule_wellFormed
    hledger.firstSlot_le_slot hledger.epochEnd_le
  rw [instructionOutput_eq_firstDone]
  refine firstDone_isOk fun step hstep => selectStep_isOk ?_
  simp only [maintenanceSteps, List.mem_cons, List.mem_singleton, List.not_mem_nil,
    or_false] at hstep
  rcases hstep with rfl | rfl | rfl | rfl | rfl | rfl | rfl | rfl | rfl | rfl
  · exact tryMergeOnAllStakes_isOk
  · exact tryUpdateExchangeRate_isOk
  · exact tryUpdateValidatorPerfs_isOk hperfs hs.voteAccounts_length hrates
      hledger.firstSlot_le_slot
      (EpochSchedule.getSlotsInEpoch_pos hledger.epochSchedule_wellFormed _)
  · exact tryReactivateIfComplies_isOk hperfs hledger.firstSlot_le_slot
  · exact tryUnstakeFromInactiveValidator_isOk hledger.unstakeSeeds_le
  · exact ⟨_, tryUpdateStakeAccountBalance_eq hledger.balancesFit⟩
  · exact tryDeactivateIfViolates_isOk hperfs
  · exact tryStakeDeposit_isOk hc hs hgate
  · exact tryUnstakeFromActiveValidators_isOk hc hs hgate hledger.minimum_le_first
  · exact tryRemovePendingValidators_isOk

/-! The snapshot panics only on a ledger that breaks Solana's own invariants. -/

section SnapshotNoPanic

variable {config : SnapshotConfig} {solidoProgramId solidoAddress : Pubkey} {rent : Rent}
  {clock : Clock} {stakeHistory : StakeHistory} {allValidatorPerfs : AccountList ValidatorPerf}
  {allBlockProductionRates : Pubkey → Option Nat} {validator : Validator}

theorem getAccountBalanceExceptRent_noPanic {account : Account}
    (h : rent.minimumBalance account.data.length ≤ account.lamports) :
    NoPanic (getAccountBalanceExceptRent rent account) :=
  noPanic_of_eq_ok (by rw [getAccountBalanceExceptRent, checkedSub_of_le h, expectResult_some])

theorem getValidatorStakeAccount_noPanic {stakeType : StakeType} {seed : Nat}
    (hstake : ∀ account, config.client.getAccount (c.findStakeAccountAddress validator
      solidoProgramId solidoAddress seed stakeType) = .ok account →
      ∃ stake, c.deserializeStakeAccount account.data = some stake ∧
        stake.delegation.voterPubkey = validator.pubkey) :
    NoPanic (getValidatorStakeAccount c config solidoProgramId solidoAddress clock stakeHistory
      validator stakeType seed) := by
  unfold getValidatorStakeAccount
  refine (noPanic_query _).bind fun account haccount => ?_
  obtain ⟨stake, hdeserialize, hvoter⟩ := hstake account (query_eq_ok.mp haccount)
  rw [hdeserialize, expect_some, ok_bind, if_pos hvoter]
  trivial

theorem pushVoteAccount_noPanic {vecs : ValidatorVecs}
    (hrent : ∀ key account, config.client.getAccount key = .ok account →
      rent.minimumBalance account.data.length ≤ account.lamports) :
    NoPanic (pushVoteAccount config rent allValidatorPerfs allBlockProductionRates vecs
      validator) := by
  unfold pushVoteAccount
  split
  next voteAccount hvote =>
    refine (noPanic_query _).bind fun _ _ =>
      (getAccountBalanceExceptRent_noPanic (hrent _ _ hvote)).bind fun _ _ =>
        (noPanic_query _).bind fun _ _ => (noPanic_query _).bind fun _ hidentity =>
          (getAccountBalanceExceptRent_noPanic (hrent _ _ (query_eq_ok.mp hidentity))).bind
            fun _ _ => trivial
  · trivial
  · trivial

theorem pushValidator_noPanic {vecs : ValidatorVecs}
    (hrent : ∀ key account, config.client.getAccount key = .ok account →
      rent.minimumBalance account.data.length ≤ account.lamports)
    (hstake : ∀ stakeType, ∀ seed ∈ (validator.seedsOf stakeType).seeds, ∀ account,
      config.client.getAccount (c.findStakeAccountAddress validator solidoProgramId solidoAddress
        seed stakeType) = .ok account →
      ∃ stake, c.deserializeStakeAccount account.data = some stake ∧
        stake.delegation.voterPubkey = validator.pubkey) :
    NoPanic (pushValidator c config solidoProgramId solidoAddress rent clock stakeHistory
      allValidatorPerfs allBlockProductionRates vecs validator) :=
  (pushVoteAccount_noPanic hrent).bind fun _ _ =>
    (noPanic_mapM fun seed hseed => getValidatorStakeAccount_noPanic (hstake .stake seed hseed)).bind
      fun _ _ => (noPanic_mapM fun seed hseed =>
        getValidatorStakeAccount_noPanic (hstake .unstake seed hseed)).bind fun _ _ => trivial

end SnapshotNoPanic

/-! A ledger with a staked validator, on which the results below are run. -/

/-- The uniform allocator's collaborators with a stake account that keeps its rent, 2282880
lamports at a stake state of 200 bytes, inactive and delegates the rest. -/
def rentKeepingCollaborators : Collaborators :=
  { Uniform.collaborators with stakeBalance := fun lamports _ _ _ =>
      ⟨2282880, 0, lamports - 2282880, 0⟩ }

theorem rentKeepingCollaborators_contract : AllocatorContract rentKeepingCollaborators :=
  ⟨Uniform.collaborators_contract.1, Uniform.collaborators_contract.2,
    Uniform.collaborators_contract.3⟩

/-- The ledger of two active validators with both vote accounts open, the first of which has one
stake account of five SOL; every other account holds one SOL. -/
def stakedClient : SnapshotClient :=
  { closedVoteAccountClient with
    getValidatorList := fun _ =>
      .ok ⟨[⟨⟨7⟩, ⟨0, 1⟩, ⟨0, 0⟩, 5000000000, true⟩, ⟨⟨9⟩, ⟨0, 0⟩, ⟨0, 0⟩, 0, true⟩], by decide⟩
    getAccount := fun key =>
      .ok (if key = ⟨7000⟩ then ⟨5000000000, [7, 0]⟩ else ⟨1000000000, []⟩) }

/-- The snapshot that `new` takes of that ledger. -/
def stakedSnapshot : SolidoState :=
  match SolidoState.new rentKeepingCollaborators (acceptingConfig stakedClient) ⟨1⟩ ⟨2⟩ .anytime 95
  with
  | .ok s => s
  | .error _ => newEmptySolido

theorem new_stakedClient : SolidoState.new rentKeepingCollaborators (acceptingConfig stakedClient)
    ⟨1⟩ ⟨2⟩ .anytime 95 = .ok stakedSnapshot := rfl

theorem stakedSnapshot_open :
    ∀ voteAccount ∈ stakedSnapshot.validatorVoteAccounts, voteAccount.isSome := by
  decide

theorem stakedSnapshot_saneLedger : stakedSnapshot.SaneLedger rentKeepingCollaborators :=
  ⟨EpochSchedule.custom_wellFormed EpochSchedule.custom_default, by decide, by decide, by decide,
    by decide, by decide⟩

theorem stakedClient_rentExempt : ∀ rent, stakedClient.getRent = .ok rent → ∀ key account,
    stakedClient.getAccount key = .ok account →
      rent.minimumBalance account.data.length ≤ account.lamports := by
  intro rent hrent key account haccount
  cases hrent
  simp only [stakedClient, Except.ok.injEq] at haccount
  split at haccount <;> subst haccount <;> decide

theorem stakedClient_delegated : ∀ solido validators,
    stakedClient.getSolido ⟨2⟩ = .ok solido →
    stakedClient.getValidatorList solido.validatorList = .ok validators →
    ∀ validator ∈ validators.entries, ∀ stakeType, ∀ seed ∈ (validator.seedsOf stakeType).seeds,
      ∀ account, stakedClient.getAccount (rentKeepingCollaborators.findStakeAccountAddress validator
        ⟨1⟩ ⟨2⟩ seed stakeType) = .ok account →
      ∃ stake, rentKeepingCollaborators.deserializeStakeAccount account.data = some stake ∧
        stake.delegation.voterPubkey = validator.pubkey := by
  intro solido validators _ hvalidators validator hvalidator stakeType seed hseed account haccount
  cases hvalidators
  simp only [stakedClient, List.mem_cons, List.mem_singleton, List.not_mem_nil, or_false] at hvalidator
  rcases hvalidator with rfl | rfl <;> cases stakeType <;>
    simp [Validator.seedsOf, SeedRange.seeds] at hseed
  subst hseed
  cases haccount
  exact ⟨_, rfl, rfl⟩

section New

variable {config : SnapshotConfig} {solidoProgramId solidoAddress : Pubkey}
  {stakeTime : StakeTime} {endOfEpochThreshold : Nat}

/-- `new` panics only on a ledger that breaks Solana's own invariants: an account that is not
rent-exempt, or an account at a derived stake address of a listed validator that is not a stake
account delegated to that validator. Otherwise it returns the snapshot or the client's error. -/
theorem new_noPanic
    (hrent : ∀ rent, config.client.getRent = .ok rent → ∀ key account,
      config.client.getAccount key = .ok account →
        rent.minimumBalance account.data.length ≤ account.lamports)
    (hstake : ∀ solido validators, config.client.getSolido solidoAddress = .ok solido →
      config.client.getValidatorList solido.validatorList = .ok validators →
      ∀ validator ∈ validators.entries, ∀ stakeType, ∀ seed ∈ (validator.seedsOf stakeType).seeds,
        ∀ account, config.client.getAccount (c.findStakeAccountAddress validator solidoProgramId
          solidoAddress seed stakeType) = .ok account →
        ∃ stake, c.deserializeStakeAccount account.data = some stake ∧
          stake.delegation.voterPubkey = validator.pubkey) :
    NoPanic (SolidoState.new c config solidoProgramId solidoAddress stakeTime
      endOfEpochThreshold) := by
  unfold SolidoState.new
  refine (noPanic_query _).bind fun solido hsolido =>
    (noPanic_query _).bind fun validators hvalidators => ?_
  iterate 6 refine (noPanic_query _).bind fun _ _ => ?_
  refine (noPanic_query _).bind fun rent hrent' => ?_
  iterate 4 refine (noPanic_query _).bind fun _ _ => ?_
  refine (noPanic_foldlM fun _ validator hvalidator =>
    pushValidator_noPanic (hrent rent (query_eq_ok.mp hrent'))
      (hstake solido validators (query_eq_ok.mp hsolido) (query_eq_ok.mp hvalidators) validator
        hvalidator)).bind fun _ _ => ?_
  exact (noPanic_mapM fun _ _ => (noPanic_query _).map _).bind fun _ _ => trivial

/-- With every vote account open, `new` gives each validator one performance and one block
production rate. -/
theorem new_aligned_of_open
    (h : SolidoState.new c config solidoProgramId solidoAddress stakeTime endOfEpochThreshold =
      .ok s)
    (hopen : ∀ voteAccount ∈ s.validatorVoteAccounts, voteAccount.isSome) :
    s.validatorPerfs.length = s.validators.entries.length ∧
      s.validatorBlockProductionRates.length = s.validators.entries.length := by
  have hvecs := new_validatorVecs_openAligned h
  have hcount : s.validatorVoteAccounts.countP Option.isSome = s.validators.entries.length := by
    rw [List.countP_eq_length.mpr hopen, (new_consistent h).voteAccounts_length]
  exact ⟨hvecs.perfs_length.trans hcount, hvecs.blockProductionRates_length.trans hcount⟩

/-- On a snapshot that `new` returns with every vote account open, the selector does not panic
on a sane ledger. -/
theorem new_instructionOutput_isOk (hc : AllocatorContract c)
    (h : SolidoState.new c config solidoProgramId solidoAddress stakeTime endOfEpochThreshold =
      .ok s)
    (hopen : ∀ voteAccount ∈ s.validatorVoteAccounts, voteAccount.isSome)
    (hledger : s.SaneLedger c) : ∃ result, s.instructionOutput c = .ok result :=
  have ⟨hperfs, hrates⟩ := new_aligned_of_open h hopen
  instructionOutput_isOk hc (new_consistent h) hperfs hrates hledger

theorem new_instructionOutput_isOk_staked :
    SolidoState.new rentKeepingCollaborators (acceptingConfig stakedClient) ⟨1⟩ ⟨2⟩ .anytime 95 =
      .ok stakedSnapshot ∧
    stakedSnapshot.validatorStakeAccounts.map List.length = [1, 0] ∧
    (∀ voteAccount ∈ stakedSnapshot.validatorVoteAccounts, voteAccount.isSome) ∧
    stakedSnapshot.SaneLedger rentKeepingCollaborators ∧
    ∃ result, stakedSnapshot.instructionOutput rentKeepingCollaborators = .ok result :=
  ⟨new_stakedClient, rfl, stakedSnapshot_open, stakedSnapshot_saneLedger,
    new_instructionOutput_isOk rentKeepingCollaborators_contract new_stakedClient
      stakedSnapshot_open stakedSnapshot_saneLedger⟩

/-- A run of maintenance over such a snapshot, by a funded maintainer whose transactions go
through, reports what the instruction the selector chose does, or nothing when there is nothing
to do: it does not panic. -/
theorem runPerformMaintenance_of_sane (hc : AllocatorContract c)
    (h : SolidoState.new c config solidoProgramId solidoAddress stakeTime endOfEpochThreshold =
      .ok s)
    (hopen : ∀ voteAccount ∈ s.validatorVoteAccounts, voteAccount.isSome)
    (hledger : s.SaneLedger c) (hfunded : ∀ balance ∈ s.maintainerBalance, 100000000 ≤ balance)
    (hsend : ∀ mi : MaintenanceInstruction,
      config.signAndSendTransaction [mi.instruction] (config.signer :: mi.additionalSigners) =
        .ok ()) :
    ∃ result, s.instructionOutput c = .ok result ∧
      runPerformMaintenance c config solidoProgramId solidoAddress stakeTime endOfEpochThreshold =
        .ok (result.map MaintenanceInstruction.output) := by
  have ⟨hperfs, hrates⟩ := new_aligned_of_open h hopen
  obtain ⟨result, hresult⟩ := instructionOutput_isOk hc (new_consistent h) hperfs hrates hledger
  refine ⟨result, hresult, ?_⟩
  rw [runPerformMaintenance, h, ok_bind]
  exact tryPerformMaintenance_of_instructionOutput (checkMaintainerBalance_of_funded hfunded)
    hsend hresult

theorem runPerformMaintenance_of_sane_staked :
    SolidoState.new rentKeepingCollaborators (acceptingConfig stakedClient) ⟨1⟩ ⟨2⟩ .anytime 95 =
      .ok stakedSnapshot ∧
    (∀ voteAccount ∈ stakedSnapshot.validatorVoteAccounts, voteAccount.isSome) ∧
    stakedSnapshot.SaneLedger rentKeepingCollaborators ∧
    (∀ balance ∈ stakedSnapshot.maintainerBalance, 100000000 ≤ balance) ∧
    (∀ mi : MaintenanceInstruction, (acceptingConfig stakedClient).signAndSendTransaction
      [mi.instruction] ((acceptingConfig stakedClient).signer :: mi.additionalSigners) = .ok ()) ∧
    ∃ result, stakedSnapshot.instructionOutput rentKeepingCollaborators = .ok result ∧
      runPerformMaintenance rentKeepingCollaborators (acceptingConfig stakedClient) ⟨1⟩ ⟨2⟩
        .anytime 95 = .ok (result.map MaintenanceInstruction.output) :=
  have hfunded : ∀ balance ∈ stakedSnapshot.maintainerBalance, 100000000 ≤ balance := by decide
  ⟨new_stakedClient, stakedSnapshot_open, stakedSnapshot_saneLedger, hfunded, fun _ => rfl,
    runPerformMaintenance_of_sane rentKeepingCollaborators_contract new_stakedClient
      stakedSnapshot_open stakedSnapshot_saneLedger hfunded fun _ => rfl⟩

/-- A run of maintenance does not panic on a ledger where every account is rent-exempt, every
derived stake account of a listed validator is a stake account delegated to it, every vote account
is open and the snapshot is sane. Whatever else goes wrong, an error of the client, an
underfunded maintainer or a refused transaction, is an error it hands back. -/
theorem runPerformMaintenance_noPanic (hc : AllocatorContract c)
    (hrent : ∀ rent, config.client.getRent = .ok rent → ∀ key account,
      config.client.getAccount key = .ok account →
        rent.minimumBalance account.data.length ≤ account.lamports)
    (hstake : ∀ solido validators, config.client.getSolido solidoAddress = .ok solido →
      config.client.getValidatorList solido.validatorList = .ok validators →
      ∀ validator ∈ validators.entries, ∀ stakeType, ∀ seed ∈ (validator.seedsOf stakeType).seeds,
        ∀ account, config.client.getAccount (c.findStakeAccountAddress validator solidoProgramId
          solidoAddress seed stakeType) = .ok account →
        ∃ stake, c.deserializeStakeAccount account.data = some stake ∧
          stake.delegation.voterPubkey = validator.pubkey)
    (hsnapshot : ∀ s, SolidoState.new c config solidoProgramId solidoAddress stakeTime
      endOfEpochThreshold = .ok s →
        (∀ voteAccount ∈ s.validatorVoteAccounts, voteAccount.isSome) ∧ s.SaneLedger c) :
    NoPanic (runPerformMaintenance c config solidoProgramId solidoAddress stakeTime
      endOfEpochThreshold) := by
  unfold runPerformMaintenance
  refine (new_noPanic hrent hstake).bind fun s h => ?_
  obtain ⟨hopen, hledger⟩ := hsnapshot s h
  have ⟨hperfs, hrates⟩ := new_aligned_of_open h hopen
  obtain ⟨_, hresult⟩ := instructionOutput_isOk hc (new_consistent h) hperfs hrates hledger
  exact tryPerformMaintenance_noPanic hresult

theorem runPerformMaintenance_noPanic_staked : NoPanic (runPerformMaintenance
    rentKeepingCollaborators (acceptingConfig stakedClient) ⟨1⟩ ⟨2⟩ .anytime 95) :=
  runPerformMaintenance_noPanic rentKeepingCollaborators_contract stakedClient_rentExempt
    stakedClient_delegated fun s h => by
      cases new_stakedClient.symm.trans h
      exact ⟨stakedSnapshot_open, stakedSnapshot_saneLedger⟩

end New

end SolidoState

end Solido
