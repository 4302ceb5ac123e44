import Solido.Maintenance

namespace Solido

/-! The seed layout of a snapshot, and the accounts the maintainer's instructions name. -/

section Indexing

theorem getElem?_of_mem_zip {α β : Type} {l₁ : List α} {l₂ : List β} {a : α} {b : β}
    (h : (a, b) ∈ l₁.zip l₂) : ∃ i : Nat, l₁[i]? = some a ∧ l₂[i]? = some b := by
  obtain ⟨i, hi⟩ := List.mem_iff_getElem?.mp h
  exact ⟨i, List.getElem?_zip_eq_some.mp hi⟩

/-- The account at position `i` of a window laid out by `seedLayout` is the derived account of
seed `begin + i`. -/
theorem addressAndSeed_of_getElem? {c : Collaborators} {solidoProgramId solidoAddress : Pubkey}
    {stakeType : StakeType} {validator : Validator} {accounts : List (Pubkey × StakeAccount)}
    (h : accounts.map addressAndSeed =
      seedLayout c solidoProgramId solidoAddress stakeType validator)
    {i : Nat} {account : Pubkey × StakeAccount} (ha : accounts[i]? = some account) :
    (validator.seedsOf stakeType).begin + i < (validator.seedsOf stakeType).end ∧
      account.1 = c.findStakeAccountAddress validator solidoProgramId solidoAddress
        ((validator.seedsOf stakeType).begin + i) stakeType ∧
      account.2.seed = (validator.seedsOf stakeType).begin + i := by
  have hlen := congrArg List.length h
  have hi : i < accounts.length := (List.getElem?_eq_some_iff.mp ha).1
  simp only [List.length_map, seedLayout, SeedRange.seeds, List.length_range'] at hlen
  have hrange := List.getElem?_range' (validator.seedsOf stakeType).begin 1
    (show i < (validator.seedsOf stakeType).end - (validator.seedsOf stakeType).begin by omega)
  have hget := congrArg (·[i]?) h
  simp only [List.getElem?_map, ha, Option.map_some', seedLayout, SeedRange.seeds, hrange,
    Option.some.injEq, addressAndSeed, Prod.mk.injEq, Nat.one_mul] at hget
  exact ⟨by omega, hget⟩

theorem map_fst_of_layout {c : Collaborators} {solidoProgramId solidoAddress : Pubkey}
    {stakeType : StakeType} {validator : Validator} {accounts : List (Pubkey × StakeAccount)}
    (h : accounts.map addressAndSeed =
      seedLayout c solidoProgramId solidoAddress stakeType validator) :
    accounts.map Prod.fst =
      (seedLayout c solidoProgramId solidoAddress stakeType validator).map Prod.fst := by
  rw [← h, List.map_map]
  rfl

end Indexing

namespace SolidoState

/-- An instruction agrees with the seed layout of the snapshot: the accounts that it and its
report name are the accounts derived from the seeds of the validator it is for. -/
def AgreesWithLayout (c : Collaborators) (s : SolidoState) (mi : MaintenanceInstruction) : Prop :=
  match mi.output with
  | .mergeStake voteAccount fromStake toStake fromSeed toSeed =>
      ∃ (i : Nat) (validator : Validator) (fromAccount toAccount : Pubkey × StakeAccount)
        (rest : List (Pubkey × StakeAccount)), s.validators.entries[i]? = some validator ∧
        s.validatorStakeAccounts[i]? = some (fromAccount :: toAccount :: rest) ∧
        validator.pubkey = voteAccount ∧ fromAccount.1 = fromStake ∧
        fromAccount.2.seed = fromSeed ∧ toAccount.1 = toStake ∧ toAccount.2.seed = toSeed ∧
        fromSeed = validator.stakeSeeds.begin ∧ toSeed = fromSeed + 1 ∧
        toSeed < validator.stakeSeeds.end ∧
        fromStake = c.findStakeAccountAddress validator s.solidoProgramId s.solidoAddress
          fromSeed .stake ∧
        toStake = c.findStakeAccountAddress validator s.solidoProgramId s.solidoAddress
          toSeed .stake ∧
        ∃ validatorIndex, mi.instruction = .mergeStake s.solidoProgramId
          ⟨s.solidoAddress, voteAccount, fromStake, toStake, s.getStakeAuthority c,
            s.solido.validatorList⟩ validatorIndex
  | .unstakeFromInactiveValidator unstake | .unstakeFromActiveValidator unstake =>
      ∃ (i : Nat) (validator : Validator) (source : Pubkey × StakeAccount)
        (rest : List (Pubkey × StakeAccount)), s.validators.entries[i]? = some validator ∧
        s.validatorStakeAccounts[i]? = some (source :: rest) ∧
        validator.pubkey = unstake.validatorVoteAccount ∧
        source.1 = unstake.fromStakeAccount ∧ source.2.seed = unstake.fromStakeSeed ∧
        unstake.fromStakeSeed = validator.stakeSeeds.begin ∧
        unstake.fromStakeSeed < validator.stakeSeeds.end ∧
        unstake.fromStakeAccount = c.findStakeAccountAddress validator s.solidoProgramId
          s.solidoAddress unstake.fromStakeSeed .stake ∧
        unstake.toUnstakeSeed = validator.unstakeSeeds.end ∧
        unstake.toUnstakeAccount = c.findStakeAccountAddress validator s.solidoProgramId
          s.solidoAddress unstake.toUnstakeSeed .unstake ∧
        ∃ validatorIndex maintainerIndex, mi.instruction = .unstake s.solidoProgramId
          ⟨s.solidoAddress, s.maintainerAddress, unstake.validatorVoteAccount,
            unstake.fromStakeAccount, unstake.toUnstakeAccount, s.getStakeAuthority c,
            s.solido.validatorList, s.solido.maintainerList⟩
          unstake.amount validatorIndex maintainerIndex
  | .updateStakeAccountBalance voteAccount _ _ =>
      ∃ (i : Nat) (validator : Validator), s.validators.entries[i]? = some validator ∧
        validator.pubkey = voteAccount ∧
        ∃ validatorIndex, mi.instruction = .updateStakeAccountBalance s.solidoProgramId
          ⟨s.solidoAddress, voteAccount,
            (seedLayout c s.solidoProgramId s.solidoAddress .stake validator).map Prod.fst ++
              (seedLayout c s.solidoProgramId s.solidoAddress .unstake validator).map Prod.fst,
            s.reserveAddress, s.getStakeAuthority c, s.getMintAuthority c, s.solido.stSolMint,
            s.solido.feeRecipients.treasuryAccount, s.solido.feeRecipients.developerAccount,
            s.solido.validatorList⟩ validatorIndex
  | .stakeDeposit voteAccount stakeAccountEnd amount =>
      ∃ (i : Nat) (validator : Validator) (mergeInto : Pubkey),
        s.validators.entries[i]? = some validator ∧
        validator.pubkey = voteAccount ∧
        ((stakeAccountEnd = c.findStakeAccountAddress validator s.solidoProgramId
            s.solidoAddress validator.stakeSeeds.end .stake ∧ mergeInto = stakeAccountEnd) ∨
          (validator.stakeSeeds.begin < validator.stakeSeeds.end ∧
            stakeAccountEnd = c.findTemporaryStakeAccountAddress validator s.solidoProgramId
              s.solidoAddress validator.stakeSeeds.end s.clock.epoch ∧
            mergeInto = c.findStakeAccountAddress validator s.solidoProgramId s.solidoAddress
              (validator.stakeSeeds.end - 1) .stake)) ∧
        ∃ validatorIndex maintainerIndex, mi.instruction = .stakeDeposit s.solidoProgramId
          ⟨s.solidoAddress, s.maintainerAddress, s.reserveAddress, voteAccount, mergeInto,
            stakeAccountEnd, s.getStakeAuthority c, s.solido.validatorList,
            s.solido.maintainerList⟩ amount validatorIndex maintainerIndex
  | _ => True

variable {c : Collaborators} {s : SolidoState} {mi : MaintenanceInstruction}

theorem Consistent.stakeLayout_of_mem_zip (hs : s.Consistent c) {validator : Validator}
    {accounts : List (Pubkey × StakeAccount)}
    (h : (validator, accounts) ∈ s.validators.entries.zip s.validatorStakeAccounts) :
    ∃ i : Nat, s.validators.entries[i]? = some validator ∧
      s.validatorStakeAccounts[i]? = some accounts ∧
      accounts.map addressAndSeed = seedLayout c s.solidoProgramId s.solidoAddress .stake validator := by
  obtain ⟨i, hv, ha⟩ := getElem?_of_mem_zip h
  exact ⟨i, hv, ha, hs.stakeAccounts_of_getElem? hv ha⟩

/-! Merges. -/

theorem tryMergeOnAllStakes_agrees (hs : s.Consistent c)
    (h : s.tryMergeOnAllStakes c = .ok (some mi)) : s.AgreesWithLayout c mi := by
  obtain ⟨validator, accounts, hmem, hmerge⟩ := tryMergeOnAllStakes_eq_ok_some h
  obtain ⟨fromAccount, toAccount, rest, validatorIndex, rfl, -, rfl⟩ := mergeOnStakes_eq_done hmerge
  obtain ⟨i, hv, ha, hlayout⟩ := hs.stakeLayout_of_mem_zip hmem
  obtain ⟨-, hfromAddress, hfromSeed⟩ := addressAndSeed_of_getElem? hlayout
    (List.getElem?_cons_zero (l := toAccount :: rest))
  obtain ⟨hlt, htoAddress, htoSeed⟩ := addressAndSeed_of_getElem? hlayout
    (show (fromAccount :: toAccount :: rest)[1]? = some toAccount by simp)
  simp only [Validator.seedsOf, Nat.add_zero] at hfromAddress hfromSeed hlt htoAddress htoSeed
  exact ⟨i, validator, fromAccount, toAccount, rest, hv, ha, rfl, rfl, rfl, rfl, rfl, hfromSeed,
    by omega, by omega, by rw [hfromSeed, hfromAddress], by rw [htoSeed, htoAddress],
    validatorIndex, by rw [hfromSeed, htoSeed, ← hfromAddress, ← htoAddress]; rfl⟩

/-! Unstakes. -/

theorem tryUnstakeFromInactiveValidator_agrees (hs : s.Consistent c)
    (h : s.tryUnstakeFromInactiveValidator c = .ok (some mi)) : s.AgreesWithLayout c mi := by
  obtain ⟨validator, accounts, hmem, hbody⟩ := tryUnstakeFromInactiveValidator_eq_ok_some h
  obtain ⟨-, -, -, source, rest, unstakeAccount, instruction, rfl, hget, rfl⟩ :=
    unstakeFromInactiveValidator_eq_done hbody
  obtain ⟨hunstake, validatorIndex, maintainerIndex, -, -, rfl⟩ := getUnstakeInstruction_eq_some hget
  obtain ⟨i, hv, ha, hlayout⟩ := hs.stakeLayout_of_mem_zip hmem
  obtain ⟨hlt, haddress, hseed⟩ := addressAndSeed_of_getElem? hlayout
    (List.getElem?_cons_zero (l := rest))
  simp only [Validator.seedsOf, Nat.add_zero] at hlt haddress hseed
  exact ⟨i, validator, source, rest, hv, ha, rfl, rfl, hseed, rfl, hlt, haddress, rfl, hunstake,
    validatorIndex, maintainerIndex, rfl⟩

theorem tryUnstakeFromActiveValidators_agrees (hs : s.Consistent c)
    (h : s.tryUnstakeFromActiveValidators c = .ok (some mi)) : s.AgreesWithLayout c mi := by
  obtain ⟨_, i, _, validator, source, rest, -, -, hv, ha, -, -, hfrom⟩ :=
    tryUnstakeFromActiveValidators_eq_ok_some h
  obtain ⟨unstakeAccount, instruction, hget, rfl⟩ := unstakeFrom_eq_some hfrom
  obtain ⟨hunstake, validatorIndex, maintainerIndex, -, -, rfl⟩ := getUnstakeInstruction_eq_some hget
  obtain ⟨hlt, haddress, hseed⟩ := addressAndSeed_of_getElem? (hs.stakeAccounts_of_getElem? hv ha)
    (List.getElem?_cons_zero (l := rest))
  simp only [Validator.seedsOf, Nat.add_zero] at hlt haddress hseed
  exact ⟨i, validator, source, rest, hv, ha, rfl, rfl, hseed, rfl, hlt, haddress, rfl, hunstake,
    validatorIndex, maintainerIndex, rfl⟩

/-! Balance updates. -/

theorem tryUpdateStakeAccountBalance_agrees (hs : s.Consistent c)
    (h : s.tryUpdateStakeAccountBalance c = .ok (some mi)) : s.AgreesWithLayout c mi := by
  obtain ⟨⟨i, validator, stakeAccounts, unstakeAccounts⟩, hmem, hbody⟩ :=
    tryUpdateStakeAccountBalance_eq_ok_some h
  obtain ⟨validatorIndex, _, _, rfl⟩ := updateStakeAccountBalance_eq_done hbody
  simp only [List.mem_enum_iff_getElem?, List.getElem?_zip_eq_some] at hmem
  obtain ⟨hv, hstake, hunstake⟩ := hmem
  refine ⟨i, validator, hv, rfl, validatorIndex, ?_⟩
  rw [← map_fst_of_layout (hs.stakeAccounts_of_getElem? hv hstake),
    ← map_fst_of_layout (hs.unstakeAccounts_of_getElem? hv hunstake)]
  rfl

/-! Deposits. -/

/-- A deposit goes to a new account at the end seed of the validator's window, or, when the
last account was activated in this epoch, to a temporary account merged into that last one. -/
theorem stakeDepositAccounts_of_layout {validator : Validator}
    {accounts : List (Pubkey × StakeAccount)}
    (hlayout : accounts.map addressAndSeed =
      seedLayout c s.solidoProgramId s.solidoAddress .stake validator) :
    ((s.stakeDepositAccounts c validator accounts.getLast?).1 =
        c.findStakeAccountAddress validator s.solidoProgramId s.solidoAddress
          validator.stakeSeeds.end .stake ∧
      (s.stakeDepositAccounts c validator accounts.getLast?).2 =
        (s.stakeDepositAccounts c validator accounts.getLast?).1) ∨
    (validator.stakeSeeds.begin < validator.stakeSeeds.end ∧
      (s.stakeDepositAccounts c validator accounts.getLast?).1 =
        c.findTemporaryStakeAccountAddress validator s.solidoProgramId s.solidoAddress
          validator.stakeSeeds.end s.clock.epoch ∧
      (s.stakeDepositAccounts c validator accounts.getLast?).2 =
        c.findStakeAccountAddress validator s.solidoProgramId s.solidoAddress
          (validator.stakeSeeds.end - 1) .stake) := by
  unfold stakeDepositAccounts
  split
  · rename_i address account hlast
    split
    · have hlen := congrArg List.length hlayout
      simp only [List.length_map, seedLayout, SeedRange.seeds, List.length_range'] at hlen
      have hpos : 0 < accounts.length := List.length_pos.mpr fun hnil => by simp [hnil] at hlast
      rw [List.getLast?_eq_getElem?] at hlast
      obtain ⟨hlt, haddress, -⟩ := addressAndSeed_of_getElem? hlayout hlast
      simp only [Validator.seedsOf] at hlt haddress hlen
      refine .inr ⟨by omega, rfl, ?_⟩
      rw [haddress, show validator.stakeSeeds.begin + (accounts.length - 1) =
        validator.stakeSeeds.end - 1 by omega]
    · exact .inl ⟨rfl, rfl⟩
  · exact .inl ⟨rfl, rfl⟩

theorem tryStakeDeposit_agrees (hs : s.Consistent c)
    (h : s.tryStakeDeposit c = .ok (some mi)) : s.AgreesWithLayout c mi := by
  obtain ⟨_, validator, -, hv, -, hdeposit⟩ := tryStakeDeposit_eq_ok_some h
  obtain ⟨accounts, maintainerIndex, ha, -, -, rfl⟩ := stakeDepositTo_eq_ok_some hdeposit
  exact ⟨_, validator, _, hv, rfl,
    stakeDepositAccounts_of_layout (hs.stakeAccounts_of_getElem? hv ha), _, maintainerIndex, rfl⟩

/-! Every instruction the selector emits agrees with the layout. -/

theorem instructionOutput_agrees (hs : s.Consistent c) (h : s.instructionOutput c = .ok (some mi)) :
    s.AgreesWithLayout c mi := by
  rcases mem_of_instructionOutput_eq_ok_some h with h | h | h | h | h | h | h | h | h | h
  · exact tryMergeOnAllStakes_agrees hs h
  · simp only [AgreesWithLayout, tryUpdateExchangeRate_output h]
  · obtain ⟨_, hout | ⟨_, _, hout⟩⟩ := tryUpdateValidatorPerfs_output h <;>
      simp only [AgreesWithLayout, hout]
  · obtain ⟨_, hout⟩ := tryReactivateIfComplies_output h
    simp only [AgreesWithLayout, hout]
  · exact tryUnstakeFromInactiveValidator_agrees hs h
  · exact tryUpdateStakeAccountBalance_agrees hs h
  · obtain ⟨_, hout⟩ := tryDeactivateIfViolates_output h
    simp only [AgreesWithLayout, hout]
  · exact tryStakeDeposit_agrees hs h
  · exact tryUnstakeFromActiveValidators_agrees hs h
  · obtain ⟨_, hout⟩ := tryRemovePendingValidators_output h
    simp only [AgreesWithLayout, hout]

/-- In a snapshot that `new` returns, each validator's stake and unstake accounts are the derived
accounts of its seed windows, in seed order, and every instruction the selector emits names the
accounts of that layout. -/
theorem new_agreesWithLayout (c : Collaborators) (config : SnapshotConfig)
    (solidoProgramId solidoAddress : Pubkey) (stakeTime : StakeTime) (endOfEpochThreshold : Nat)
    (s : SolidoState)
    (h : SolidoState.new c config solidoProgramId solidoAddress stakeTime endOfEpochThreshold =
      .ok s) :
    (∀ (i : Nat) (validator : Validator), s.validators.entries[i]? = some validator →
      s.validatorStakeAccounts[i]?.map (List.map addressAndSeed) =
          some (seedLayout c s.solidoProgramId s.solidoAddress .stake validator) ∧
        s.validatorUnstakeAccounts[i]?.map (List.map addressAndSeed) =
          some (seedLayout c s.solidoProgramId s.solidoAddress .unstake validator)) ∧
    ∀ mi, s.instructionOutput c = .ok (some mi) → s.AgreesWithLayout c mi := by
  have hs := SolidoState.new_consistent h
  refine ⟨fun i validator hv => ⟨?_, ?_⟩, fun mi hmi => instructionOutput_agrees hs hmi⟩
  · simpa [hv] using congrArg (·[i]?) hs.stake_layout
  · simpa [hv] using congrArg (·[i]?) hs.unstake_layout

end SolidoState

/-! A ledger whose stake accounts can merge. -/

/-- The ledger of one active validator with two stake accounts of two SOL each, delegated to it
since epoch 0; every other account holds one SOL. -/
def mergeableClient : SnapshotClient :=
  { closedVoteAccountClient with
    getValidatorList := fun _ => .ok ⟨[⟨⟨7⟩, ⟨0, 2⟩, ⟨0, 0⟩, 4000000000, true⟩], by decide⟩
    getAccount := fun key =>
      if key = ⟨7000⟩ ∨ key = ⟨7010⟩ then .ok ⟨2000000000, [7, 0]⟩ else .ok ⟨1000000000, []⟩ }

/-- Its snapshot lists the two accounts at seeds 0 and 1, and the selector merges the first into
the second. -/
example : (SolidoState.new Uniform.collaborators (SolidoState.acceptingConfig mergeableClient)
    ⟨1⟩ ⟨2⟩ .anytime 95).map (fun s => (s.validatorStakeAccounts.map (List.map addressAndSeed),
      (s.instructionOutput Uniform.collaborators).map (Option.map MaintenanceInstruction.output))) =
    .ok ([[(⟨7000⟩, 0), (⟨7010⟩, 1)]], .ok (some (.mergeStake ⟨7⟩ ⟨7000⟩ ⟨7010⟩ 0 1))) := by
  rfl

theorem new_agreesWithLayout_staked : ∃ s, SolidoState.new Uniform.collaborators
    (SolidoState.acceptingConfig mergeableClient) ⟨1⟩ ⟨2⟩ .anytime 95 = .ok s ∧
    ((∀ (i : Nat) (validator : Validator), s.validators.entries[i]? = some validator →
      s.validatorStakeAccounts[i]?.map (List.map addressAndSeed) =
          some (seedLayout Uniform.collaborators s.solidoProgramId s.solidoAddress .stake
            validator) ∧
        s.validatorUnstakeAccounts[i]?.map (List.map addressAndSeed) =
          some (seedLayout Uniform.collaborators s.solidoProgramId s.solidoAddress .unstake
            validator)) ∧
    ∀ mi, s.instructionOutput Uniform.collaborators = .ok (some mi) →
      s.AgreesWithLayout Uniform.collaborators mi) := by
  obtain ⟨s, hs⟩ : ∃ s, SolidoState.new Uniform.collaborators
      (SolidoState.acceptingConfig mergeableClient) ⟨1⟩ ⟨2⟩ .anytime 95 = .ok s := ⟨_, rfl⟩
  exact ⟨s, hs, SolidoState.new_agreesWithLayout _ _ _ _ _ _ s hs⟩

end Solido
