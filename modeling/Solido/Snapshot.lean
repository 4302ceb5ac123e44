import Solido.Allocator

namespace Solido

/-! Reading the snapshot: `SolidoState::new` and the loop over each validator's seeds. -/

/-- The queries of the snapshot client that `SolidoState::new` makes. -/
structure SnapshotClient where
  getSolido : Pubkey → Except SnapshotError Lido
  getValidatorList : Pubkey → Except SnapshotError (AccountList Validator)
  getValidatorPerfList : Pubkey → Except SnapshotError (AccountList ValidatorPerf)
  getMaintainerList : Pubkey → Except SnapshotError (AccountList Maintainer)
  getAccount : Pubkey → Except SnapshotError Account
  getRent : Except SnapshotError Rent
  getClock : Except SnapshotError Clock
  getEpochSchedule : Except SnapshotError EpochSchedule
  getStakeHistory : Except SnapshotError StakeHistory
  getAllBlockProductionRates : Except SnapshotError (Pubkey → Option Nat)
  getVoteAccount : Pubkey → Except SnapshotError VoteState
  getValidatorInfo : Pubkey → Except SnapshotError ValidatorInfo

/-- `SnapshotConfig`: the client, the signer's key, and `sign_and_send_transaction`. -/
structure SnapshotConfig where
  client : SnapshotClient
  signer : Pubkey
  signAndSendTransaction : List Instruction → List Pubkey → Except SnapshotError Unit

/-- Modelled from the spec: `StakeAccount::from_delegated_account`, which splits the lamports by
activation state and records the seed the account was derived from. -/
def StakeAccount.fromDelegatedAccount (c : Collaborators) (lamports : Nat) (stake : Stake)
    (clock : Clock) (stakeHistory : StakeHistory) (seed : Nat) : StakeAccount :=
  { balance := c.stakeBalance lamports stake clock stakeHistory
    seed
    activationEpoch := stake.delegation.activationEpoch }

section Reading

variable (c : Collaborators) (config : SnapshotConfig) (solidoProgramId solidoAddress : Pubkey)
  (clock : Clock) (stakeHistory : StakeHistory)

/-- The body of the loop of `get_validator_stake_accounts`: the account derived from `seed`. -/
def getValidatorStakeAccount (validator : Validator) (stakeType : StakeType) (seed : Nat) :
    Except Failure (Pubkey × StakeAccount) := do
  let addr := c.findStakeAccountAddress validator solidoProgramId solidoAddress seed stakeType
  let account ← query (config.client.getAccount addr)
  let stake ← expect "Derived stake account contains invalid data."
    (c.deserializeStakeAccount account.data)
  if stake.delegation.voterPubkey = validator.pubkey then
    pure (addr, StakeAccount.fromDelegatedAccount c account.lamports stake clock stakeHistory seed)
  else
    .error (.panic (assertEqMessage (toString stake.delegation.voterPubkey)
      (toString validator.pubkey)
      "Expected the stake account for validator to delegate to that validator."))

/-- `get_validator_stake_accounts`: the derived accounts of one type, in seed order. -/
def getValidatorStakeAccounts (validator : Validator) (stakeType : StakeType) :
    Except Failure (List (Pubkey × StakeAccount)) :=
  (validator.seedsOf stakeType).seeds.mapM
    (getValidatorStakeAccount c config solidoProgramId solidoAddress clock stakeHistory
      validator stakeType)

end Reading

/-- `get_account_balance_except_rent`. -/
def getAccountBalanceExceptRent (rent : Rent) (account : Account) : Except Failure Nat :=
  expectResult "Shouldn't happen. The account balance should be at least its rent-exempt balance."
    "ArithmeticError" (checkedSub account.lamports (rent.minimumBalance account.data.length))

/-- The eight vectors the loop of `SolidoState::new` fills as it visits the validators. -/
structure ValidatorVecs where
  stakeAccounts : List (List (Pubkey × StakeAccount))
  unstakeAccounts : List (List (Pubkey × StakeAccount))
  voteAccountBalances : List Nat
  identityAccountBalances : List Nat
  voteAccounts : List (Option VoteState)
  perfs : List (Option ValidatorPerf)
  blockProductionRates : List (Option Nat)
  infos : List ValidatorInfo

/-- The vectors before the loop: `Vec::new()` eight times. -/
def ValidatorVecs.empty : ValidatorVecs := ⟨[], [], [], [], [], [], [], []⟩

namespace SolidoState

variable (c : Collaborators) (config : SnapshotConfig) (solidoProgramId solidoAddress : Pubkey)
  (rent : Rent) (clock : Clock) (stakeHistory : StakeHistory)
  (allValidatorPerfs : AccountList ValidatorPerf) (allBlockProductionRates : Pubkey → Option Nat)

/-- The part of the loop body of `new` that depends on the vote account. A closed vote account
(`OtherError`) pushes only to the vote accounts. -/
def pushVoteAccount (vecs : ValidatorVecs) (validator : Validator) :
    Except Failure ValidatorVecs :=
  match config.client.getAccount validator.pubkey with
  | .ok voteAccount => do
      let voteState ← query (config.client.getVoteAccount validator.pubkey)
      let maybePerf := allValidatorPerfs.entries.find? fun perf =>
        ListEntry.pubkey perf == validator.pubkey
      let maybeBlockProductionRate := allBlockProductionRates voteState.nodePubkey
      let voteAccountBalance ← getAccountBalanceExceptRent rent voteAccount
      let validatorInfo ← query (config.client.getValidatorInfo voteState.nodePubkey)
      let identityAccount ← query (config.client.getAccount voteState.nodePubkey)
      let identityAccountBalance ← getAccountBalanceExceptRent rent identityAccount
      pure { vecs with
        perfs := vecs.perfs ++ [maybePerf]
        blockProductionRates := vecs.blockProductionRates ++ [maybeBlockProductionRate]
        voteAccountBalances := vecs.voteAccountBalances ++ [voteAccountBalance]
        identityAccountBalances := vecs.identityAccountBalances ++ [identityAccountBalance]
        infos := vecs.infos ++ [validatorInfo]
        voteAccounts := vecs.voteAccounts ++ [some voteState] }
  | .error (.otherError _) => pure { vecs with voteAccounts := vecs.voteAccounts ++ [none] }
  | .error other => .error (.error other)

/-- The loop body of `new` for one validator. -/
def pushValidator (vecs : ValidatorVecs) (validator : Validator) :
    Except Failure ValidatorVecs := do
  let vecs ← pushVoteAccount config rent allValidatorPerfs allBlockProductionRates vecs validator
  let stakeAccounts ← getValidatorStakeAccounts c config solidoProgramId solidoAddress clock
    stakeHistory validator .stake
  let unstakeAccounts ← getValidatorStakeAccounts c config solidoProgramId solidoAddress clock
    stakeHistory validator .unstake
  pure { vecs with
    stakeAccounts := vecs.stakeAccounts ++ [stakeAccounts]
    unstakeAccounts := vecs.unstakeAccounts ++ [unstakeAccounts] }

end SolidoState

/-- `SolidoState::new`: capture the snapshot of the state related to Solido. -/
def SolidoState.new (c : Collaborators) (config : SnapshotConfig)
    (solidoProgramId solidoAddress : Pubkey) (stakeTime : StakeTime)
    (endOfEpochThreshold : Nat) : Except Failure SolidoState := do
  let solido ← query (config.client.getSolido solidoAddress)
  let validators ← query (config.client.getValidatorList solido.validatorList)
  let allValidatorPerfs ← query (config.client.getValidatorPerfList solido.validatorPerfList)
  let maintainers ← query (config.client.getMaintainerList solido.maintainerList)
  let reserveAddress ← query (c.getReserveAccount solido solidoProgramId solidoAddress)
  let reserveAccount ← query (config.client.getAccount reserveAddress)
  let stSolMintAccount ← query (config.client.getAccount solido.stSolMint)
  let stSolMint ← query (c.unpackMint stSolMintAccount.data)
  let rent ← query config.client.getRent
  let clock ← query config.client.getClock
  let epochSchedule ← query config.client.getEpochSchedule
  let stakeHistory ← query config.client.getStakeHistory
  let allBlockProductionRates ← query config.client.getAllBlockProductionRates
  let vecs ← validators.entries.foldlM
    (pushValidator c config solidoProgramId solidoAddress rent clock stakeHistory
      allValidatorPerfs allBlockProductionRates) ValidatorVecs.empty
  let maintainerBalances ← maintainers.entries.mapM fun maintainer =>
    (·.lamports) <$> query (config.client.getAccount maintainer.pubkey)
  pure
    { solidoProgramId, solidoAddress, solido
      validatorStakeAccounts := vecs.stakeAccounts
      validatorUnstakeAccounts := vecs.unstakeAccounts
      validatorVoteAccountBalances := vecs.voteAccountBalances
      validatorVoteAccounts := vecs.voteAccounts
      validatorIdentityAccountBalances := vecs.identityAccountBalances
      validatorPerfs := vecs.perfs
      validatorBlockProductionRates := vecs.blockProductionRates
      validatorInfos := vecs.infos
      maintainerBalances, stSolMint, reserveAddress, reserveAccount, rent, clock, epochSchedule
      stakeHistory
      maintainerAddress := config.signer
      stakeTime, validators, maintainers, endOfEpochThreshold }

/-! What `new` guarantees of the vectors that later steps index by a validator's position. -/

/-- An account's address and the seed it records. -/
def addressAndSeed (account : Pubkey × StakeAccount) : Pubkey × Nat :=
  (account.1, account.2.seed)

/-- The addresses of a validator's derived accounts of one type, each with its seed, in seed
order. -/
def seedLayout (c : Collaborators) (solidoProgramId solidoAddress : Pubkey)
    (stakeType : StakeType) (validator : Validator) : List (Pubkey × Nat) :=
  (validator.seedsOf stakeType).seeds.map fun seed =>
    (c.findStakeAccountAddress validator solidoProgramId solidoAddress seed stakeType, seed)

/-- The snapshot invariant that `new` establishes: for each validator, in list order, its stake
and unstake accounts are the derived accounts of its seed windows, and it has a vote-account
entry. -/
structure SolidoState.Consistent (c : Collaborators) (s : SolidoState) : Prop where
  stake_layout : s.validatorStakeAccounts.map (List.map addressAndSeed) =
    s.validators.entries.map (seedLayout c s.solidoProgramId s.solidoAddress .stake)
  unstake_layout : s.validatorUnstakeAccounts.map (List.map addressAndSeed) =
    s.validators.entries.map (seedLayout c s.solidoProgramId s.solidoAddress .unstake)
  voteAccounts_length : s.validatorVoteAccounts.length = s.validators.entries.length

namespace SolidoState.Consistent

variable {c : Collaborators} {s : SolidoState} (hs : s.Consistent c)
include hs

theorem stakeAccounts_length : s.validatorStakeAccounts.length = s.validators.entries.length := by
  simpa using congrArg List.length hs.stake_layout

/-- The stake accounts at a validator's position are the derived accounts of its seed window. -/
theorem stakeAccounts_of_getElem? {i : Nat} {validator : Validator}
    {accounts : List (Pubkey × StakeAccount)} (hv : s.validators.entries[i]? = some validator)
    (ha : s.validatorStakeAccounts[i]? = some accounts) :
    accounts.map addressAndSeed = seedLayout c s.solidoProgramId s.solidoAddress .stake validator := by
  simpa [hv, ha] using congrArg (·[i]?) hs.stake_layout

theorem unstakeAccounts_of_getElem? {i : Nat} {validator : Validator}
    {accounts : List (Pubkey × StakeAccount)} (hv : s.validators.entries[i]? = some validator)
    (ha : s.validatorUnstakeAccounts[i]? = some accounts) :
    accounts.map addressAndSeed =
      seedLayout c s.solidoProgramId s.solidoAddress .unstake validator := by
  simpa [hv, ha] using congrArg (·[i]?) hs.unstake_layout

end SolidoState.Consistent

theorem map_of_mapM_eq_ok {ε α β γ : Type} {f : α → Except ε β} {g : β → γ} {k : α → γ}
    (hf : ∀ a b, f a = .ok b → g b = k a) :
    ∀ {l : List α} {r : List β}, l.mapM f = .ok r → r.map g = l.map k
  | [], r, h => by
      cases h
      rfl
  | a :: l, r, h => by
      simp only [List.mapM_cons, bind_eq_ok, pure_eq_ok, Except.ok.injEq] at h
      obtain ⟨b, hb, rest, hrest, rfl⟩ := h
      simp [hf a b hb, map_of_mapM_eq_ok hf hrest]

section Layout

variable {c : Collaborators} {config : SnapshotConfig} {solidoProgramId solidoAddress : Pubkey}
  {rent : Rent} {clock : Clock} {stakeHistory : StakeHistory}
  {allValidatorPerfs : AccountList ValidatorPerf} {allBlockProductionRates : Pubkey → Option Nat}

theorem addressAndSeed_of_getValidatorStakeAccount {validator : Validator}
    {stakeType : StakeType} {seed : Nat} {account : Pubkey × StakeAccount}
    (h : getValidatorStakeAccount c config solidoProgramId solidoAddress clock stakeHistory
      validator stakeType seed = .ok account) :
    addressAndSeed account =
      (c.findStakeAccountAddress validator solidoProgramId solidoAddress seed stakeType, seed) := by
  simp only [getValidatorStakeAccount, bind_eq_ok] at h
  obtain ⟨_, -, _, -, h⟩ := h
  split at h
  · cases h
    rfl
  · cases h

/-- The accounts `get_validator_stake_accounts` returns are those of the seed window, in order. -/
theorem getValidatorStakeAccounts_layout {validator : Validator} {stakeType : StakeType}
    {accounts : List (Pubkey × StakeAccount)}
    (h : getValidatorStakeAccounts c config solidoProgramId solidoAddress clock stakeHistory
      validator stakeType = .ok accounts) :
    accounts.map addressAndSeed =
      seedLayout c solidoProgramId solidoAddress stakeType validator :=
  map_of_mapM_eq_ok (fun _ _ => addressAndSeed_of_getValidatorStakeAccount) h

theorem pushVoteAccount_eq_ok {vecs vecs' : ValidatorVecs} {validator : Validator}
    (h : SolidoState.pushVoteAccount config rent allValidatorPerfs allBlockProductionRates vecs
      validator = .ok vecs') :
    vecs'.stakeAccounts = vecs.stakeAccounts ∧ vecs'.unstakeAccounts = vecs.unstakeAccounts ∧
      ∃ voteAccount, vecs'.voteAccounts = vecs.voteAccounts ++ [voteAccount] := by
  unfold SolidoState.pushVoteAccount at h
  split at h
  · simp only [bind_eq_ok, pure_eq_ok, Except.ok.injEq] at h
    obtain ⟨_, -, _, -, _, -, _, -, _, -, rfl⟩ := h
    exact ⟨rfl, rfl, _, rfl⟩
  · cases h
    exact ⟨rfl, rfl, _, rfl⟩
  · cases h

/-- One pass of the loop of `new` pushes one entry to the stake, unstake and vote vectors. -/
theorem pushValidator_eq_ok {vecs vecs' : ValidatorVecs} {validator : Validator}
    (h : SolidoState.pushValidator c config solidoProgramId solidoAddress rent clock stakeHistory
      allValidatorPerfs allBlockProductionRates vecs validator = .ok vecs') :
    vecs'.stakeAccounts.map (List.map addressAndSeed) = vecs.stakeAccounts.map
        (List.map addressAndSeed) ++ [seedLayout c solidoProgramId solidoAddress .stake validator] ∧
      vecs'.unstakeAccounts.map (List.map addressAndSeed) = vecs.unstakeAccounts.map
        (List.map addressAndSeed) ++ [seedLayout c solidoProgramId solidoAddress .unstake validator] ∧
      vecs'.voteAccounts.length = vecs.voteAccounts.length + 1 := by
  simp only [SolidoState.pushValidator, bind_eq_ok, pure_eq_ok, Except.ok.injEq] at h
  obtain ⟨mid, hmid, stake, hstake, unstake, hunstake, rfl⟩ := h
  obtain ⟨hs, hu, voteAccount, hv⟩ := pushVoteAccount_eq_ok hmid
  simp [hs, hu, hv, getValidatorStakeAccounts_layout hstake, getValidatorStakeAccounts_layout hunstake]

/-- The whole loop of `new` pushes, per validator in order, its accounts and a vote entry. -/
theorem foldlM_pushValidator_eq_ok :
    ∀ {validators : List Validator} {vecs vecs' : ValidatorVecs},
      validators.foldlM (SolidoState.pushValidator c config solidoProgramId solidoAddress rent
        clock stakeHistory allValidatorPerfs allBlockProductionRates) vecs = .ok vecs' →
      vecs'.stakeAccounts.map (List.map addressAndSeed) = vecs.stakeAccounts.map
          (List.map addressAndSeed) ++
          validators.map (seedLayout c solidoProgramId solidoAddress .stake) ∧
        vecs'.unstakeAccounts.map (List.map addressAndSeed) = vecs.unstakeAccounts.map
          (List.map addressAndSeed) ++
          validators.map (seedLayout c solidoProgramId solidoAddress .unstake) ∧
        vecs'.voteAccounts.length = vecs.voteAccounts.length + validators.length
  | [], vecs, vecs', h => by
      cases h
      simp
  | validator :: rest, vecs, vecs', h => by
      simp only [List.foldlM_cons, bind_eq_ok] at h
      obtain ⟨mid, hmid, hrest⟩ := h
      obtain ⟨hs, hu, hv⟩ := pushValidator_eq_ok hmid
      obtain ⟨hs', hu', hv'⟩ := foldlM_pushValidator_eq_ok hrest
      refine ⟨?_, ?_, ?_⟩
      · simp [hs', hs]
      · simp [hu', hu]
      · simp only [hv', hv, List.length_cons]
        omega

/-- The vectors that the loop of `new` fills only for an open vote account have one entry per open
vote account, not one per validator. -/
structure ValidatorVecs.OpenAligned (vecs : ValidatorVecs) : Prop where
  voteAccountBalances_length :
    vecs.voteAccountBalances.length = vecs.voteAccounts.countP Option.isSome
  identityAccountBalances_length :
    vecs.identityAccountBalances.length = vecs.voteAccounts.countP Option.isSome
  perfs_length : vecs.perfs.length = vecs.voteAccounts.countP Option.isSome
  blockProductionRates_length :
    vecs.blockProductionRates.length = vecs.voteAccounts.countP Option.isSome
  infos_length : vecs.infos.length = vecs.voteAccounts.countP Option.isSome

theorem pushVoteAccount_openAligned {vecs vecs' : ValidatorVecs} {validator : Validator}
    (h : SolidoState.pushVoteAccount config rent allValidatorPerfs allBlockProductionRates vecs
      validator = .ok vecs') (hvecs : vecs.OpenAligned) : vecs'.OpenAligned := by
  obtain ⟨h1, h2, h3, h4, h5⟩ := hvecs
  unfold SolidoState.pushVoteAccount at h
  split at h
  · simp only [bind_eq_ok, pure_eq_ok, Except.ok.injEq] at h
    obtain ⟨_, -, _, -, _, -, _, -, _, -, rfl⟩ := h
    constructor <;> simp [*]
  · cases h
    constructor <;> simp [*]
  · cases h

theorem foldlM_pushValidator_openAligned :
    ∀ {validators : List Validator} {vecs vecs' : ValidatorVecs},
      validators.foldlM (SolidoState.pushValidator c config solidoProgramId solidoAddress rent
        clock stakeHistory allValidatorPerfs allBlockProductionRates) vecs = .ok vecs' →
      vecs.OpenAligned → vecs'.OpenAligned
  | [], vecs, vecs', h, hvecs => by
      cases h
      exact hvecs
  | validator :: rest, vecs, vecs', h, hvecs => by
      simp only [List.foldlM_cons, bind_eq_ok] at h
      obtain ⟨mid, hmid, hrest⟩ := h
      simp only [SolidoState.pushValidator, bind_eq_ok, pure_eq_ok, Except.ok.injEq] at hmid
      obtain ⟨pushed, hpushed, _, -, _, -, rfl⟩ := hmid
      have ⟨h1, h2, h3, h4, h5⟩ := pushVoteAccount_openAligned hpushed hvecs
      exact foldlM_pushValidator_openAligned hrest ⟨h1, h2, h3, h4, h5⟩

end Layout

/-- The eight vectors of a snapshot, as the loop of `new` filled them. -/
def SolidoState.validatorVecs (s : SolidoState) : ValidatorVecs :=
  ⟨s.validatorStakeAccounts, s.validatorUnstakeAccounts, s.validatorVoteAccountBalances,
    s.validatorIdentityAccountBalances, s.validatorVoteAccounts, s.validatorPerfs,
    s.validatorBlockProductionRates, s.validatorInfos⟩

section New

variable {c : Collaborators} {config : SnapshotConfig} {solidoProgramId solidoAddress : Pubkey}
  {stakeTime : StakeTime} {endOfEpochThreshold : Nat} {s : SolidoState}

/-- The vectors of a snapshot that `new` returns are what its loop over the validators fills. -/
theorem SolidoState.new_foldlM
    (h : SolidoState.new c config solidoProgramId solidoAddress stakeTime endOfEpochThreshold =
      .ok s) :
    ∃ rent clock stakeHistory allValidatorPerfs allBlockProductionRates,
      s.validators.entries.foldlM (SolidoState.pushValidator c config s.solidoProgramId
        s.solidoAddress rent clock stakeHistory allValidatorPerfs allBlockProductionRates)
        ValidatorVecs.empty = .ok s.validatorVecs := by
  simp only [SolidoState.new, bind_eq_ok, pure_eq_ok, Except.ok.injEq] at h
  obtain ⟨_, -, _, -, _, -, _, -, _, -, _, -, _, -, _, -, _, -, _, -, _, -, _, -, _, -,
    vecs, hvecs, _, -, rfl⟩ := h
  exact ⟨_, _, _, _, _, hvecs⟩

/-- Every snapshot that `new` returns satisfies the invariant. -/
theorem SolidoState.new_consistent
    (h : SolidoState.new c config solidoProgramId solidoAddress stakeTime endOfEpochThreshold =
      .ok s) : s.Consistent c := by
  obtain ⟨_, _, _, _, _, hvecs⟩ := SolidoState.new_foldlM h
  obtain ⟨hs, hu, hv⟩ := foldlM_pushValidator_eq_ok hvecs
  exact ⟨by simpa [ValidatorVecs.empty] using hs, by simpa [ValidatorVecs.empty] using hu,
    by simpa [ValidatorVecs.empty] using hv⟩

theorem SolidoState.new_validatorVecs_openAligned
    (h : SolidoState.new c config solidoProgramId solidoAddress stakeTime endOfEpochThreshold =
      .ok s) : s.validatorVecs.OpenAligned := by
  obtain ⟨_, _, _, _, _, hvecs⟩ := SolidoState.new_foldlM h
  exact foldlM_pushValidator_openAligned hvecs ⟨rfl, rfl, rfl, rfl, rfl⟩

end New

/-- In a snapshot that `new` returns, the vote account balances, identity account balances,
performances, block production rates and infos have one entry per open vote account, where the
vote accounts have one per validator. -/
theorem SolidoState.new_openAligned {c : Collaborators} {config : SnapshotConfig}
    {solidoProgramId solidoAddress : Pubkey} {stakeTime : StakeTime} {endOfEpochThreshold : Nat}
    {s : SolidoState}
    (h : SolidoState.new c config solidoProgramId solidoAddress stakeTime endOfEpochThreshold =
      .ok s) :
    s.validatorVoteAccounts.length = s.validators.entries.length ∧
      s.validatorVoteAccountBalances.length = s.validatorVoteAccounts.countP Option.isSome ∧
      s.validatorIdentityAccountBalances.length = s.validatorVoteAccounts.countP Option.isSome ∧
      s.validatorPerfs.length = s.validatorVoteAccounts.countP Option.isSome ∧
      s.validatorBlockProductionRates.length = s.validatorVoteAccounts.countP Option.isSome ∧
      s.validatorInfos.length = s.validatorVoteAccounts.countP Option.isSome := by
  obtain ⟨h1, h2, h3, h4, h5⟩ := SolidoState.new_validatorVecs_openAligned h
  exact ⟨(SolidoState.new_consistent h).voteAccounts_length, h1, h2, h3, h4, h5⟩

/-- The maintainer of the unit tests, whose transactions all go through. -/
def SolidoState.acceptingConfig (client : SnapshotClient) : SnapshotConfig :=
  ⟨client, ⟨4⟩, fun _ _ => .ok ()⟩

/-! A ledger where a validator closed its vote account. -/

/-- The ledger of two active validators with no stake accounts, the first of which closed its
vote account; every other account holds one SOL. -/
def closedVoteAccountClient : SnapshotClient where
  getSolido _ := .ok ⟨⟨0⟩, ⟨100, 0, 0⟩, ⟨⟨30⟩, ⟨31⟩⟩, ⟨23⟩, ⟨20⟩, ⟨21⟩, ⟨22⟩⟩
  getValidatorList _ :=
    .ok ⟨[⟨⟨7⟩, ⟨0, 0⟩, ⟨0, 0⟩, 0, true⟩, ⟨⟨9⟩, ⟨0, 0⟩, ⟨0, 0⟩, 0, true⟩], by decide⟩
  getValidatorPerfList _ := .ok ⟨[], by decide⟩
  getMaintainerList _ := .ok ⟨[⟨⟨4⟩⟩], by decide⟩
  getAccount key :=
    if key = ⟨7⟩ then .error (.otherError "AccountNotFound") else .ok ⟨1000000000, []⟩
  getRent := .ok ⟨fun dataLen => (128 + dataLen) * 6960⟩
  getClock := .ok ⟨0, 0⟩
  getEpochSchedule := .ok EpochSchedule.default
  getStakeHistory := .ok ⟨[]⟩
  getAllBlockProductionRates := .ok fun _ => none
  getVoteAccount key := .ok ⟨⟨key.key + 1⟩, 0, 0⟩
  getValidatorInfo _ := .ok ⟨"validator", none⟩

theorem new_openAligned_closedVoteAccount : ∃ s, SolidoState.new Uniform.collaborators
    (SolidoState.acceptingConfig closedVoteAccountClient) ⟨1⟩ ⟨2⟩ .anytime 95 = .ok s ∧
    s.validatorVoteAccounts.length = s.validators.entries.length ∧
      s.validatorVoteAccountBalances.length = s.validatorVoteAccounts.countP Option.isSome ∧
      s.validatorIdentityAccountBalances.length = s.validatorVoteAccounts.countP Option.isSome ∧
      s.validatorPerfs.length = s.validatorVoteAccounts.countP Option.isSome ∧
      s.validatorBlockProductionRates.length = s.validatorVoteAccounts.countP Option.isSome ∧
      s.validatorInfos.length = s.validatorVoteAccounts.countP Option.isSome := by
  obtain ⟨s, hs⟩ : ∃ s, SolidoState.new Uniform.collaborators
      (SolidoState.acceptingConfig closedVoteAccountClient) ⟨1⟩ ⟨2⟩ .anytime 95 = .ok s := ⟨_, rfl⟩
  exact ⟨s, hs, SolidoState.new_openAligned hs⟩

end Solido
