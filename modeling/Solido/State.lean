import Solido.EpochSchedule

namespace Solido

/-! Keys, and the entries of the `lido` account lists. -/

/-- A public key. The maintainer compares keys and never decodes them, so a number stands for
one; it prints as that number, not in base 58. -/
structure Pubkey where
  key : Nat
  deriving DecidableEq, Repr

instance : ToString Pubkey := ⟨fun p => toString p.key⟩

/-- Modelled from the spec: `lido::state::SeedRange`, the window `[begin, end)` of seeds whose
derived accounts exist. -/
structure SeedRange where
  begin : Nat
  «end» : Nat
  deriving DecidableEq, Repr

/-- The seeds of the range in the order `for seed in &range` visits them. -/
def SeedRange.seeds (r : SeedRange) : List Nat := List.range' r.begin (r.end - r.begin)

/-- `lido::processor::StakeType`. -/
inductive StakeType
  | stake
  | unstake
  deriving DecidableEq, Repr

/-- Modelled from the spec: `lido::state::Validator`, by its identity, its two seed windows, its
recorded stake balance and its lifecycle flag. -/
structure Validator where
  voteAccountAddress : Pubkey
  stakeSeeds : SeedRange
  unstakeSeeds : SeedRange
  stakeAccountsBalance : Nat
  active : Bool
  deriving DecidableEq, Repr

namespace Validator

/-- `Validator::pubkey`. -/
def pubkey (v : Validator) : Pubkey := v.voteAccountAddress

/-- Modelled from the spec: `Validator::is_active`. -/
def isActive (v : Validator) : Bool := v.active

/-- Modelled from the spec: `Validator::is_inactive`. -/
def isInactive (v : Validator) : Bool := !v.active

/-- The seed window of the accounts of one type, as `get_validator_stake_accounts` picks it. -/
def seedsOf (v : Validator) : StakeType → SeedRange
  | .stake => v.stakeSeeds
  | .unstake => v.unstakeSeeds

end Validator

/-- `lido::state::Maintainer`. -/
structure Maintainer where
  pubkey : Pubkey
  deriving DecidableEq, Repr

/-- Modelled from the spec: the off-chain part of `lido::state::ValidatorPerf`. -/
structure OffchainValidatorPerf where
  updatedAt : Nat
  blockProductionRate : Nat
  voteSuccessRate : Nat
  deriving DecidableEq, Repr

/-- Modelled from the spec: `lido::state::ValidatorPerf`, the last recorded commission, the
epoch it was recorded in, and the optional off-chain part. -/
structure ValidatorPerf where
  validatorVoteAccountAddress : Pubkey
  commission : Nat
  commissionUpdatedAt : Nat
  rest : Option OffchainValidatorPerf
  deriving DecidableEq, Repr

/-- Modelled from the spec: `lido::state::ListEntry`, an entry keyed by a public key. -/
class ListEntry (α : Type) where
  pubkey : α → Pubkey

instance : ListEntry Validator := ⟨Validator.pubkey⟩
instance : ListEntry Maintainer := ⟨Maintainer.pubkey⟩
instance : ListEntry ValidatorPerf := ⟨ValidatorPerf.validatorVoteAccountAddress⟩

/-- Modelled from the spec: `lido::state::AccountList`, an ordered list of entries. The list
account holds at most `u32::MAX` of them, so every index fits the `u32` an instruction carries. -/
structure AccountList (α : Type) where
  entries : List α
  length_lt : entries.length < 2 ^ 32

namespace AccountList

variable {α : Type}

/-- `AccountList::len`. -/
def len (l : AccountList α) : Nat := l.entries.length

/-- Modelled from the spec: `AccountList::position`, the index of the first entry with the key. -/
def position [ListEntry α] (l : AccountList α) (pubkey : Pubkey) : Option Nat :=
  l.entries.findIdx? fun entry => ListEntry.pubkey entry == pubkey

/-- Modelled from the spec: `AccountList::<Validator>::iter_active`. -/
def iterActive (l : AccountList Validator) : List Validator := l.entries.filter Validator.isActive

/-- Every entry's key has a position. -/
theorem position_of_mem [ListEntry α] {l : AccountList α} {x : α} (hx : x ∈ l.entries) :
    ∃ index, l.position (ListEntry.pubkey x) = some index := by
  have hany : l.entries.any (fun y => ListEntry.pubkey y == ListEntry.pubkey x) = true :=
    List.any_eq_true.mpr ⟨x, hx, beq_self_eq_true _⟩
  exact Option.isSome_iff_exists.mp (List.findIdx?_isSome.trans hany)

theorem position_of_mem_map [ListEntry α] {l : AccountList α} {key : Pubkey}
    (h : key ∈ l.entries.map ListEntry.pubkey) : ∃ index, l.position key = some index := by
  obtain ⟨x, hx, rfl⟩ := List.mem_map.mp h
  exact position_of_mem hx

/-- Only an entry's key has a position. -/
theorem mem_map_of_position [ListEntry α] {l : AccountList α} {key : Pubkey} {index : Nat}
    (h : l.position key = some index) : key ∈ l.entries.map ListEntry.pubkey := by
  have hsome : (l.position key).isSome := Option.isSome_iff_exists.mpr ⟨index, h⟩
  obtain ⟨x, hx, hkey⟩ := List.any_eq_true.mp (List.findIdx?_isSome.symm.trans hsome)
  exact List.mem_map.mpr ⟨x, hx, beq_iff_eq.mp hkey⟩

end AccountList

/-! Stake accounts, and what the ledger reports about a validator. -/

/-- Modelled from the spec: `lido::stake_account::StakeBalance`, an account's lamports by state. -/
structure StakeBalance where
  inactive : Nat
  activating : Nat
  active : Nat
  deactivating : Nat
  deriving DecidableEq, Repr

/-- Modelled from the spec: `StakeBalance::total`, the sum of the four parts. -/
def StakeBalance.total (b : StakeBalance) : Nat :=
  b.inactive + b.activating + b.active + b.deactivating

/-- Modelled from the spec: `lido::stake_account::StakeAccount`, a derived account's balance, the
seed it was derived from, and the epoch it started activating in. -/
structure StakeAccount where
  balance : StakeBalance
  seed : Nat
  activationEpoch : Nat
  deriving DecidableEq, Repr

/-- The delegation of a stake account, by the parts the maintainer and the balance split read. -/
structure Delegation where
  voterPubkey : Pubkey
  stake : Nat
  activationEpoch : Nat
  deactivationEpoch : Nat
  deriving DecidableEq, Repr

/-- A deserialized stake account: `solana_program::stake::state::Stake`. -/
structure Stake where
  delegation : Delegation
  deriving DecidableEq, Repr

/-- `VoteState`, by what the maintainer reads; `credits` is what `VoteState::credits` returns. -/
structure VoteState where
  nodePubkey : Pubkey
  commission : Nat
  credits : Nat
  deriving DecidableEq, Repr

/-- `validator_info_utils::ValidatorInfo`. -/
structure ValidatorInfo where
  name : String
  keybaseUsername : Option String
  deriving DecidableEq, Repr

/-- An account of the ledger: its balance and its data. -/
structure Account where
  lamports : Nat
  data : List UInt8
  deriving DecidableEq, Repr

/-- `spl_token::state::Mint`, by its supply. -/
structure Mint where
  supply : Nat
  deriving DecidableEq, Repr

/-- The clock sysvar. -/
structure Clock where
  slot : Nat
  epoch : Nat
  deriving DecidableEq, Repr

/-- The rent sysvar, by its one query: the rent-exempt balance of an account with that many
bytes of data (a floating-point product in Solana, left abstract here). -/
structure Rent where
  minimumBalance : Nat → Nat

/-- The stake history sysvar: per epoch, the effective, activating and deactivating stake. -/
structure StakeHistory where
  entries : List (Nat × Nat × Nat × Nat)
  deriving DecidableEq, Repr

/-- `config::StakeTime`. -/
inductive StakeTime
  | anytime
  | onlyNearEpochEnd
  deriving DecidableEq, Repr

/-! The Solido instance. -/

/-- Modelled from the spec: `lido::state::ExchangeRate`, by the epoch it was computed in. -/
structure ExchangeRate where
  computedInEpoch : Nat
  deriving DecidableEq, Repr

/-- Modelled from the spec: `lido::state::Criteria`, what a validator must meet to stay active. -/
structure Criteria where
  maxCommission : Nat
  minBlockProductionRate : Nat
  minVoteSuccessRate : Nat
  deriving DecidableEq, Repr

/-- Modelled from the spec: `lido::state::FeeRecipients`. -/
structure FeeRecipients where
  treasuryAccount : Pubkey
  developerAccount : Pubkey
  deriving DecidableEq, Repr

/-- Modelled from the spec: `lido::state::Lido`, by the fields the maintainer reads. -/
structure Lido where
  exchangeRate : ExchangeRate
  criteria : Criteria
  feeRecipients : FeeRecipients
  stSolMint : Pubkey
  validatorList : Pubkey
  validatorPerfList : Pubkey
  maintainerList : Pubkey
  deriving DecidableEq, Repr

/-! Instructions, as the builders of `lido::instruction` make them: the program, the accounts
the instruction reads and writes, and its arguments. -/

/-- `StakeDepositAccountsMetaV2`. -/
structure StakeDepositAccountsMetaV2 where
  lido : Pubkey
  maintainer : Pubkey
  reserve : Pubkey
  validatorVoteAccount : Pubkey
  stakeAccountMergeInto : Pubkey
  stakeAccountEnd : Pubkey
  stakeAuthority : Pubkey
  validatorList : Pubkey
  maintainerList : Pubkey
  deriving DecidableEq, Repr

/-- `UnstakeAccountsMetaV2`. -/
structure UnstakeAccountsMetaV2 where
  lido : Pubkey
  maintainer : Pubkey
  validatorVoteAccount : Pubkey
  sourceStakeAccount : Pubkey
  destinationUnstakeAccount : Pubkey
  stakeAuthority : Pubkey
  validatorList : Pubkey
  maintainerList : Pubkey
  deriving DecidableEq, Repr

/-- `DeactivateIfViolatesMeta`. -/
structure DeactivateIfViolatesMeta where
  lido : Pubkey
  validatorVoteAccountToDeactivate : Pubkey
  validatorList : Pubkey
  validatorPerfList : Pubkey
  deriving DecidableEq, Repr

/-- `ReactivateIfCompliesMeta`. -/
structure ReactivateIfCompliesMeta where
  lido : Pubkey
  validatorVoteAccountToReactivate : Pubkey
  validatorList : Pubkey
  validatorPerfList : Pubkey
  deriving DecidableEq, Repr

/-- `RemoveValidatorMetaV2`. -/
structure RemoveValidatorMetaV2 where
  lido : Pubkey
  validatorVoteAccountToRemove : Pubkey
  validatorList : Pubkey
  deriving DecidableEq, Repr

/-- `MergeStakeMetaV2`. -/
structure MergeStakeMetaV2 where
  lido : Pubkey
  validatorVoteAccount : Pubkey
  fromStake : Pubkey
  toStake : Pubkey
  stakeAuthority : Pubkey
  validatorList : Pubkey
  deriving DecidableEq, Repr

/-- `UpdateExchangeRateAccountsMetaV2`. -/
structure UpdateExchangeRateAccountsMetaV2 where
  lido : Pubkey
  reserve : Pubkey
  stSolMint : Pubkey
  validatorList : Pubkey
  deriving DecidableEq, Repr

/-- `UpdateOnchainValidatorPerfAccountsMeta` and `UpdateOffchainValidatorPerfAccountsMeta`,
which list the same accounts. -/
structure UpdateValidatorPerfAccountsMeta where
  lido : Pubkey
  validatorVoteAccountToUpdate : Pubkey
  validatorList : Pubkey
  validatorPerfList : Pubkey
  deriving DecidableEq, Repr

/-- `UpdateStakeAccountBalanceMeta`. -/
structure UpdateStakeAccountBalanceMeta where
  lido : Pubkey
  validatorVoteAccount : Pubkey
  stakeAccounts : List Pubkey
  reserve : Pubkey
  stakeAuthority : Pubkey
  mintAuthority : Pubkey
  stSolMint : Pubkey
  treasuryStSolAccount : Pubkey
  developerStSolAccount : Pubkey
  validatorList : Pubkey
  deriving DecidableEq, Repr

/-- An instruction to the Solido program. -/
inductive Instruction
  | stakeDeposit (programId : Pubkey) (accounts : StakeDepositAccountsMetaV2) (amount : Nat)
      (validatorIndex maintainerIndex : Nat)
  | unstake (programId : Pubkey) (accounts : UnstakeAccountsMetaV2) (amount : Nat)
      (validatorIndex maintainerIndex : Nat)
  | deactivateIfViolates (programId : Pubkey) (accounts : DeactivateIfViolatesMeta)
  | reactivateIfComplies (programId : Pubkey) (accounts : ReactivateIfCompliesMeta)
  | removeValidator (programId : Pubkey) (accounts : RemoveValidatorMetaV2) (validatorIndex : Nat)
  | mergeStake (programId : Pubkey) (accounts : MergeStakeMetaV2) (validatorIndex : Nat)
  | updateExchangeRate (programId : Pubkey) (accounts : UpdateExchangeRateAccountsMetaV2)
  | updateOnchainValidatorPerf (programId : Pubkey) (accounts : UpdateValidatorPerfAccountsMeta)
  | updateOffchainValidatorPerf (programId : Pubkey) (blockProductionRate voteSuccessRate : Nat)
      (accounts : UpdateValidatorPerfAccountsMeta)
  | updateStakeAccountBalance (programId : Pubkey) (accounts : UpdateStakeAccountBalanceMeta)
      (validatorIndex : Nat)
  deriving DecidableEq, Repr

/-- `Unstake`, the report of an unstake. -/
structure Unstake where
  validatorVoteAccount : Pubkey
  fromStakeAccount : Pubkey
  toUnstakeAccount : Pubkey
  fromStakeSeed : Nat
  toUnstakeSeed : Nat
  amount : Nat
  deriving DecidableEq, Repr

/-- `MaintenanceOutput`, the report of the maintenance performed. -/
inductive MaintenanceOutput
  | stakeDeposit (validatorVoteAccount stakeAccount : Pubkey) (amount : Nat)
  | updateExchangeRate
  | updateOffchainValidatorPerf (validatorVoteAccount : Pubkey)
      (blockProductionRate voteSuccessRate : Nat)
  | updateOnchainValidatorPerf (validatorVoteAccount : Pubkey)
  | updateStakeAccountBalance (validatorVoteAccount : Pubkey)
      (expectedDifferenceStake unstakeWithdrawnToReserve : Nat)
  | mergeStake (validatorVoteAccount fromStake toStake : Pubkey) (fromStakeSeed toStakeSeed : Nat)
  | unstakeFromInactiveValidator (unstake : Unstake)
  | deactivateIfViolates (validatorVoteAccount : Pubkey)
  | reactivateIfComplies (validatorVoteAccount : Pubkey)
  | removeValidator (validatorVoteAccount : Pubkey)
  | unstakeFromActiveValidator (unstake : Unstake)
  deriving DecidableEq, Repr

/-- `MaintenanceInstruction`: the instruction, its report, and any extra signers. -/
structure MaintenanceInstruction where
  instruction : Instruction
  output : MaintenanceOutput
  additionalSigners : List Pubkey
  deriving DecidableEq, Repr

/-- `MaintenanceInstruction::new`, with no extra signer. -/
def MaintenanceInstruction.new (instruction : Instruction) (output : MaintenanceOutput) :
    MaintenanceInstruction :=
  ⟨instruction, output, []⟩

/-! The code the maintainer calls that this repository's sources here do not hold. -/

/-- The seeds `STAKE_AUTHORITY` and `MINT_AUTHORITY` of the program's authorities. -/
inductive Authority
  | stake
  | mint
  deriving DecidableEq, Repr

/-- What the maintainer calls in the `lido` crate and in the Solana and SPL libraries, taken as
parameters: every theorem holds for every choice of them unless it states a contract. The
allocator functions are the spec's black-box `Allocator`. -/
structure Collaborators where
  /-- `Validator::find_stake_account_address(program, solido, seed, type)`. -/
  findStakeAccountAddress : Validator → Pubkey → Pubkey → Nat → StakeType → Pubkey
  /-- `Validator::find_temporary_stake_account_address(program, solido, seed, epoch)`. -/
  findTemporaryStakeAccountAddress : Validator → Pubkey → Pubkey → Nat → Nat → Pubkey
  /-- `lido::find_authority_program_address(program, solido, authority)`. -/
  findAuthorityProgramAddress : Pubkey → Pubkey → Authority → Pubkey
  /-- `Lido::get_reserve_account(program, solido)`. -/
  getReserveAccount : Lido → Pubkey → Pubkey → Except SnapshotError Pubkey
  /-- `Mint::unpack`. -/
  unpackMint : List UInt8 → Except SnapshotError Mint
  /-- `deserialize_stake_account`. -/
  deserializeStakeAccount : List UInt8 → Option Stake
  /-- How `StakeAccount::from_delegated_account` splits the lamports by activation state. -/
  stakeBalance : Nat → Stake → Clock → StakeHistory → StakeBalance
  /-- `StakeAccount::can_merge`, of the receiving account and the merged one. -/
  canMerge : StakeAccount → StakeAccount → Bool
  /-- `lido::logic::does_perform_well(criteria, commission, perf)`. -/
  doesPerformWell : Criteria → Nat → Option ValidatorPerf → Bool
  /-- `Validator::check_can_be_removed().is_ok()`. -/
  checkCanBeRemoved : Validator → Bool
  /-- `Validator::compute_effective_stake_balance`. -/
  computeEffectiveStakeBalance : Validator → Nat
  /-- `lido::balance::get_target_balance`, `None` for its error. -/
  getTargetBalance : Nat → AccountList Validator → Option (List Nat)
  /-- `lido::balance::get_minimum_stake_validator_index_amount`. -/
  getMinimumStakeValidatorIndexAmount : AccountList Validator → List Nat → Nat × Nat
  /-- `lido::balance::get_unstake_validator_index`. -/
  getUnstakeValidatorIndex :
    AccountList Validator → List Nat → Rational → Option (Nat × Nat)
  /-- `lido::MINIMUM_STAKE_ACCOUNT_BALANCE`. -/
  minimumStakeAccountBalance : Nat
  /-- `std::mem::size_of::<StakeState>()`. -/
  stakeStateSize : Nat
  /-- `impl Display for Lamports`. -/
  displayLamports : Nat → String

/-- Modelled from the spec: `lido::MAXIMUM_UNSTAKE_ACCOUNTS`, three in the observed policy. -/
def maximumUnstakeAccounts : Nat := 3

/-- `DEFAULT_TARGET_LAMPORTS_PER_SIGNATURE` of `solana_sdk::fee_calculator`. -/
def defaultTargetLamportsPerSignature : Nat := 10000

/-- Modelled from the spec: `per64(x, y)`, the ratio `x / y` scaled to `u64::MAX`; dividing by
zero panics. -/
def per64 (x y : Nat) : Except Failure Nat :=
  if y = 0 then .error (.panic "attempt to divide by zero") else .ok (x * u64Max / y)

/-! The snapshot. -/

/-- `SolidoState`, a snapshot of the accounts relevant to Solido. The `produced_at` timestamp,
read only by the metrics, is left out. -/
structure SolidoState where
  solidoProgramId : Pubkey
  solidoAddress : Pubkey
  solido : Lido
  /-- For each validator, in the order of `validators`, its stake accounts from the begin seed
  to the end seed. -/
  validatorStakeAccounts : List (List (Pubkey × StakeAccount))
  /-- Like the stake accounts, for the unstake accounts. -/
  validatorUnstakeAccounts : List (List (Pubkey × StakeAccount))
  validatorVoteAccountBalances : List Nat
  /-- For each validator, its vote account, or `none` if it was closed. -/
  validatorVoteAccounts : List (Option VoteState)
  validatorIdentityAccountBalances : List Nat
  validatorPerfs : List (Option ValidatorPerf)
  validatorBlockProductionRates : List (Option Nat)
  validatorInfos : List ValidatorInfo
  /-- For each maintainer, in the order of `maintainers`, the balance of its account. -/
  maintainerBalances : List Nat
  stSolMint : Mint
  reserveAddress : Pubkey
  reserveAccount : Account
  rent : Rent
  clock : Clock
  epochSchedule : EpochSchedule
  stakeHistory : StakeHistory
  /-- The maintainer executing the maintenance. -/
  maintainerAddress : Pubkey
  stakeTime : StakeTime
  validators : AccountList Validator
  maintainers : AccountList Maintainer
  /-- The percentage of the epoch past which the epoch is near its end. -/
  endOfEpochThreshold : Nat

namespace SolidoState

/-- `MINIMUM_WITHDRAW_AMOUNT`: below it, a withdrawal costs more in fees than it returns. -/
def minimumWithdrawAmount : Nat := defaultTargetLamportsPerSignature * 100

/-- `UNBALANCE_THRESHOLD`, the relative excess that triggers an unstake. -/
def unbalanceThreshold : Rational := ⟨1, 10⟩

/-- `MAINTAINER_DUTY_SLICE_LENGTH`. -/
def maintainerDutySliceLength : Nat := 100

/-- `MAINTAINER_DUTY_PAUSE_LENGTH`. -/
def maintainerDutyPauseLength : Nat := 10

/-- `get_effective_reserve`: what the reserve can spend and stay rent-exempt. -/
def getEffectiveReserve (s : SolidoState) : Nat :=
  s.reserveAccount.lamports - s.rent.minimumBalance 0

/-- `get_stake_authority`. -/
def getStakeAuthority (c : Collaborators) (s : SolidoState) : Pubkey :=
  c.findAuthorityProgramAddress s.solidoProgramId s.solidoAddress .stake

/-- `get_mint_authority`. -/
def getMintAuthority (c : Collaborators) (s : SolidoState) : Pubkey :=
  c.findAuthorityProgramAddress s.solidoProgramId s.solidoAddress .mint

/-- The snapshot of the unit tests' `new_empty_solido`: a default Solido instance, no
validators, the acting maintainer as the only maintainer, a reserve holding exactly its rent,
and the default clock, rent and epoch schedule. -/
def newEmptySolido : SolidoState where
  solidoProgramId := ⟨1⟩
  solidoAddress := ⟨2⟩
  solido := ⟨⟨0⟩, ⟨0, 0, 0⟩, ⟨⟨0⟩, ⟨0⟩⟩, ⟨0⟩, ⟨0⟩, ⟨0⟩, ⟨0⟩⟩
  validatorStakeAccounts := []
  validatorUnstakeAccounts := []
  validatorVoteAccountBalances := []
  validatorVoteAccounts := []
  validatorIdentityAccountBalances := []
  validatorPerfs := []
  validatorBlockProductionRates := []
  validatorInfos := []
  maintainerBalances := []
  stSolMint := ⟨0⟩
  reserveAddress := ⟨3⟩
  reserveAccount := ⟨128 * 6960, []⟩
  rent := ⟨fun dataLen => (128 + dataLen) * 6960⟩
  clock := ⟨0, 0⟩
  epochSchedule := EpochSchedule.default
  stakeHistory := ⟨[]⟩
  maintainerAddress := ⟨4⟩
  stakeTime := .anytime
  validators := ⟨[], by decide⟩
  maintainers := ⟨[⟨⟨4⟩⟩], by decide⟩
  endOfEpochThreshold := 95

end SolidoState

end Solido
