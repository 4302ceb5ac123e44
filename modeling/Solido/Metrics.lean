import Solido.Rows

namespace Solido

/-! `SolidoState::write_prometheus`: the metrics the maintainer exports of a snapshot, and
`sanitize_validator_name`, which makes the validators' names fit for them. -/

section Sanitize

/-- `char::is_whitespace`: Unicode's `White_Space` property, by which `str::trim` cuts. -/
def isWhitespace (ch : Char) : Bool :=
  let n := ch.toNat
  (0x9 ≤ n && n ≤ 0xd) || n == 0x20 || n == 0x85 || n == 0xa0 || n == 0x1680 ||
    (0x2000 ≤ n && n ≤ 0x200a) || n == 0x2028 || n == 0x2029 || n == 0x202f || n == 0x205f ||
    n == 0x3000

/-- `str::trim`: the whitespace cut from both ends. -/
def trim (cs : List Char) : List Char :=
  ((cs.dropWhile isWhitespace).reverse.dropWhile isWhitespace).reverse

/-- The filter of `sanitize_validator_name`: a code point below the Supplementary Multilingual
Plane, not a variation selector, and not in the Miscellaneous Symbols block. -/
def keepsChar (ch : Char) : Bool :=
  ch.toNat < 0x10000 && (ch.toNat < 0xfe00 || ch.toNat > 0xfe0f) &&
    (ch.toNat < 0x2600 || ch.toNat > 0x26ff)

/-- `sanitize_validator_name`: the name without its `Lido / ` prefix, emojis and dingbats, and
surrounding whitespace; a name without the prefix is marked invalid. -/
def sanitizeValidatorName (name : String) : String :=
  match "Lido / ".data.isPrefixOf? name.data with
  | some suffix => ⟨trim (suffix.filter keepsChar)⟩
  | none => "INVALID: " ++ name

end Sanitize

/-! What the sanitizer guarantees of every name. -/

theorem isPrefixOf?_eq_some_iff {α : Type} [BEq α] [LawfulBEq α] :
    ∀ {l₁ l₂ t : List α}, l₁.isPrefixOf? l₂ = some t ↔ l₂ = l₁ ++ t
  | [], l₂, t => by simp [List.isPrefixOf?, eq_comm]
  | x :: l₁, [], t => by simp [List.isPrefixOf?]
  | x :: l₁, y :: l₂, t => by
      by_cases hxy : x = y
      · subst hxy
        simp [List.isPrefixOf?, isPrefixOf?_eq_some_iff]
      · simp [List.isPrefixOf?, hxy, Ne.symm hxy]

theorem dropWhile_eq_self {p : Char → Bool} :
    ∀ {cs : List Char}, (∀ ch ∈ cs.head?, p ch = false) → cs.dropWhile p = cs
  | [], _ => rfl
  | ch :: cs, h => by simp [List.dropWhile, h ch rfl]

/-- `trim` cuts whitespace from the ends and nothing else, and leaves none at either end. -/
theorem trim_spec (cs : List Char) :
    ∃ pre post, cs = pre ++ trim cs ++ post ∧ (∀ ch ∈ pre, isWhitespace ch) ∧
      (∀ ch ∈ post, isWhitespace ch) ∧ (∀ ch ∈ (trim cs).head?, isWhitespace ch = false) ∧
      ∀ ch ∈ (trim cs).getLast?, isWhitespace ch = false := by
  set rest := cs.dropWhile isWhitespace
  have hrest : rest = trim cs ++ (rest.reverse.takeWhile isWhitespace).reverse := by
    rw [trim, ← List.reverse_append, List.takeWhile_append_dropWhile, List.reverse_reverse]
  refine ⟨cs.takeWhile isWhitespace, (rest.reverse.takeWhile isWhitespace).reverse, ?_,
    fun _ h => List.mem_takeWhile_imp h, fun _ h => List.mem_takeWhile_imp (List.mem_reverse.mp h),
    fun ch h => ?_, fun ch h => ?_⟩
  · rw [List.append_assoc, ← hrest, List.takeWhile_append_dropWhile]
  · have hhead := List.head?_dropWhile_not isWhitespace cs
    rw [show cs.dropWhile isWhitespace = rest from rfl, hrest, List.head?_append,
      Option.mem_def.mp h] at hhead
    exact hhead
  · have hlast := List.head?_dropWhile_not isWhitespace rest.reverse
    rw [trim, List.getLast?_reverse] at h
    rw [Option.mem_def.mp h] at hlast
    exact hlast

theorem trim_eq_self {cs : List Char} (hhead : ∀ ch ∈ cs.head?, isWhitespace ch = false)
    (hlast : ∀ ch ∈ cs.getLast?, isWhitespace ch = false) : trim cs = cs := by
  rw [trim, dropWhile_eq_self hhead, dropWhile_eq_self (by rwa [List.head?_reverse]),
    List.reverse_reverse]

theorem sanitizeValidatorName_lido (name : String) :
    sanitizeValidatorName ("Lido / " ++ name) = ⟨trim (name.data.filter keepsChar)⟩ := by
  rw [sanitizeValidatorName, isPrefixOf?_eq_some_iff.mpr (String.data_append _ _)]

/-- A name with the `Lido / ` prefix is sanitized to its suffix's kept characters with the
whitespace at both ends cut, and only there; any other name is marked invalid. -/
theorem sanitizeValidatorName_spec (name : String) :
    (∃ suffix, name.data = "Lido / ".data ++ suffix ∧
      ∃ pre post, suffix.filter keepsChar = pre ++ (sanitizeValidatorName name).data ++ post ∧
        (∀ ch ∈ pre, isWhitespace ch) ∧ (∀ ch ∈ post, isWhitespace ch) ∧
        (∀ ch ∈ (sanitizeValidatorName name).data.head?, isWhitespace ch = false) ∧
        ∀ ch ∈ (sanitizeValidatorName name).data.getLast?, isWhitespace ch = false) ∨
      (∀ suffix, name.data ≠ "Lido / ".data ++ suffix) ∧
        sanitizeValidatorName name = "INVALID: " ++ name := by
  unfold sanitizeValidatorName
  split
  · next suffix hsuffix => exact .inl ⟨suffix, isPrefixOf?_eq_some_iff.mp hsuffix, trim_spec _⟩
  · next hnone =>
      exact .inr ⟨fun suffix h => by simp [isPrefixOf?_eq_some_iff.mpr h] at hnone, rfl⟩

/-- The sanitized name of a name with the `Lido / ` prefix, given the prefix again, sanitizes to
itself. -/
theorem sanitizeValidatorName_sanitized (name : String) :
    sanitizeValidatorName ("Lido / " ++ sanitizeValidatorName ("Lido / " ++ name)) =
      sanitizeValidatorName ("Lido / " ++ name) := by
  obtain ⟨pre, post, hcs, -, -, hhead, hlast⟩ := trim_spec (name.data.filter keepsChar)
  have hkept : (trim (name.data.filter keepsChar)).filter keepsChar =
      trim (name.data.filter keepsChar) := List.filter_eq_self.mpr fun ch hch => by
    have hkept : ch ∈ name.data.filter keepsChar := by
      rw [hcs]
      exact List.mem_append_left post (List.mem_append_right pre hch)
    exact (List.mem_filter.mp hkept).2
  rw [sanitizeValidatorName_lido, sanitizeValidatorName_lido]
  simp only [hkept, trim_eq_self hhead hlast]

/-! The metrics of `solido_cli_common::prometheus`, by what `write_prometheus` gives them: a
value and labels. The time each is produced at (`at(produced_at)`) is left out. -/

/-- A metric's value: a count, an amount of lamports shown in SOL, or of stSOL. -/
inductive MetricValue
  | nat (value : Nat)
  | sol (amount : Nat)
  | stSol (amount : Nat)
  deriving DecidableEq, Repr

/-- `Metric`. -/
structure Metric where
  value : MetricValue
  labels : List (String × String)
  deriving DecidableEq, Repr

/-- `Metric::new`. -/
def Metric.new (value : Nat) : Metric := ⟨.nat value, []⟩

/-- `Metric::new_sol`. -/
def Metric.newSol (amount : Nat) : Metric := ⟨.sol amount, []⟩

/-- `Metric::new_st_sol`. -/
def Metric.newStSol (amount : Nat) : Metric := ⟨.stSol amount, []⟩

/-- `Metric::with_label`: one more label, after the others. -/
def Metric.withLabel (metric : Metric) (name value : String) : Metric :=
  { metric with labels := metric.labels ++ [(name, value)] }

/-- `MetricFamily`. -/
structure MetricFamily where
  name : String
  help : String
  type_ : String
  metrics : List Metric
  deriving DecidableEq, Repr

/-- `StakeHistory::get`: the entry of an epoch, by its effective, activating and deactivating
stake. -/
def StakeHistory.get (stakeHistory : StakeHistory) (epoch : Nat) : Option (Nat × Nat × Nat) :=
  (stakeHistory.entries.find? fun entry => entry.1 == epoch).map (·.2)

/-- `Sum` of `StakeBalance`: the balances added part by part. -/
def StakeBalance.sum (balances : List StakeBalance) : StakeBalance :=
  ⟨(balances.map (·.inactive)).sum, (balances.map (·.activating)).sum,
    (balances.map (·.active)).sum, (balances.map (·.deactivating)).sum⟩

/-- A signed timestamp cast `as u64`. -/
def asU64 (timestamp : Int) : Nat := (timestamp % 2 ^ 64).toNat

/-- What the metrics read that the snapshot's records of the model leave out: the slot and
timestamp of each vote account's last vote (`last_timestamp`), by the vote account's address, the
stSOL supply and SOL balance of the exchange rate, and the families that
`write_solido_metrics_as_prometheus` writes of Solido's own metrics. -/
structure MetricsInput where
  lastTimestamp : Pubkey → Nat × Int
  exchangeRateStSolSupply : Nat
  exchangeRateSolBalance : Nat
  solidoMetrics : List MetricFamily

/-- `MetricAnnotator`: the labels that name a validator. -/
structure MetricAnnotator where
  voteAccount : String
  name : String
  keybaseUsername : String

/-- `MetricAnnotator::add_labels`. -/
def MetricAnnotator.addLabels (annotator : MetricAnnotator) (metric : Metric) : Metric :=
  ((metric.withLabel "vote_account" annotator.voteAccount).withLabel "validator_name"
    annotator.name).withLabel "validator_keybase" annotator.keybaseUsername

/-- What the loop of `write_prometheus` visits of a validator: the validator, its stake accounts,
unstake accounts, vote account, identity account balance and info. -/
abbrev MetricsRow :=
  ((((Validator × List (Pubkey × StakeAccount)) × List (Pubkey × StakeAccount)) ×
    Option VoteState) × Nat) × ValidatorInfo

/-- The five vectors of metrics that the loop of `write_prometheus` fills. -/
structure ValidatorMetrics where
  balanceSolMetrics : List Metric
  lastVotedSlotMetrics : List Metric
  lastVotedTimestampMetrics : List Metric
  identityAccountBalanceMetrics : List Metric
  voteCreditsMetrics : List Metric
  deriving DecidableEq, Repr

namespace SolidoState

/-- The validators zipped with their vectors, as the loop of `write_prometheus` visits them: as
long as the shortest of the six. -/
def metricsRows (s : SolidoState) : List MetricsRow :=
  ((((s.validators.entries.zip s.validatorStakeAccounts).zip s.validatorUnstakeAccounts).zip
    s.validatorVoteAccounts).zip s.validatorIdentityAccountBalances).zip s.validatorInfos

/-- The loop body of `write_prometheus` for one validator. -/
def pushValidatorMetrics (input : MetricsInput) (metrics : ValidatorMetrics) :
    MetricsRow → Except Failure ValidatorMetrics
  | (((((validator, stakeAccounts), unstakeAccounts), voteAccount), identityAccountBalance),
      info) => do
    let keybaseUsername ← expect "All Lido validators should have a Keybase username set."
      info.keybaseUsername
    let annotator : MetricAnnotator :=
      ⟨toString validator.pubkey, sanitizeValidatorName info.name, keybaseUsername⟩
    let stakeBalance := StakeBalance.sum
      ((stakeAccounts ++ unstakeAccounts).map fun account => account.2.balance)
    let metric := fun amount status =>
      (annotator.addLabels (Metric.newSol amount)).withLabel "status" status
    let balanceSolMetrics := metrics.balanceSolMetrics ++
      [metric stakeBalance.inactive "inactive", metric stakeBalance.activating "activating",
        metric stakeBalance.active "active", metric stakeBalance.deactivating "deactivating"]
    let identityAccountBalanceMetrics := metrics.identityAccountBalanceMetrics ++
      [annotator.addLabels (Metric.newSol identityAccountBalance)]
    match voteAccount with
    | some voteAccount =>
        let lastTimestamp := input.lastTimestamp validator.pubkey
        pure ⟨balanceSolMetrics,
          metrics.lastVotedSlotMetrics ++ [annotator.addLabels (Metric.new lastTimestamp.1)],
          metrics.lastVotedTimestampMetrics ++
            [annotator.addLabels (Metric.new (asU64 lastTimestamp.2))],
          identityAccountBalanceMetrics,
          metrics.voteCreditsMetrics ++ [annotator.addLabels (Metric.new voteAccount.credits)]⟩
    | none =>
        pure ⟨balanceSolMetrics, metrics.lastVotedSlotMetrics, metrics.lastVotedTimestampMetrics,
          identityAccountBalanceMetrics, metrics.voteCreditsMetrics⟩

/-- The gauge family of a name, a help text and metrics, as `write_prometheus` writes each. -/
def gauge (name help : String) (metrics : List Metric) : MetricFamily :=
  ⟨name, help, "gauge", metrics⟩

/-- The family of the stake of the whole network in an epoch, if the stake history has the epoch. -/
def stakeSolFamilies (s : SolidoState) (epoch : Nat) : List MetricFamily :=
  match s.stakeHistory.get epoch with
  | some (effective, activating, deactivating) =>
      [gauge "solido_solana_stake_sol"
        "Amount of SOL staked for the *previous* epoch, across the entire Solana network."
        [(Metric.newSol activating).withLabel "status" "activating",
          (Metric.newSol effective).withLabel "status" "active",
          (Metric.newSol deactivating).withLabel "status" "deactivating"]]
  | none => []

/-- The vectors of metrics before the loop: the balance of the reserve, and nothing else. -/
def initialValidatorMetrics (s : SolidoState) : ValidatorMetrics :=
  ⟨[(Metric.newSol s.getEffectiveReserve).withLabel "status" "reserve"], [], [], [], []⟩

/-- The families of the clock and the epoch schedule, which `write_prometheus` writes first. -/
def headerFamilies (s : SolidoState) : List MetricFamily :=
  [gauge "solido_solana_block_height" "Solana slot that we read the Solido details from."
      [Metric.new s.clock.slot],
    gauge "solido_solana_epoch" "Solana epoch that the slot at solido_solana_block_height falls in."
      [Metric.new s.clock.epoch],
    gauge "solido_solana_epoch_start_slot"
      "Slot number of the first slot of the current Solana epoch."
      [Metric.new (s.epochSchedule.getFirstSlotInEpoch s.clock.epoch)],
    gauge "solido_solana_slots_per_epoch" "Number of slots in the current Solana epoch."
      [Metric.new s.epochSchedule.slotsPerEpoch]]

/-- The family of the maintainers' balances, each labelled with the maintainer's address. -/
def maintainerBalanceFamily (s : SolidoState) : MetricFamily :=
  gauge "solido_maintainer_balance_sol" "Balance of the maintainer accounts, in SOL."
    ((s.maintainers.entries.zip s.maintainerBalances).map fun (maintainer, balance) =>
      (Metric.newSol balance).withLabel "maintainer_address" (toString maintainer.pubkey))

/-- The families written after the loop: the vectors it filled, then the token and the exchange
rate. -/
def familiesAfterLoop (s : SolidoState) (input : MetricsInput) (metrics : ValidatorMetrics) :
    List MetricFamily :=
  [gauge "solido_balance_sol" "Amount of SOL currently managed by Solido."
      metrics.balanceSolMetrics,
    gauge "solido_validator_last_voted_slot" "The slot that the validator last voted on."
      metrics.lastVotedSlotMetrics,
    gauge "solido_validator_last_voted_timestamp"
      ("The Unix timestamp (in seconds) that the validator included in its last vote. " ++
        "Note that this is provided by the validator itself, it may not be accurate.")
      metrics.lastVotedTimestampMetrics,
    gauge "solido_validator_identity_account_balance_sol"
      "Balance of the validator's identity account (that pays for votes) minus rent-exempt amount."
      metrics.identityAccountBalanceMetrics,
    gauge "solido_validator_vote_credits_total"
      ("Vote credits in the validator's vote account. " ++
        "On-chain this value can only increase, but decreases in the observed value can " ++
        "happen due to reorgs.")
      metrics.voteCreditsMetrics,
    gauge "solido_token_supply_st_sol" "Amount of stSOL that exists currently."
      [(Metric.newStSol s.stSolMint.supply).withLabel "status" "minted"],
    gauge "solido_exchange_rate_supply_st_sol"
      "Amount of stSOL that existed at the time of the last exchange rate update."
      [Metric.newStSol input.exchangeRateStSolSupply],
    gauge "solido_exchange_rate_balance_sol"
      "Amount of SOL managed at the time of the last exchange rate update."
      [Metric.newSol input.exchangeRateSolBalance],
    gauge "solido_exchange_rate_computed_epoch"
      "The epoch in which the exchange rate was last computed."
      [Metric.new s.solido.exchangeRate.computedInEpoch]]

/-- The families that `write_prometheus` writes, in order, around the family of the network's
stake and with the metrics its loop filled; `write_solido_metrics_as_prometheus` writes the last. -/
def prometheusFamilies (s : SolidoState) (input : MetricsInput) (stakeFamilies : List MetricFamily)
    (metrics : ValidatorMetrics) : List MetricFamily :=
  s.headerFamilies ++ stakeFamilies ++ s.maintainerBalanceFamily ::
    (s.familiesAfterLoop input metrics ++ input.solidoMetrics)

/-- `write_prometheus` on a writer that never fails: the families it writes, in order, or the panic
that stops it. -/
def writePrometheus (s : SolidoState) (input : MetricsInput) :
    Except Failure (List MetricFamily) := do
  let previousEpoch ← subU64 s.clock.epoch 1
  let metrics ← s.metricsRows.foldlM (pushValidatorMetrics input) s.initialValidatorMetrics
  pure (s.prometheusFamilies input (s.stakeSolFamilies previousEpoch) metrics)

end SolidoState

/-! The loop of `write_prometheus`, like the loop of `new`, computes one row of metrics per
validator from that validator alone, and the vectors are the rows laid end to end. -/

namespace ValidatorMetrics

/-- No metrics. -/
def empty : ValidatorMetrics := ⟨[], [], [], [], []⟩

/-- The vectors of `a`, each followed by the same vector of `b`. -/
def append (a b : ValidatorMetrics) : ValidatorMetrics :=
  ⟨a.balanceSolMetrics ++ b.balanceSolMetrics, a.lastVotedSlotMetrics ++ b.lastVotedSlotMetrics,
    a.lastVotedTimestampMetrics ++ b.lastVotedTimestampMetrics,
    a.identityAccountBalanceMetrics ++ b.identityAccountBalanceMetrics,
    a.voteCreditsMetrics ++ b.voteCreditsMetrics⟩

/-- Rows of metrics laid end to end. -/
def concat (rows : List ValidatorMetrics) : ValidatorMetrics :=
  ⟨rows.flatMap balanceSolMetrics, rows.flatMap lastVotedSlotMetrics,
    rows.flatMap lastVotedTimestampMetrics, rows.flatMap identityAccountBalanceMetrics,
    rows.flatMap voteCreditsMetrics⟩

theorem foldl_append : ∀ (rows : List ValidatorMetrics) (acc : ValidatorMetrics),
    rows.foldl append acc = acc.append (concat rows)
  | [], ⟨_, _, _, _, _⟩ => by simp [append, concat]
  | row :: rows, acc => by
      simp only [List.foldl_cons, foldl_append rows]
      simp [append, concat, List.append_assoc]

end ValidatorMetrics

/-- The lamports a metric reports in SOL; nothing for any other metric. -/
def Metric.solValue (metric : Metric) : Nat :=
  match metric.value with
  | .sol amount => amount
  | _ => 0

@[simp] theorem Metric.solValue_newSol (amount : Nat) : (Metric.newSol amount).solValue = amount :=
  rfl

@[simp] theorem Metric.solValue_withLabel (metric : Metric) (name value : String) :
    (metric.withLabel name value).solValue = metric.solValue := rfl

@[simp] theorem MetricAnnotator.solValue_addLabels (annotator : MetricAnnotator) (metric : Metric) :
    (annotator.addLabels metric).solValue = metric.solValue := rfl

theorem StakeBalance.total_sum (balances : List StakeBalance) :
    (StakeBalance.sum balances).total = (balances.map StakeBalance.total).sum := by
  show _ = (balances.map fun b => b.inactive + b.activating + b.active + b.deactivating).sum
  simp only [StakeBalance.sum, StakeBalance.total, List.sum_map_add]

namespace SolidoState

variable {s : SolidoState} {input : MetricsInput}

theorem pushValidatorMetrics_eq_map (metrics : ValidatorMetrics) (row : MetricsRow) :
    pushValidatorMetrics input metrics row =
      metrics.append <$> pushValidatorMetrics input .empty row := by
  obtain ⟨⟨⟨⟨⟨_, _⟩, _⟩, voteAccount⟩, _⟩, ⟨_, _ | _⟩⟩ := row
  · rfl
  · cases voteAccount <;>
      simp [pushValidatorMetrics, ok_map, ValidatorMetrics.append, ValidatorMetrics.empty]

theorem foldlM_pushValidatorMetrics (rows : List MetricsRow) (init : ValidatorMetrics) :
    rows.foldlM (pushValidatorMetrics input) init =
      (fun ms => init.append (ValidatorMetrics.concat ms)) <$>
        rows.mapM (pushValidatorMetrics input .empty) := by
  simp only [foldlM_eq_map_mapM pushValidatorMetrics_eq_map, ValidatorMetrics.foldl_append]

/-- The loop body fails only at a validator without a Keybase username, and then panics. -/
theorem pushValidatorMetrics_eq_error_iff {metrics : ValidatorMetrics} {row : MetricsRow}
    {failure : Failure} :
    pushValidatorMetrics input metrics row = .error failure ↔
      row.2.keybaseUsername = none ∧
        failure = .panic "All Lido validators should have a Keybase username set." := by
  obtain ⟨⟨⟨⟨⟨_, _⟩, _⟩, voteAccount⟩, _⟩, ⟨_, _ | _⟩⟩ := row
  · simp [pushValidatorMetrics, expect, eq_comm]
  · cases voteAccount <;> simp [pushValidatorMetrics]

/-- On a writer that never fails, `write_prometheus` fails only by panicking: at epoch 0, where
the previous epoch underflows, and otherwise at a validator it visits without a Keybase
username. -/
theorem writePrometheus_eq_error_iff {failure : Failure} :
    s.writePrometheus input = .error failure ↔
      s.clock.epoch = 0 ∧ failure = .panic "attempt to subtract with overflow" ∨
        0 < s.clock.epoch ∧ (∃ row ∈ s.metricsRows, row.2.keybaseUsername = none) ∧
          failure = .panic "All Lido validators should have a Keybase username set." := by
  rw [writePrometheus, foldlM_pushValidatorMetrics]
  rcases Nat.eq_zero_or_pos s.clock.epoch with hepoch | hepoch
  · simp only [subU64, hepoch, nonpos_iff_eq_zero, eq_comm, zero_ne_one, if_false, error_bind,
      Except.error.injEq, true_and, lt_self_iff_false, false_and, or_false]
  · rw [subU64_eq_ok.mpr ⟨hepoch, rfl⟩, ok_bind,
      ← mapM_eq_error_iff fun _ _ => pushValidatorMetrics_eq_error_iff]
    rcases s.metricsRows.mapM (pushValidatorMetrics input .empty) with e | ms <;>
      simp only [Except.map_error, Except.map_ok, pure_eq_ok, error_bind, ok_bind,
        Except.error.injEq, reduceCtorEq, hepoch.ne', hepoch, true_and, false_and, false_or,
        and_false, or_self]

/-- What the loop body computes for one validator: it has a Keybase username, its metrics of
Solido's SOL add up to its stake and unstake accounts, and it has one identity metric. -/
theorem pushValidatorMetrics_empty_eq_ok {row : MetricsRow} {m : ValidatorMetrics}
    (h : pushValidatorMetrics input .empty row = .ok m) :
    ∃ keybaseUsername, row.2.keybaseUsername = some keybaseUsername ∧
      (m.balanceSolMetrics.map Metric.solValue).sum =
        totalStake row.1.1.1.1.2 + totalStake row.1.1.1.2 ∧
      m.identityAccountBalanceMetrics =
        [MetricAnnotator.addLabels ⟨toString row.1.1.1.1.1.pubkey, sanitizeValidatorName row.2.name,
          keybaseUsername⟩ (Metric.newSol row.1.2)] := by
  obtain ⟨⟨⟨⟨⟨_, stakeAccounts⟩, unstakeAccounts⟩, voteAccount⟩, _⟩, ⟨_, _ | keybaseUsername⟩⟩ := row
  · cases h
  · have hsum : (StakeBalance.sum ((stakeAccounts ++ unstakeAccounts).map fun account =>
        account.2.balance)).total = totalStake stakeAccounts + totalStake unstakeAccounts := by
      simp [StakeBalance.total_sum, totalStake, Function.comp_def]
    refine ⟨keybaseUsername, rfl, ?_⟩
    cases voteAccount <;>
      simp only [pushValidatorMetrics, expect_some, ok_bind, pure_eq_ok, Except.ok.injEq] at h <;>
      subst h <;> simp [ValidatorMetrics.empty, ← hsum, StakeBalance.total, Nat.add_assoc]

/-- A successful `write_prometheus` wrote the families around its loop's rows of metrics. -/
theorem writePrometheus_eq_ok {families : List MetricFamily}
    (h : s.writePrometheus input = .ok families) :
    ∃ ms, s.metricsRows.mapM (pushValidatorMetrics input .empty) = .ok ms ∧
      families = s.prometheusFamilies input (s.stakeSolFamilies (s.clock.epoch - 1))
        (s.initialValidatorMetrics.append (ValidatorMetrics.concat ms)) := by
  rw [writePrometheus, bind_eq_ok] at h
  obtain ⟨previousEpoch, hprevious, h⟩ := h
  obtain ⟨-, rfl⟩ := subU64_eq_ok.mp hprevious
  rw [foldlM_pushValidatorMetrics] at h
  rcases hms : s.metricsRows.mapM (pushValidatorMetrics input .empty) with e | ms <;>
    rw [hms] at h
  · cases h
  · exact ⟨ms, rfl, (Except.ok.inj h).symm⟩

theorem mem_stakeSolFamilies {epoch : Nat} {family : MetricFamily}
    (h : family ∈ s.stakeSolFamilies epoch) : family.name = "solido_solana_stake_sol" := by
  unfold stakeSolFamilies at h
  split at h <;> simp_all [gauge]

/-- A family other than the network's stake is found in what `write_prometheus` writes as if the
stake history had no entry. -/
theorem find?_prometheusFamilies {name : String} (hname : name ≠ "solido_solana_stake_sol")
    (epoch : Nat) (metrics : ValidatorMetrics) :
    (s.prometheusFamilies input (s.stakeSolFamilies epoch) metrics).find? (·.name == name) =
      (s.prometheusFamilies input [] metrics).find? (·.name == name) := by
  have hnone : (s.stakeSolFamilies epoch).find? (·.name == name) = none :=
    List.find?_eq_none.mpr fun family hfamily => by
      simpa [mem_stakeSolFamilies hfamily] using Ne.symm hname
  simp only [prometheusFamilies, List.find?_append, hnone, List.find?_nil]

/-- The loop gives each row it visits one identity metric, in order, labelled for that row and
carrying its identity account balance. -/
theorem mapM_pushValidatorMetrics_identity :
    ∀ {rows : List MetricsRow} {ms : List ValidatorMetrics},
      rows.mapM (pushValidatorMetrics input .empty) = .ok ms →
      (ms.flatMap ValidatorMetrics.identityAccountBalanceMetrics).length = rows.length ∧
      ∀ (i : Nat) row, rows[i]? = some row → ∃ keybaseUsername,
        row.2.keybaseUsername = some keybaseUsername ∧
        (ms.flatMap ValidatorMetrics.identityAccountBalanceMetrics)[i]? =
          some (MetricAnnotator.addLabels ⟨toString row.1.1.1.1.1.pubkey,
            sanitizeValidatorName row.2.name, keybaseUsername⟩ (Metric.newSol row.1.2))
  | [], ms, h => by
      rw [List.mapM_nil] at h
      cases h
      simp
  | row :: rows, ms, h => by
      simp only [List.mapM_cons, bind_eq_ok, pure_eq_ok, Except.ok.injEq] at h
      obtain ⟨m, hm, ms, hms, rfl⟩ := h
      obtain ⟨keybaseUsername, hkeybase, -, hmetrics⟩ := pushValidatorMetrics_empty_eq_ok hm
      obtain ⟨hlen, hget⟩ := mapM_pushValidatorMetrics_identity hms
      refine ⟨by simp [hmetrics, hlen], fun i row' hrow' => ?_⟩
      cases i with
      | zero =>
          obtain rfl : row = row' := by simpa using hrow'
          exact ⟨keybaseUsername, hkeybase, by simp [hmetrics]⟩
      | succ i => simpa [hmetrics] using hget i row' (by simpa using hrow')

theorem metricsRows_getElem? {i : Nat} {row : MetricsRow} :
    s.metricsRows[i]? = some row ↔ s.validators.entries[i]? = some row.1.1.1.1.1 ∧
      s.validatorStakeAccounts[i]? = some row.1.1.1.1.2 ∧
      s.validatorUnstakeAccounts[i]? = some row.1.1.1.2 ∧
      s.validatorVoteAccounts[i]? = some row.1.1.2 ∧
      s.validatorIdentityAccountBalances[i]? = some row.1.2 ∧ s.validatorInfos[i]? = some row.2 := by
  simp only [metricsRows, List.getElem?_zip_eq_some, and_assoc]

/-- With the six vectors as long as the validator list, the loop visits each validator with its
own stake and unstake accounts. -/
theorem metricsRows_map_of_lengths
    (hlen : s.validatorStakeAccounts.length = s.validators.entries.length ∧
      s.validatorUnstakeAccounts.length = s.validators.entries.length ∧
      s.validatorVoteAccounts.length = s.validators.entries.length ∧
      s.validatorIdentityAccountBalances.length = s.validators.entries.length ∧
      s.validatorInfos.length = s.validators.entries.length) :
    s.metricsRows.map (·.1.1.1.1.2) = s.validatorStakeAccounts ∧
      s.metricsRows.map (·.1.1.1.2) = s.validatorUnstakeAccounts := by
  obtain ⟨hstake, hunstake, hvote, hidentity, hinfos⟩ := hlen
  have hfst : s.metricsRows.map (·.1.1.1) =
      (s.validators.entries.zip s.validatorStakeAccounts).zip s.validatorUnstakeAccounts := by
    rw [metricsRows, show (fun row : MetricsRow => row.1.1.1) = Prod.fst ∘ Prod.fst ∘ Prod.fst from
      rfl, ← List.map_map, ← List.map_map, List.map_fst_zip, List.map_fst_zip, List.map_fst_zip] <;>
      simp [hstake, hunstake, hvote, hidentity, hinfos]
  constructor
  · rw [show (fun row : MetricsRow => row.1.1.1.1.2) = (Prod.snd ∘ Prod.fst) ∘ (·.1.1.1) from rfl,
      ← List.map_map, hfst, ← List.map_map, List.map_fst_zip, List.map_snd_zip] <;>
      simp [hstake, hunstake]
  · rw [show (fun row : MetricsRow => row.1.1.1.2) = Prod.snd ∘ (·.1.1.1) from rfl,
      ← List.map_map, hfst, List.map_snd_zip]
    simp [hstake, hunstake]

section New

variable {c : Collaborators} {config : SnapshotConfig} {solidoProgramId solidoAddress : Pubkey}
  {stakeTime : StakeTime} {endOfEpochThreshold : Nat}

/-- With every vote account open, the six vectors that `write_prometheus` zips are as long as the
validator list. -/
theorem new_metricsRows_lengths
    (h : SolidoState.new c config solidoProgramId solidoAddress stakeTime endOfEpochThreshold =
      .ok s)
    (hopen : ∀ voteAccount ∈ s.validatorVoteAccounts, voteAccount.isSome) :
    s.validatorStakeAccounts.length = s.validators.entries.length ∧
      s.validatorUnstakeAccounts.length = s.validators.entries.length ∧
      s.validatorVoteAccounts.length = s.validators.entries.length ∧
      s.validatorIdentityAccountBalances.length = s.validators.entries.length ∧
      s.validatorInfos.length = s.validators.entries.length := by
  have hs := new_consistent h
  have hvecs := new_validatorVecs_openAligned h
  have hcount : s.validatorVoteAccounts.countP Option.isSome = s.validators.entries.length := by
    rw [List.countP_eq_length.mpr hopen, hs.voteAccounts_length]
  exact ⟨hs.stakeAccounts_length, by simpa using congrArg List.length hs.unstake_layout,
    hs.voteAccounts_length, hvecs.identityAccountBalances_length.trans hcount,
    hvecs.infos_length.trans hcount⟩

/-! The staked ledger once more, one epoch later and with validators that follow Lido's naming
policy, on which the results below are run. -/

/-- The staked ledger at the first slot of epoch 1, whose validators are named `Lido / Validator`
with a Keybase username, and whose stake history has the network's stake of epoch 0. -/
def listedClient : SnapshotClient :=
  { stakedClient with
    getClock := .ok ⟨432000, 1⟩
    getStakeHistory := .ok ⟨[(0, 5000000000, 0, 0)]⟩
    getValidatorInfo := fun _ => .ok ⟨"Lido / Validator", some "validator"⟩ }

/-- The snapshot that `new` takes of that ledger. -/
def listedSnapshot : SolidoState :=
  match SolidoState.new rentKeepingCollaborators (acceptingConfig listedClient) ⟨1⟩ ⟨2⟩ .anytime 95
  with
  | .ok s => s
  | .error _ => newEmptySolido

theorem new_listedClient : SolidoState.new rentKeepingCollaborators (acceptingConfig listedClient)
    ⟨1⟩ ⟨2⟩ .anytime 95 = .ok listedSnapshot := rfl

theorem listedSnapshot_open :
    ∀ voteAccount ∈ listedSnapshot.validatorVoteAccounts, voteAccount.isSome := by
  decide

/-- Every vote account last voted one slot before the snapshot. -/
def listedInput : MetricsInput := ⟨fun _ => (431999, 1650000000), 0, 0, []⟩

/-- The families that `write_prometheus` writes of that snapshot. -/
def listedFamilies : List MetricFamily :=
  match listedSnapshot.writePrometheus listedInput with
  | .ok families => families
  | .error _ => []

theorem writePrometheus_listedSnapshot :
    listedSnapshot.writePrometheus listedInput = .ok listedFamilies := rfl

/-- With every vote account open, the SOL that `write_prometheus` reports Solido to manage is the
effective reserve and the balance of every stake and unstake account of every validator. -/
theorem new_writePrometheus_balanceSol
    (h : SolidoState.new c config solidoProgramId solidoAddress stakeTime endOfEpochThreshold =
      .ok s)
    (hopen : ∀ voteAccount ∈ s.validatorVoteAccounts, voteAccount.isSome)
    {families : List MetricFamily} (hw : s.writePrometheus input = .ok families) :
    ∃ family, families.find? (·.name == "solido_balance_sol") = some family ∧
      (family.metrics.map Metric.solValue).sum = s.getEffectiveReserve +
        (s.validatorStakeAccounts.map totalStake).sum +
        (s.validatorUnstakeAccounts.map totalStake).sum := by
  obtain ⟨ms, hms, rfl⟩ := writePrometheus_eq_ok hw
  obtain ⟨hstakeRows, hunstakeRows⟩ := metricsRows_map_of_lengths (new_metricsRows_lengths h hopen)
  have hrows : ms.map (fun m => (m.balanceSolMetrics.map Metric.solValue).sum) =
      s.metricsRows.map fun row => totalStake row.1.1.1.1.2 + totalStake row.1.1.1.2 :=
    map_of_mapM_eq_ok (fun _ _ hm => by
      obtain ⟨_, -, hsum, -⟩ := pushValidatorMetrics_empty_eq_ok hm
      exact hsum) hms
  rw [find?_prometheusFamilies (by decide), ← hstakeRows, ← hunstakeRows]
  simp [prometheusFamilies, headerFamilies, maintainerBalanceFamily, familiesAfterLoop, gauge,
    initialValidatorMetrics, ValidatorMetrics.append, ValidatorMetrics.concat, sum_map_flatMap,
    hrows, List.sum_map_add, Nat.add_assoc, Function.comp_def]

theorem new_writePrometheus_balanceSol_listed :
    SolidoState.new rentKeepingCollaborators (acceptingConfig listedClient) ⟨1⟩ ⟨2⟩ .anytime 95 =
        .ok listedSnapshot ∧
      (∀ voteAccount ∈ listedSnapshot.validatorVoteAccounts, voteAccount.isSome) ∧
      listedSnapshot.writePrometheus listedInput = .ok listedFamilies ∧
      ∃ family, listedFamilies.find? (·.name == "solido_balance_sol") = some family ∧
        (family.metrics.map Metric.solValue).sum = listedSnapshot.getEffectiveReserve +
          (listedSnapshot.validatorStakeAccounts.map totalStake).sum +
          (listedSnapshot.validatorUnstakeAccounts.map totalStake).sum :=
  ⟨new_listedClient, listedSnapshot_open, writePrometheus_listedSnapshot,
    new_writePrometheus_balanceSol new_listedClient listedSnapshot_open
      writePrometheus_listedSnapshot⟩

/-- With every vote account open, `write_prometheus` reports one identity account balance per
validator, in list order, labelled with the validator's vote account and carrying the identity
account balance, name and Keybase username at the validator's position. -/
theorem new_writePrometheus_identityAccountBalance
    (h : SolidoState.new c config solidoProgramId solidoAddress stakeTime endOfEpochThreshold =
      .ok s)
    (hopen : ∀ voteAccount ∈ s.validatorVoteAccounts, voteAccount.isSome)
    {families : List MetricFamily} (hw : s.writePrometheus input = .ok families) :
    ∃ family,
      families.find? (·.name == "solido_validator_identity_account_balance_sol") = some family ∧
      family.metrics.length = s.validators.entries.length ∧
      ∀ (i : Nat) validator, s.validators.entries[i]? = some validator →
        ∃ balance info keybaseUsername, s.validatorIdentityAccountBalances[i]? = some balance ∧
          s.validatorInfos[i]? = some info ∧ info.keybaseUsername = some keybaseUsername ∧
          family.metrics[i]? = some (MetricAnnotator.addLabels
            ⟨toString validator.pubkey, sanitizeValidatorName info.name, keybaseUsername⟩
            (Metric.newSol balance)) := by
  obtain ⟨ms, hms, rfl⟩ := writePrometheus_eq_ok hw
  obtain ⟨hstake, hunstake, hvote, hidentity, hinfos⟩ := new_metricsRows_lengths h hopen
  obtain ⟨hlen, hget⟩ := mapM_pushValidatorMetrics_identity hms
  have hrowsLen : s.metricsRows.length = s.validators.entries.length := by
    simp [metricsRows, hstake, hunstake, hvote, hidentity, hinfos]
  rw [find?_prometheusFamilies (by decide)]
  simp only [prometheusFamilies, headerFamilies, maintainerBalanceFamily, familiesAfterLoop, gauge,
    List.find?_append, List.find?_cons, List.find?_nil, List.cons_append, List.nil_append,
    String.reduceBEq, cond_false, cond_true, Option.or_some, Option.none_or, Option.some.injEq,
    exists_eq_left', initialValidatorMetrics, ValidatorMetrics.append, ValidatorMetrics.concat]
  refine ⟨hlen.trans hrowsLen, fun i validator hvalidator => ?_⟩
  obtain ⟨row, hrow⟩ : ∃ row, s.metricsRows[i]? = some row :=
    ⟨_, List.getElem?_eq_getElem (hrowsLen ▸ (List.getElem?_eq_some_iff.mp hvalidator).1)⟩
  obtain ⟨hv, -, -, -, hbalance, hinfo⟩ := metricsRows_getElem?.mp hrow
  obtain rfl := Option.some_injective _ (hv.symm.trans hvalidator)
  obtain ⟨keybaseUsername, hkeybase, hmetric⟩ := hget i row hrow
  exact ⟨row.1.2, row.2, keybaseUsername, hbalance, hinfo, hkeybase, hmetric⟩

theorem new_writePrometheus_identityAccountBalance_listed :
    SolidoState.new rentKeepingCollaborators (acceptingConfig listedClient) ⟨1⟩ ⟨2⟩ .anytime 95 =
        .ok listedSnapshot ∧
      (∀ voteAccount ∈ listedSnapshot.validatorVoteAccounts, voteAccount.isSome) ∧
      listedSnapshot.writePrometheus listedInput = .ok listedFamilies ∧
      ∃ family, listedFamilies.find? (·.name == "solido_validator_identity_account_balance_sol") =
          some family ∧
        family.metrics.length = listedSnapshot.validators.entries.length ∧
        ∀ (i : Nat) validator, listedSnapshot.validators.entries[i]? = some validator →
          ∃ balance info keybaseUsername,
            listedSnapshot.validatorIdentityAccountBalances[i]? = some balance ∧
            listedSnapshot.validatorInfos[i]? = some info ∧
            info.keybaseUsername = some keybaseUsername ∧
            family.metrics[i]? = some (MetricAnnotator.addLabels
              ⟨toString validator.pubkey, sanitizeValidatorName info.name, keybaseUsername⟩
              (Metric.newSol balance)) :=
  ⟨new_listedClient, listedSnapshot_open, writePrometheus_listedSnapshot,
    new_writePrometheus_identityAccountBalance new_listedClient listedSnapshot_open
      writePrometheus_listedSnapshot⟩

end New

end SolidoState

end Solido
