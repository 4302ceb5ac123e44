import Solido.Token
import Solido.EpochSchedule
import Solido.State
import Solido.Allocator
import Solido.Snapshot
import Solido.EpochGate
import Solido.Duty
import Solido.Tasks
import Solido.Perf
import Solido.Lifecycle
import Solido.Rebalance
import Solido.BalanceUpdate
import Solido.Maintenance
import Solido.Layout
import Solido.Safety
import Solido.Rows
import Solido.Metrics
import Solido.Prometheus
