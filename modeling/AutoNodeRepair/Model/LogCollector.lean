import AutoNodeRepair.Model.Kube

/-!
# The log collector

`clusterstate/utils/logging.go`: the recent log items, truncated on each access by number
and by age. Both methods hold the lock for as long as they run, so a run is a sequence of
calls, each at the time that it reads from the clock. `maxItems` is never negative.
-/

namespace AutoNodeRepair

/-- `LogLevel`. -/
inductive LogLevel
  | debug | info | warning | error
  deriving DecidableEq, Repr

/-- `LogItem`. -/
structure LogItem where
  log : String
  level : LogLevel
  timestamp : Time
  deriving DecidableEq, Repr

/-- `DefaultLogCollectorMaxItems`. -/
def defaultLogCollectorMaxItems : Nat := 50

/-- `DefaultLogCollectorItemLifetime`. -/
def defaultLogCollectorItemLifetime : Duration := 15 * minute

/-- `LogCollector`. -/
structure LogCollector where
  maxItems : Nat
  itemLifetime : Duration
  store : List LogItem
  deriving DecidableEq, Repr

/-- `NewLogCollector`. -/
def newLogCollector : LogCollector where
  maxItems := defaultLogCollectorMaxItems
  itemLifetime := defaultLogCollectorItemLifetime
  store := []

namespace LogCollector

/-- `compact`: the loop moves the first index on to the first item that is new enough. -/
def compact (lc : LogCollector) (now : Time) : LogCollector :=
  let firstIndex := if lc.maxItems < lc.store.length then lc.store.length - lc.maxItems else 0
  let threshold := now + -lc.itemLifetime
  { lc with
    store := (lc.store.drop firstIndex).dropWhile fun item => !decide (threshold < item.timestamp) }

/-- `Log`. -/
def log (lc : LogCollector) (now : Time) (msg : String) (level : LogLevel) : LogCollector :=
  let item : LogItem := { log := msg, level, timestamp := now }
  let lc : LogCollector := { lc with store := lc.store ++ [item] }
  lc.compact now

/-- `GetLogs`: a copy of the compacted store, and the collector with it. -/
def getLogs (lc : LogCollector) (now : Time) : List LogItem × LogCollector :=
  ((lc.compact now).store, lc.compact now)

end LogCollector

end AutoNodeRepair
