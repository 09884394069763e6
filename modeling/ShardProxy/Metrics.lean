import ShardProxy.Binary64

/-!
# Metrics of the executor

Words of 64 bits that count executions: those that a backend carried out, those it answered with an
error, and the commands that failed for another reason. Averages and rates are over the executions
that reached a backend.
-/

namespace ShardProxy

/-- The counts; `time` is the sum of the microseconds of the executions that were carried out. -/
structure Metrics where
  executed : UInt64
  failed : UInt64
  faults : UInt64
  time : UInt64
deriving DecidableEq

namespace Metrics

def zero : Metrics := ⟨0, 0, 0, 0⟩

/-- An execution was carried out. -/
def success (m : Metrics) (micros : UInt64) : Metrics :=
  { m with executed := m.executed + 1, time := m.time + micros }

/-- An execution was answered with an error. -/
def failure (m : Metrics) : Metrics := { m with failed := m.failed + 1 }

/-- A command failed. -/
def fault (m : Metrics) : Metrics := { m with faults := m.faults + 1 }

/-- The executions that reached a backend. -/
def total (m : Metrics) : UInt64 := m.executed + m.failed

/-- The average time of an execution in whole microseconds. -/
def average? (m : Metrics) : Option UInt64 :=
  if m.executed = 0 then none else some (m.time / m.executed)

/-- The share of executions that were carried out, in percent; all of them if there were none. -/
def successRate (m : Metrics) : Binary64 :=
  if m.total = 0 then .ofInt 100
  else ((Binary64.ofInt m.executed.toNat).div (.ofInt m.total.toNat)).mul (.ofInt 100)

end Metrics

end ShardProxy
