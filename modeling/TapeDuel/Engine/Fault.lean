/-!
# Faults of the engine

The engine checks nothing at run time that a compiled program and valid round
parameters guarantee. A program that was made by hand can break these guarantees; the
run then ends in a fault.
-/

namespace TapeDuel

/-- How a run can leave what the engine is made for. -/
inductive Fault where
  /-- The instruction pointer is below the program. -/
  | noInstruction
  /-- A counted loop ends that was never entered. -/
  | noCounter
  /-- A cell outside the tape is used. -/
  | noCell
  /-- Something larger than memory is asked for. -/
  | noRoom
  /-- The bookkeeping of counted loops goes on without a turn in sight. -/
  | stalled
deriving DecidableEq, Repr

end TapeDuel
