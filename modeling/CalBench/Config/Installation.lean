/-
What a configuration installs.

The interfaces of a configuration are built and registered one after the other, and its devices and
retry settings make an executor.
-/
import CalBench.Config.Engine
import CalBench.Link.Interface
import CalBench.Run.Executor

namespace CalBench

variable {ω : Type} [Wire ω]

/-- Builds and registers interfaces. -/
def Pool.install (p : Pool (Interface ω)) (defaults : Timeouts) (reach : Endpoint → ω) :
    List InterfaceRecord → Except LinkError (Pool (Interface ω))
  | [] => .ok p
  | r :: rest => do
    let interface ← r.build defaults reach
    Pool.install (← p.register interface) defaults reach rest

namespace EngineConfig

def pool (c : EngineConfig) (reach : Endpoint → ω) : Except LinkError (Pool (Interface ω)) :=
  Pool.install {} c.execution.timeouts reach c.interfaces

def executor (c : EngineConfig) : Executor :=
  .ofBindings c.devices (.ofAttempts c.execution.readAttempts.toNat c.execution.backoff)

end EngineConfig

end CalBench
