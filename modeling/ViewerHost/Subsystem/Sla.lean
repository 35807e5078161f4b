import ViewerHost.Subsystem.Executor

namespace ViewerHost

structure SlaStats where
  rules : Nat
  checkIntervalMs : Nat
  watched : Nat
deriving DecidableEq, Repr

structure Sla where
  checkIntervalMs : Nat
  rules : List Flow
  watched : Nat
  isShutDown : Bool
deriving DecidableEq, Repr

namespace Sla

def intervalKey : String := "sla.check.interval.ms"

def ofInterval (ms : Nat) : Sla := ⟨ms, [], 0, false⟩

def ofSettings (s : Settings) : Except SubsystemError Sla := do
  let interval ← (s.getIntOr intervalKey 60000).mapError .settings
  if interval ≤ 0 then .error (.notPositive intervalKey interval)
  else .ok (ofInterval interval.toNat)

def stopped : SubsystemError := .shutDown "SLA manager"

def addRule (s : Sla) (flow : Flow) : Except SubsystemError Sla :=
  if s.isShutDown then .error stopped
  else if flow ∈ s.rules then .ok s
  else .ok { s with rules := s.rules ++ [flow] }

def countWatched (s : Sla) (running : List (Nat × Flow)) : Nat :=
  running.countP fun execution => execution.2 ∈ s.rules

def check (s : Sla) (running : List (Nat × Flow)) : Except SubsystemError (Nat × Sla) :=
  if s.isShutDown then .error stopped
  else
    let watched := s.countWatched running
    .ok (watched, { s with watched })

def stats (s : Sla) : SlaStats := ⟨s.rules.length, s.checkIntervalMs, s.watched⟩

def shutDown (s : Sla) : Sla := { s with isShutDown := true }

end Sla

inductive SlaManager where
  | basic (s : Sla)
  | standIn (s : StandIn) (stats : SlaStats)

namespace SlaManager

def addRule (m : SlaManager) (flow : Flow) : Except SubsystemError SlaManager :=
  match m with
  | basic s => (s.addRule flow).map basic
  | standIn s _ => .error s.refusal

def check (m : SlaManager) (running : List (Nat × Flow)) :
    Except SubsystemError (Nat × SlaManager) :=
  match m with
  | basic s => (s.check running).map fun (watched, after) => (watched, basic after)
  | standIn s _ => .error s.refusal

def stats : SlaManager → SlaStats
  | basic s => s.stats
  | standIn _ stats => stats

def shutDown : SlaManager → SlaManager × Shutdown
  | basic s => (basic s.shutDown, .done)
  | standIn s stats => (standIn s stats, s.shutdown)

end SlaManager

end ViewerHost
