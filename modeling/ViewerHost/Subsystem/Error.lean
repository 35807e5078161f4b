import ViewerHost.Settings.Error

namespace ViewerHost

inductive SubsystemError where
  | settings (cause : SettingsError)
  | invalid (reason : String)
  | shutDown (subsystem : String)
deriving DecidableEq, Repr

namespace SubsystemError

def message? : SubsystemError → Option String
  | settings cause => cause.message?
  | invalid reason => some reason
  | shutDown subsystem => some (subsystem ++ " has been shut down")

def notPositive (key : String) (value : Int) : SubsystemError :=
  .invalid (key ++ " must be positive, got " ++ toString value)

end SubsystemError

/-- A shutdown is done, fails with an error, or breaks off, with or without a reason in words. -/
inductive Shutdown where
  | done
  | failed (cause : SubsystemError)
  | aborted (reason : Option String)
deriving DecidableEq, Repr

namespace Shutdown

def reason? : Shutdown → Option String
  | done => none
  | failed cause => some (cause.message?.getD "")
  | aborted reason => some (reason.getD "panic")

end Shutdown

/-- A manager that refuses whatever can be refused, and gives the same answers at all times. -/
structure StandIn where
  label : String
  shutdown : Shutdown
deriving DecidableEq, Repr

namespace StandIn

def refusal (s : StandIn) : SubsystemError := .invalid (s.label ++ " refuses")

end StandIn

end ViewerHost
