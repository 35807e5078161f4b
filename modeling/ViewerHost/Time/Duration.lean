import ViewerHost.Time.Instant

namespace ViewerHost

structure Duration where
  nanos : Int
deriving DecidableEq, Repr

namespace Duration

def nanosPerMilli : Int := 1000000

def ofMillis (n : Int) : Duration := ⟨n * nanosPerMilli⟩

def millis (d : Duration) : Int := d.nanos.tdiv nanosPerMilli

def seconds (d : Duration) : Int := d.nanos.tdiv Instant.nanosPerSecond

def isPositive (d : Duration) : Bool := 0 < d.nanos

theorem isPositive_iff {d : Duration} : d.isPositive = true ↔ 0 < d.nanos := by
  simp [isPositive]

end Duration

end ViewerHost
