import ViewerHost.Server.ConfigError
import ViewerHost.Subsystem.Users
import ViewerHost.Text.Quoted
import ViewerHost.Time.Duration

namespace ViewerHost

structure Session where
  id : String
  user : User
  ip : String
  created : Instant
deriving DecidableEq, Repr

structure SessionEntry where
  session : Session
  lastAccess : Instant
deriving DecidableEq, Repr

structure SessionCache where
  capacity : Nat
  lifetime : Duration
  entries : List SessionEntry
deriving DecidableEq, Repr

namespace SessionCache

def empty (capacity : Nat) (lifetime : Duration) : SessionCache := ⟨capacity, lifetime, []⟩

def capacityKey : String := "max.num.sessions"

def lifetimeKey : String := "session.time.to.live"

def ofSettings (s : Settings) : Except ConfigError SessionCache := do
  let capacity ← (s.getIntOr capacityKey 10000).mapError .settings
  if capacity ≤ 0 then
    .error (.invalidSetting capacityKey
      ("expected a positive session count, got " ++ toString capacity))
  else
    let lifetime ← (s.getIntOr lifetimeKey 86400000).mapError .settings
    if lifetime ≤ 0 then
      .error (.invalidSetting lifetimeKey
        ("expected a positive duration in ms, got " ++ toString lifetime))
    else .ok (empty capacity.toNat (.ofMillis lifetime))

def size (c : SessionCache) : Nat := c.entries.length

def find? (c : SessionCache) (id : String) : Option SessionEntry :=
  c.entries.find? (·.session.id == id)

def contains (c : SessionCache) (id : String) : Bool := (c.find? id).isSome

def drop (c : SessionCache) (id : String) : SessionCache :=
  { c with entries := c.entries.filter (·.session.id != id) }

/-- A session whose last use lies further back than the lifetime. -/
def isExpired (c : SessionCache) (now : Instant) (e : SessionEntry) : Bool :=
  c.lifetime.nanos < now.sub e.lastAccess

def touch (c : SessionCache) (id : String) (now : Instant) : SessionCache :=
  { c with entries := c.entries.map fun e =>
      if e.session.id = id then { e with lastAccess := now } else e }

def get (c : SessionCache) (id : String) (now : Instant) : SessionCache × Option Session :=
  match c.find? id with
  | none => (c, none)
  | some e =>
    if c.isExpired now e then (c.drop id, none) else (c.touch id now, some e.session)

def purge (c : SessionCache) (now : Instant) : SessionCache :=
  { c with entries := c.entries.filter fun e => !c.isExpired now e }

/-- The entry with the earliest use, and of several such entries the first. -/
def oldest? : List SessionEntry → Option SessionEntry
  | [] => none
  | e :: rest => some (rest.foldl (fun a b => if b.lastAccess.lt a.lastAccess then b else a) e)

def makeRoom (choose : List SessionEntry → Option SessionEntry) (c : SessionCache) : SessionCache :=
  if c.entries.length < c.capacity then c
  else
    match choose c.entries with
    | some e => c.drop e.session.id
    | none => c

def store (c : SessionCache) (session : Session) (now : Instant) : SessionCache :=
  { c with entries := (c.drop session.id).entries ++ [⟨session, now⟩] }

/-- Adds a session in place of one with the same identifier. Expired sessions go first, and then,
if there is no room, the one that is chosen. -/
def addWith (choose : List SessionEntry → Option SessionEntry) (c : SessionCache)
    (session : Session) (now : Instant) : SessionCache :=
  let fresh := c.purge now
  let ready := if fresh.contains session.id then fresh else fresh.makeRoom choose
  ready.store session now

def add (c : SessionCache) (session : Session) (now : Instant) : SessionCache :=
  c.addWith oldest? session now

def remove (c : SessionCache) (id : String) : SessionCache × Bool := (c.drop id, c.contains id)

def describe (c : SessionCache) : String :=
  Text.record "SessionCache" [
    ("max_sessions", toString c.capacity),
    ("ttl_ms", toString c.lifetime.millis),
    ("sessions", toString c.size)]

end SessionCache

end ViewerHost
