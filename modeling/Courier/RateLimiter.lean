import Courier.Channel
import Courier.Duration
import Courier.Table

/-! # Rate limiter

A sliding-window limiter. For each key it keeps the instants of the
admissions that may still lie in the trailing window, oldest first in the
order in which they were made. Instants are nanoseconds on a clock of their
own; a span between instants that run backwards counts as zero.
-/

namespace Courier

abbrev Instant := Int

namespace Instant

/-- Nanoseconds from `earlier` to `now`, zero if `now` is not later. -/
def since (now earlier : Instant) : Nat :=
  (now - earlier).toNat

end Instant

structure RateLimit where
  enabled : Bool
  /-- Admissions per key within one window. -/
  limit : UInt32
  windowSeconds : UInt64
  cleanupSeconds : UInt64
  deriving DecidableEq

namespace RateLimit

def defaultEnabled : Bool := true

/-- Per user and channel. -/
def defaultLimit : UInt32 := 1000

def defaultWindowSeconds : UInt64 := 60

def defaultCleanupSeconds : UInt64 := 60

def default : RateLimit where
  enabled := defaultEnabled
  limit := defaultLimit
  windowSeconds := defaultWindowSeconds
  cleanupSeconds := defaultCleanupSeconds

instance : Inhabited RateLimit := ⟨default⟩

def window (r : RateLimit) : Duration :=
  Duration.ofSeconds r.windowSeconds

end RateLimit

/-- The answer to a request for admission. -/
inductive Admission where
  | allowed (remaining limit : UInt32)
  | denied (retryAfter : Duration) (limit : UInt32)
  deriving DecidableEq

namespace Admission

def isAllowed : Admission → Bool
  | .allowed _ _ => true
  | .denied _ _ => false

end Admission

structure RateLimiter where
  config : RateLimit
  window : Duration
  admissions : Table String (List Instant)

namespace RateLimiter

/-- The smallest window; an empty one would forget every admission at once. -/
def minWindow : Duration :=
  Duration.ofSeconds 1

def withWindow (config : RateLimit) (window : Duration) : RateLimiter :=
  ⟨config, if window.isZero then minWindow else window, Table.empty⟩

def ofConfig (config : RateLimit) : RateLimiter :=
  withWindow config config.window

instance : Inhabited RateLimiter := ⟨ofConfig .default⟩

/-- A limiter with `limit` admissions in each window, of any length. -/
def withLimit (limit : UInt32) (window : Duration) : RateLimiter :=
  withWindow
    { RateLimit.default with
      limit := limit, windowSeconds := UInt64.ofNat (window.seconds) }
    window

/-- The key under which the requests of a user on a channel are counted. -/
def keyFor (user : String) (c : Channel) : String :=
  user ++ ":" ++ c.name

theorem keyFor_injective {user : String} {a b : Channel} (h : keyFor user a = keyFor user b) :
    a = b :=
  Channel.name_injective ((String.append_right_inj _).mp h)

/-- The admission still counts at `now`. -/
def isLive (l : RateLimiter) (now admitted : Instant) : Bool :=
  Instant.since now admitted < l.window.nanos

/-- The admissions of a key without those in front that left the window. -/
def prune (l : RateLimiter) (now : Instant) (admitted : List Instant) : List Instant :=
  admitted.dropWhile fun a => !l.isLive now a

def recorded (l : RateLimiter) (key : String) : List Instant :=
  l.admissions.getD key []

/-- The answer to a key with these live admissions, of whose number the last
32 bits are compared with the limit. -/
def answer (l : RateLimiter) (now : Instant) (live : List Instant) : Admission :=
  let limit := l.config.limit
  let count := UInt32.ofNat live.length
  if count < limit then .allowed (limit - count - 1) limit
  else
    -- Room is made when the oldest admission leaves the window.
    match live with
    | [] => .denied Duration.zero limit
    | oldest :: _ => .denied (l.window.less (Instant.since now oldest)) limit

/-- Admits or refuses one request for `key` at `now`. A limiter that is not
enabled admits everything and records nothing. -/
def check (l : RateLimiter) (key : String) (now : Instant) : RateLimiter × Admission :=
  if l.config.enabled then
    let live := l.prune now (l.recorded key)
    let reply := l.answer now live
    let kept := if reply.isAllowed then live ++ [now] else live
    ({ l with admissions := l.admissions.insert key kept }, reply)
  else (l, .allowed 4294967295 0)

/-- A key is kept as long as its latest admission is live. -/
def isFresh (l : RateLimiter) (now : Instant) (admitted : List Instant) : Bool :=
  match admitted.getLast? with
  | some latest => l.isLive now latest
  | none => false

/-- Drops the keys without a live admission. -/
def cleanup (l : RateLimiter) (now : Instant) : RateLimiter :=
  { l with admissions := l.admissions.filter fun _ admitted => l.isFresh now admitted }

/-- The window in whole milliseconds, of which the last 64 bits are kept. -/
def windowMillis (l : RateLimiter) : UInt64 :=
  UInt64.ofNat l.window.millis

def trackedKeys (l : RateLimiter) : Nat :=
  l.admissions.size

/-- How many keys a cleanup at `now` drops. -/
def staleKeys (l : RateLimiter) (now : Instant) : Nat :=
  l.trackedKeys - (l.cleanup now).trackedKeys

end RateLimiter

end Courier
