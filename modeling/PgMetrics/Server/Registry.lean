import PgMetrics.Server.Basic

/-!
# The registry of servers

The registry keeps one server for each fingerprint. A server is opened when it is first asked for,
checked every time, and dropped when the check fails; the attempts are limited and spaced out.

## Main definitions

* `RetryPolicy`, `RetryPolicy.backoff`.
* `Registry.acquire`: a healthy server, or why there is none.
* `Registry.evict`, `Registry.closeAll`.
-/

namespace PgMetrics

/-- How often an attempt is made and how long the first wait is. -/
structure RetryPolicy where
  maxAttempts : UInt32
  step : Span
  deriving DecidableEq

namespace RetryPolicy

/-- Three attempts, one second apart and then two. -/
def standard : RetryPolicy := ⟨3, .ofMillis 1000⟩

instance : Inhabited RetryPolicy := ⟨standard⟩

/-- The wait after an attempt: the step as many times. -/
def backoff (p : RetryPolicy) (attempt : Nat) : Span := p.step.scale attempt

end RetryPolicy

/-- Servers by fingerprint. -/
structure Registry where
  policy : RetryPolicy
  constantLabels : Dict String String
  servers : Dict String Server
  /-- The serial number of the next server. -/
  nextSerial : Nat

namespace Registry

variable {δ : Type}

def empty (policy : RetryPolicy) (constantLabels : Dict String String) : Registry :=
  ⟨policy, constantLabels, .empty, 0⟩

/-- Puts a server under its fingerprint. -/
def put (r : Registry) (s : Server) : Registry :=
  { r with servers := r.servers.insert s.fingerprint s }

/-- Takes the server of a fingerprint out. -/
def drop (r : Registry) (fingerprint : String) : Registry :=
  { r with servers := r.servers.erase fingerprint }

/-- The registered server of an endpoint, or a new connection to it. -/
def openServer (b : Backend δ) (e : Endpoint) (r : Registry) (w : World δ) :
    Except ConnectionError Server × Registry × World δ :=
  match r.servers.get? e.fingerprint with
  | some s => (.ok s, r, w)
  | none =>
    match w.connect b e with
    | (.ok (), w) =>
      let s := Server.open r.nextSerial e r.constantLabels
      (.ok s, { r.put s with nextSerial := r.nextSerial + 1 }, w)
    | (.error source, w) => (.error (.opening e.fingerprint source), r, w)

/-- One attempt to get a healthy server. -/
def attempt (b : Backend δ) (e : Endpoint) (r : Registry) (w : World δ) :
    Except ConnectionError Server × Registry × World δ :=
  match r.openServer b e w with
  | (.error e, r, w) => (.error e, r, w)
  | (.ok s, r, w) =>
    match s.ping b w with
    | (.ok (), w) =>
      let s := { s with master := e.master }
      (.ok s, r.put s, w)
    | (.error error, w) => (.error error, r.drop e.fingerprint, w)

/-- The attempts from the one with number `done + 1` on, `left` of them. Between two attempts there
is a wait, after the last there is none. -/
def attempts (b : Backend δ) (e : Endpoint) (done : Nat) (last : Option ConnectionError) :
    (left : Nat) → Registry → World δ → Except ConnectionError Server × Registry × World δ
  | 0, r, w =>
    match last with
    | some last => (.error (.retriesExhausted e.fingerprint done last), r, w)
    | none =>
      (.error (.opening e.fingerprint (.connect "no connection attempts allowed")), r, w)
  | left + 1, r, w =>
    match r.attempt b e w with
    | (.ok s, r, w) => (.ok s, r, w)
    | (.error error, r, w) =>
      let w := if left = 0 then w else w.sleep (r.policy.backoff (done + 1))
      attempts b e (done + 1) (some error) left r w

/-- A healthy server for an endpoint. -/
def acquire (b : Backend δ) (e : Endpoint) (r : Registry) (w : World δ) :
    Except ConnectionError Server × Registry × World δ :=
  attempts b e 0 none r.policy.maxAttempts.toNat r w

/-- Drops and closes a server; tells whether it was registered. -/
def evict (b : Backend δ) (fingerprint : String) (r : Registry) (w : World δ) :
    Bool × Registry × World δ :=
  if r.servers.contains fingerprint then (true, r.drop fingerprint, w.close b fingerprint)
  else (false, r, w)

def closeAll (b : Backend δ) (r : Registry) (w : World δ) : Registry × World δ :=
  ({ r with servers := .empty }, r.servers.values.foldl (fun w s => w.close b s.fingerprint) w)

def size (r : Registry) : Nat := r.servers.size

end Registry

end PgMetrics
