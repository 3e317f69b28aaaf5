import PgMetrics.Proofs.Server.Connections
import PgMetrics.Proofs.Time.Span

/-!
# The attempts to get a server

To get a server the registry makes one attempt after another, until a ping is answered or the
attempts that its policy allows are spent. An attempt connects if no server is registered and pings
the server that it has; one that fails leaves none registered and is followed by a wait, unless it
is the last.

## Main definitions

* `Registry.Trial` — how one attempt goes, with what is logged of it.
* `Registry.Tried` — what an attempt does, in the order in which it does it.
* `Registry.Course` — attempts in a row, with the waits between them.
* `Registry.Told` — what is told of one attempt.
* `Registry.Settled` — what comes of all of them.

## Main results

* `Registry.acquire_spends_budget` — an acquisition is such a course, within its budget.
-/

namespace PgMetrics.Registry

/-- How an attempt to get a server goes. The server that is pinged is new or was registered. -/
inductive Trial where
  /-- No server is registered and the connection is refused. -/
  | refused (source : DbError)
  /-- The ping is not answered. -/
  | silent (new : Bool) (source : DbError)
  /-- The ping is answered. -/
  | healthy (new : Bool)
  deriving DecidableEq

namespace Trial

/-- Whether a connection is asked for. -/
def connects : Trial → Bool
  | .refused _ => true
  | .silent new _ => new
  | .healthy new => new

/-- Whether there is a server to ping. -/
def pings : Trial → Bool
  | .refused _ => false
  | .silent _ _ => true
  | .healthy _ => true

/-- Why the attempt fails, if it does. -/
def fault? (server : String) : Trial → Option ConnectionError
  | .refused source => some (.opening server source)
  | .silent _ source => some (.ping server source)
  | .healthy _ => none

/-- Whether a ping is answered. -/
def succeeds : Trial → Bool
  | .healthy _ => true
  | _ => false

/-- The connection of a server that is new. -/
def opening (server : String) (new : Bool) : List Event :=
  if new then [.connect server true] else []

/-- What is logged of an attempt. A server that does not answer is closed. -/
def events (server : String) : Trial → List Event
  | .refused _ => [.connect server false]
  | .silent new _ => opening server new ++ [.ping server false, .close server]
  | .healthy new => opening server new ++ [.ping server true]

/-- The wait after attempt number `i`, if it fails and is not the last. -/
def wait (policy : RetryPolicy) (i : Nat) (t : Trial) : List Event :=
  if t.succeeds = false ∧ i < policy.maxAttempts.toNat then [.sleep (policy.backoff i)] else []

/-- What is logged of attempts in a row, before which `done` were made. -/
def eventsAfter (policy : RetryPolicy) (server : String) (done : Nat) (trials : List Trial) :
    List Event :=
  (trials.zipIdx (done + 1)).flatMap fun (t, i) => t.events server ++ t.wait policy i

theorem eventsAfter_cons (policy : RetryPolicy) (server : String) (done : Nat) (t : Trial)
    (rest : List Trial) :
    eventsAfter policy server done (t :: rest) =
      t.events server ++ t.wait policy (done + 1) ++ eventsAfter policy server (done + 1) rest := by
  simp [eventsAfter]

theorem succeeds_of_fault? {t : Trial} {server : String} {error : ConnectionError}
    (h : t.fault? server = some error) : t.succeeds = false := by
  cases t <;> simp_all [fault?, succeeds]

end Trial

variable {δ : Type}

/-- A connection is asked for only if no server is registered. -/
def contact (b : Backend δ) (e : Endpoint) (registered : Bool) (w : World δ) :
    Except DbError Unit × World δ :=
  if registered then (.ok (), w) else w.connect b e

/-- The trial is what the databases answer. -/
inductive AnsweredAs (b : Backend δ) (e : Endpoint) (registered : Bool) (w : World δ) :
    Trial → World δ → Prop
  | refused {source : DbError} {w₁ : World δ}
      (contacted : contact b e registered w = (.error source, w₁)) :
      AnsweredAs b e registered w (.refused source) w₁
  | silent {source : DbError} {w₁ w₂ : World δ}
      (contacted : contact b e registered w = (.ok (), w₁))
      (pinged : w₁.ping b e.fingerprint = (.error source, w₂)) :
      AnsweredAs b e registered w (.silent (!registered) source) (w₂.close b e.fingerprint)
  | healthy {w₁ w₂ : World δ} (contacted : contact b e registered w = (.ok (), w₁))
      (pinged : w₁.ping b e.fingerprint = (.ok (), w₂)) :
      AnsweredAs b e registered w (.healthy (!registered)) w₂

/-- An attempt connects exactly if no server is registered when it begins, and pings exactly if one
is or the connection is opened. After it a server is registered exactly if the ping is answered. -/
structure Tried (b : Backend δ) (e : Endpoint) (r : Registry) (w : World δ) (t : Trial)
    (r' : Registry) (w' : World δ) : Prop where
  answers : AnsweredAs b e (r.servers.contains e.fingerprint) w t w'
  connects : t.connects = !r.servers.contains e.fingerprint
  pings : t.pings = (r.servers.contains e.fingerprint || (w.connect b e).1.isOk)
  log : w'.log = w.log ++ t.events e.fingerprint
  registers : r'.servers.contains e.fingerprint = t.succeeds
  policy : r'.policy = r.policy

/-- Attempts in a row that go as the trials say, after `done` others. Each but the last fails and is
followed by a wait. -/
inductive Course (b : Backend δ) (e : Endpoint) :
    Nat → Registry → World δ → List Trial → Registry → World δ → Prop
  | last {done : Nat} {r r' : Registry} {w w' : World δ} {t : Trial}
      (tried : Tried b e r w t r' w') : Course b e done r w [t] r' w'
  | next {done : Nat} {r r' r'' : Registry} {w w' w'' : World δ} {t : Trial} {rest : List Trial}
      (tried : Tried b e r w t r' w') (failed : t.succeeds = false)
      (later : Course b e (done + 1) r' (w'.sleep (r.policy.backoff (done + 1))) rest r'' w'') :
      Course b e done r w (t :: rest) r'' w''

/-- What comes of attempts in a row after `done` others: the server that is registered then, or the
fault of the last one once the budget is spent. -/
inductive Settled (e : Endpoint) (budget done : Nat) (r : Registry) :
    List Trial → Except ConnectionError Server → Registry → Prop
  | served {earlier : List Trial} {new : Bool} {s : Server} {r' : Registry}
      (failed : ∀ t ∈ earlier, t.succeeds = false)
      (registered : r'.servers.get? e.fingerprint = some s) (role : s.master = e.master)
      (same : earlier = [] → ∀ s₀, r.servers.get? e.fingerprint = some s₀ →
        s = { s₀ with master := e.master }) :
      Settled e budget done r (earlier ++ [.healthy new]) (.ok s) r'
  | exhausted {trials : List Trial} {last : Trial} {error : ConnectionError} {r' : Registry}
      (spent : done + trials.length = budget) (failed : ∀ t ∈ trials, t.succeeds = false)
      (isLast : trials.getLast? = some last) (fault : last.fault? e.fingerprint = some error)
      (absent : r'.servers.get? e.fingerprint = none) :
      Settled e budget done r trials (.error (.retriesExhausted e.fingerprint budget error)) r'

/-! ## One attempt -/

section Attempt

variable {b : Backend δ} {e : Endpoint} {registered : Bool} {w w' : World δ} {t : Trial}

theorem contact_eq_error {source : DbError}
    (h : contact b e registered w = (.error source, w')) :
    registered = false ∧ w.connect b e = (.error source, w') := by
  cases registered with
  | true => cases h
  | false => exact ⟨rfl, h⟩

theorem isOk_of_contact (h : contact b e registered w = (.ok (), w')) :
    (registered || (w.connect b e).1.isOk) = true := by
  cases registered with
  | true => rfl
  | false =>
    have connected : w.connect b e = (.ok (), w') := h
    rw [connected]
    rfl

theorem log_connect (b : Backend δ) (e : Endpoint) (w : World δ) :
    (w.connect b e).2.log = w.log ++ [.connect e.fingerprint (w.connect b e).1.isOk] := rfl

theorem log_ping (b : Backend δ) (server : String) (w : World δ) :
    (w.ping b server).2.log = w.log ++ [.ping server (w.ping b server).1.isOk] := rfl

/-- A contact that is made adds the opening of a new connection to the log. -/
theorem log_of_contact (h : contact b e registered w = (.ok (), w')) :
    w'.log = w.log ++ Trial.opening e.fingerprint (!registered) := by
  cases registered with
  | true =>
    cases h
    exact (List.append_nil _).symm
  | false =>
    have connected : w.connect b e = (.ok (), w') := h
    have log := log_connect b e w
    rw [connected] at log
    exact log

namespace AnsweredAs

theorem connects_eq (h : AnsweredAs b e registered w t w') : t.connects = !registered := by
  cases h with
  | refused contacted =>
    rw [(contact_eq_error contacted).1]
    rfl
  | silent | healthy => rfl

theorem pings_eq (h : AnsweredAs b e registered w t w') :
    t.pings = (registered || (w.connect b e).1.isOk) := by
  cases h with
  | refused contacted =>
    obtain ⟨absent, connected⟩ := contact_eq_error contacted
    rw [absent, connected]
    rfl
  | silent contacted | healthy contacted => exact (isOk_of_contact contacted).symm

theorem log_eq (h : AnsweredAs b e registered w t w') :
    w'.log = w.log ++ t.events e.fingerprint := by
  cases h with
  | refused contacted =>
    obtain ⟨-, connected⟩ := contact_eq_error contacted
    have log := log_connect b e w
    rw [connected] at log
    exact log
  | @silent source w₁ w₂ contacted pinged =>
    have log := log_ping b e.fingerprint w₁
    rw [pinged, log_of_contact contacted] at log
    have closed : (w₂.close b e.fingerprint).log = w₂.log ++ [.close e.fingerprint] := rfl
    rw [closed, log, List.append_assoc, List.append_assoc]
    rfl
  | @healthy w₁ w₂ contacted pinged =>
    have log := log_ping b e.fingerprint w₁
    rw [pinged, log_of_contact contacted, List.append_assoc] at log
    exact log

end AnsweredAs

/-- The server of an endpoint is the registered one, or a new one after a contact, or there is
none. -/
theorem openServer_of_contact (b : Backend δ) {e : Endpoint} {r : Registry}
    (named : Named e.fingerprint r) (w : World δ) :
    (∃ source w₁, contact b e (r.servers.contains e.fingerprint) w = (.error source, w₁) ∧
      r.openServer b e w = (.error (.opening e.fingerprint source), r, w₁)) ∨
    ∃ s r₁ w₁, contact b e (r.servers.contains e.fingerprint) w = (.ok (), w₁) ∧
      r.openServer b e w = (.ok s, r₁, w₁) ∧ s.fingerprint = e.fingerprint ∧
      ∀ s₀, r.servers.get? e.fingerprint = some s₀ → s = s₀ := by
  rcases openServer_cases b e r w with
    ⟨s, found, opened⟩ | ⟨absent, ⟨source, w₁, connected, opened⟩ | ⟨w₁, connected, opened⟩⟩
  · have registered : r.servers.contains e.fingerprint = true := by simp [Dict.contains, found]
    refine .inr ⟨s, r, w, ?_, opened, named s found, ?_⟩
    · rw [registered]
      rfl
    · intro s₀ found'
      exact Option.some.inj (found.symm.trans found')
  · have unregistered : r.servers.contains e.fingerprint = false := by
      simp [Dict.contains, absent]
    refine .inl ⟨source, w₁, ?_, opened⟩
    rw [unregistered]
    exact connected
  · have unregistered : r.servers.contains e.fingerprint = false := by
      simp [Dict.contains, absent]
    refine .inr ⟨_, _, w₁, ?_, opened, rfl, ?_⟩
    · rw [unregistered]
      exact connected
    · intro s₀ found
      rw [absent] at found
      cases found

theorem AnsweredAs.tried {r r' : Registry}
    (h : AnsweredAs b e (r.servers.contains e.fingerprint) w t w')
    (registers : r'.servers.contains e.fingerprint = t.succeeds) (policy : r'.policy = r.policy) :
    Tried b e r w t r' w' :=
  ⟨h, h.connects_eq, h.pings_eq, h.log_eq, registers, policy⟩

/-- What is told of an attempt by its answer: the fault, or the server that is registered now. -/
def Told (e : Endpoint) (r : Registry) (t : Trial) (r' : Registry) :
    Except ConnectionError Server → Prop
  | .error error => t.fault? e.fingerprint = some error
  | .ok s => (∃ new, t = .healthy new) ∧ r'.servers.get? e.fingerprint = some s ∧
      s.master = e.master ∧
      ∀ s₀, r.servers.get? e.fingerprint = some s₀ → s = { s₀ with master := e.master }

theorem exists_tried (b : Backend δ) {e : Endpoint} {r : Registry}
    (named : Named e.fingerprint r) (w : World δ) :
    ∃ t, Tried b e r w t (r.attempt b e w).2.1 (r.attempt b e w).2.2 ∧
      Told e r t (r.attempt b e w).2.1 (r.attempt b e w).1 := by
  have policy := (served_attempt b named w).1.policy
  rcases openServer_of_contact b named w with
    ⟨source, w₁, contacted, opened⟩ | ⟨s, r₁, w₁, contacted, opened, name, same⟩
  · have attempted : r.attempt b e w = (.error (.opening e.fingerprint source), r, w₁) := by
      unfold attempt
      rw [opened]
    rw [attempted]
    exact ⟨.refused source,
      (AnsweredAs.refused contacted).tried (contact_eq_error contacted).1 rfl, rfl⟩
  · rcases pinged : w₁.ping b e.fingerprint with ⟨answer, w₂⟩
    cases answer with
    | error source =>
      have attempted : r.attempt b e w = (.error (.ping e.fingerprint source),
          r₁.drop e.fingerprint, w₂.close b e.fingerprint) := by
        unfold attempt Server.ping
        simp only [opened, name, pinged]
      rw [attempted] at policy ⊢
      refine ⟨_, (AnsweredAs.silent contacted pinged).tried ?_ policy, rfl⟩
      simp [Dict.contains, get?_drop, Trial.succeeds]
    | ok =>
      let t : Server := { s with master := e.master }
      have attempted : r.attempt b e w = (.ok t, r₁.put t, w₂) := by
        unfold attempt Server.ping
        simp only [opened, name, pinged, t]
      have registered : (r₁.put t).servers.get? e.fingerprint = some t :=
        (get?_put r₁ t _).trans (if_pos name.symm)
      rw [attempted] at policy ⊢
      refine ⟨_, (AnsweredAs.healthy contacted pinged).tried ?_ policy, ⟨_, rfl⟩, registered, rfl,
        ?_⟩
      · rw [Dict.contains, registered]
        rfl
      · intro s₀ found
        exact congrArg (fun s : Server => { s with master := e.master }) (same s₀ found)

end Attempt

/-! ## Attempts in a row -/

section Attempts

variable {b : Backend δ} {e : Endpoint} {r : Registry} {w : World δ}

/-- A failed attempt before the settled ones does not change what comes of them. -/
theorem Settled.cons {budget done : Nat} {r' r'' : Registry} {t : Trial} {rest : List Trial}
    {answer : Except ConnectionError Server} (failed : t.succeeds = false)
    (later : Settled e budget (done + 1) r' rest answer r'') :
    Settled e budget done r (t :: rest) answer r'' := by
  cases later with
  | served others registered role =>
    rw [← List.cons_append]
    exact .served (List.forall_mem_cons.mpr ⟨failed, others⟩) registered role nofun
  | exhausted spent others isLast fault absent =>
    refine .exhausted ?_ (List.forall_mem_cons.mpr ⟨failed, others⟩) ?_ fault absent
    · rw [← spent, List.length_cons]
      omega
    · rw [List.getLast?_cons, isLast]
      rfl

/-- An attempt that gives a server ends the course. -/
theorem Tried.course_of_ok {budget done : Nat} {t : Trial} {r' : Registry} {w' : World δ}
    {s : Server} (tried : Tried b e r w t r' w') (told : Told e r t r' (.ok s)) :
    Course b e done r w [t] r' w' ∧
      w'.log = w.log ++ Trial.eventsAfter r.policy e.fingerprint done [t] ∧
      Settled e budget done r [t] (.ok s) r' := by
  obtain ⟨⟨new, rfl⟩, registered, role, same⟩ := told
  refine ⟨.last tried, ?_, ?_⟩
  · rw [tried.log, Trial.eventsAfter_cons, Trial.wait, if_neg (by simp [Trial.succeeds])]
    simp [Trial.eventsAfter]
  · rw [← List.nil_append [Trial.healthy new]]
    exact .served nofun registered role fun _ => same

/-- The last attempt of the budget is followed by no wait. -/
theorem Tried.course_of_error {done : Nat} {t : Trial} {r' : Registry} {w' : World δ}
    {error : ConnectionError} (tried : Tried b e r w t r' w') (told : Told e r t r' (.error error))
    (spent : done + 1 = r.policy.maxAttempts.toNat) :
    Course b e done r w [t] r' w' ∧
      w'.log = w.log ++ Trial.eventsAfter r.policy e.fingerprint done [t] ∧
      Settled e r.policy.maxAttempts.toNat done r [t]
        (.error (.retriesExhausted e.fingerprint r.policy.maxAttempts.toNat error)) r' := by
  have failed : t.succeeds = false := Trial.succeeds_of_fault? told
  refine ⟨.last tried, ?_, .exhausted spent (by simpa using failed) rfl told ?_⟩
  · rw [tried.log, Trial.eventsAfter_cons, Trial.wait, if_neg (by omega)]
    simp [Trial.eventsAfter]
  · have unregistered := tried.registers
    rw [failed] at unregistered
    simpa [Dict.contains] using unregistered

/-- Attempts go on to the first ping that is answered, as long as some are left. -/
theorem exists_course (b : Backend δ) {e : Endpoint} {left done : Nat}
    (last : Option ConnectionError) {r : Registry} (named : Named e.fingerprint r) (w : World δ)
    (allowed : 0 < left) (budget : done + left = r.policy.maxAttempts.toNat) :
    let x := r.attempts b e done last left w
    ∃ trials, trials.length ≤ left ∧ Course b e done r w trials x.2.1 x.2.2 ∧
      x.2.2.log = w.log ++ Trial.eventsAfter r.policy e.fingerprint done trials ∧
      Settled e r.policy.maxAttempts.toNat done r trials x.1 x.2.1 := by
  induction left generalizing done last r w with
  | zero => omega
  | succ left ih =>
    obtain ⟨t, tried, told⟩ := exists_tried b named w
    have named' := (served_attempt b named w).1.named
    unfold attempts
    generalize r.attempt b e w = result at tried told named' ⊢
    obtain ⟨answer, r', w'⟩ := result
    cases answer with
    | ok s => exact ⟨[t], by simp, tried.course_of_ok told⟩
    | error error =>
      dsimp only at tried told named' ⊢
      rcases Nat.eq_zero_or_pos left with rfl | more
      · have exhausted := tried.course_of_error told budget
        rw [← budget] at exhausted ⊢
        exact ⟨[t], le_rfl, exhausted⟩
      · have failed : t.succeeds = false := Trial.succeeds_of_fault? told
        have remaining : done + 1 + left = r'.policy.maxAttempts.toNat := by
          rw [tried.policy]
          omega
        obtain ⟨rest, count, course, log, settled⟩ := ih (some error) named'
          (w'.sleep (r'.policy.backoff (done + 1))) more remaining
        rw [tried.policy] at course log settled ⊢
        rw [if_neg (by omega)]
        refine ⟨t :: rest, by simpa using count, .next tried failed course, ?_, settled.cons failed⟩
        have slept : (w'.sleep (r.policy.backoff (done + 1))).log =
            w'.log ++ [.sleep (r.policy.backoff (done + 1))] := rfl
        have waits : t.wait r.policy (done + 1) = [.sleep (r.policy.backoff (done + 1))] :=
          if_pos ⟨failed, by omega⟩
        rw [log, slept, tried.log, Trial.eventsAfter_cons, waits]
        simp only [List.append_assoc]

end Attempts

/-- To get a server takes attempts up to the first ping that is answered, and no more than the
policy allows. Each connects exactly if no server is registered and pings exactly if it has one;
each that fails, but the last one allowed, is followed by a wait of as many steps as attempts were
made. The server that answers is the registered one, in the role of the endpoint; if none answers,
the last fault is told and none is registered. A registered server has its fingerprint for its own
in every registry that was run, by `regular_run`. -/
theorem acquire_spends_budget (b : Backend δ) {e : Endpoint} {r : Registry}
    (named : Named e.fingerprint r) (budget : 1 ≤ r.policy.maxAttempts) (w : World δ) :
    let x := r.acquire b e w
    (∃ trials, trials ≠ [] ∧ trials.length ≤ r.policy.maxAttempts.toNat ∧
      Course b e 0 r w trials x.2.1 x.2.2 ∧
      x.2.2.log = w.log ++ Trial.eventsAfter r.policy e.fingerprint 0 trials ∧
      Settled e r.policy.maxAttempts.toNat 0 r trials x.1 x.2.1) ∧
    ∀ i, (r.policy.backoff i).total = min (i * r.policy.step.total) Span.greatest.total := by
  have allowed : 0 < r.policy.maxAttempts.toNat := UInt32.le_iff_toNat_le.mp budget
  obtain ⟨trials, count, course, log, settled⟩ :=
    exists_course b none named w allowed (Nat.zero_add _)
  refine ⟨⟨trials, ?_, count, course, log, settled⟩, fun i => r.policy.step.total_scale i⟩
  cases course <;> exact List.cons_ne_nil _ _

namespace Flaky

/-- Databases that answer connections and pings as a list says, and all of them after that. -/
def backend : Backend (List Bool) where
  connect _ answers := (answer answers, answers.tail)
  ping answers := (answer answers, answers.tail)
  query _ answers := (.ok ⟨[], []⟩, answers)
  close answers := answers
where
  answer : List Bool → Except DbError Unit
    | false :: _ => .error (.connect "no answer")
    | _ => .ok ()

/-- A registry that has a server. -/
def registry : Registry := (empty .standard .empty).put (.open 0 .localhost .empty)

/-- The registered server does not answer, a connection is refused, and another is opened. -/
def world : World (List Bool) := ⟨fun _ => [false, false, true, true], []⟩

/-- All three attempts are made, with the two waits between them. -/
theorem course_of_flaky :
    (Named Endpoint.localhost.fingerprint registry ∧ 1 ≤ registry.policy.maxAttempts) ∧
      (∃ trials, trials.length ≤ 3 ∧
        Course backend .localhost 0 registry world trials
          (registry.acquire backend .localhost world).2.1
          (registry.acquire backend .localhost world).2.2 ∧
        Settled .localhost 3 0 registry trials (registry.acquire backend .localhost world).1
          (registry.acquire backend .localhost world).2.1) ∧
      (registry.acquire backend .localhost world).2.2.log =
        [.ping "localhost:5432" false, .close "localhost:5432", .sleep (.ofMillis 1000),
          .connect "localhost:5432" false, .sleep (.ofMillis 2000),
          .connect "localhost:5432" true, .ping "localhost:5432" true] := by
  have named : Named Endpoint.localhost.fingerprint registry := named_put rfl _
  have budget : 1 ≤ registry.policy.maxAttempts := by decide
  obtain ⟨⟨trials, -, count, course, -, settled⟩, -⟩ :=
    acquire_spends_budget backend named budget world
  exact ⟨⟨named, budget⟩, ⟨trials, count, course, settled⟩, by decide +kernel⟩

end Flaky

end PgMetrics.Registry
