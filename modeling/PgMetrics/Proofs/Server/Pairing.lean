import PgMetrics.Proofs.Database.Steady
import PgMetrics.Proofs.Server.Likeness

/-!
# Two runs on databases that do not change

A server whose database answers every ping is opened once and stays registered. So two runs that
find the same database until they open it come to have the server at the same time, also if the
queries that they ask afterwards are not the same.

## Main definitions

* `Registry.Paired` — registries that both have a server, or both have to open it.
-/

namespace PgMetrics.Registry

variable {δ : Type} {b : Backend δ} {answer : Answers} {r q : Registry} {v w : World δ}

/-! ## Acquiring a server -/

theorem ping_of_steady {s : Server} (steady : w.Steady b s.fingerprint answer) :
    s.ping b w = (.ok (), (w.ping b s.fingerprint).2) := by
  have alive := steady.ping.1
  unfold Server.ping
  rcases pinged : w.ping b s.fingerprint with ⟨given, w'⟩
  rw [pinged] at alive
  obtain rfl : given = .ok () := alive
  rfl

variable {e : Endpoint}

/-- An attempt finds the server of a steady database, opens it or is refused. -/
theorem attempt_of_steady (named : Named e.fingerprint r)
    (steady : w.Steady b e.fingerprint answer) :
    (r.attempt b e w).2.2.Steady b e.fingerprint answer ∧
      ((r.servers.get? e.fingerprint).isSome → (r.attempt b e w).1.isOk) := by
  unfold attempt
  rcases openServer_cases b e r w with
    ⟨s, found, opened⟩ | ⟨absent, ⟨source, w', connecting, opened⟩ | ⟨w', connecting, opened⟩⟩
  · have steady' : w.Steady b s.fingerprint answer := (named s found).symm ▸ steady
    have pinged := steady'.ping.2
    rw [opened]
    dsimp only
    rw [ping_of_steady steady']
    exact ⟨named s found ▸ pinged, fun _ => rfl⟩
  · have connected := steady.connect
    rw [connecting] at connected
    rw [opened]
    refine ⟨connected, ?_⟩
    rw [absent]
    nofun
  · have connected := steady.connect
    rw [connecting] at connected
    have steady' : w'.Steady b (Server.open r.nextSerial e r.constantLabels).fingerprint answer :=
      connected
    have pinged := steady'.ping.2
    rw [opened]
    dsimp only
    rw [ping_of_steady steady']
    exact ⟨pinged, fun _ => rfl⟩

/-- The database stays as steady as it is, and a registered server stays registered. -/
theorem steady_acquire (named : Named e.fingerprint r) (steady : w.Steady b e.fingerprint answer) :
    (r.acquire b e w).2.2.Steady b e.fingerprint answer ∧
      ((r.servers.get? e.fingerprint).isSome →
        ((r.acquire b e w).2.1.servers.get? e.fingerprint).isSome) := by
  let P (r' : Registry) (w' : World δ) : Prop :=
    Named e.fingerprint r' ∧ w'.Steady b e.fingerprint answer ∧
      ((r.servers.get? e.fingerprint).isSome → (r'.servers.get? e.fingerprint).isSome)
  have attempt (r' : Registry) (w' : World δ) (h : P r' w') :
      P (r'.attempt b e w').2.1 (r'.attempt b e w').2.2 := by
    obtain ⟨named', steady', kept⟩ := h
    obtain ⟨served, given⟩ := served_attempt b named' w'
    obtain ⟨attempted, ok⟩ := attempt_of_steady named' steady'
    refine ⟨served.named, attempted, fun registered => ?_⟩
    have succeeded := ok (kept registered)
    cases outcome : (r'.attempt b e w').1 with
    | error error =>
      rw [outcome] at succeeded
      cases succeeded
    | ok s =>
      rw [given s outcome]
      rfl
  have sleep (r' : Registry) (w' : World δ) (span : Span) (h : P r' w') :
      P r' (w'.sleep span) :=
    ⟨h.1, h.2.1.of_sameFor (World.sameFor_sleep w' span e.fingerprint), h.2.2⟩
  exact (attempts_induction attempt sleep 0 none r.policy.maxAttempts.toNat
    ⟨named, steady, id⟩).1.2

/-- The server that is given out has the role of the endpoint. -/
theorem master_of_acquire {s : Server} (acquired : (r.acquire b e w).1 = .ok s) :
    s.master = e.master := by
  obtain ⟨-, given⟩ := attempts_induction (b := b) (e := e) (P := fun _ _ => True)
    (fun _ _ _ => trivial) (fun _ _ _ _ => trivial) 0 none r.policy.maxAttempts.toNat
    (r := r) (w := w) trivial
  obtain ⟨r', w', -, last⟩ := given s acquired
  unfold acquire at acquired
  rw [last] at acquired
  unfold attempt at acquired
  split at acquired
  case h_1 => cases acquired
  case h_2 t r'' w'' opened =>
    split at acquired
    case h_1 =>
      cases acquired
      rfl
    case h_2 => cases acquired

/-- A registered server of a steady database is given out, unless no attempt is allowed. -/
theorem isOk_acquire_of_registered (named : Named e.fingerprint r)
    (steady : w.Steady b e.fingerprint answer)
    (registered : (r.servers.get? e.fingerprint).isSome) :
    (r.acquire b e w).1.isOk = decide (r.policy.maxAttempts.toNat ≠ 0) := by
  unfold acquire
  cases left : r.policy.maxAttempts.toNat with
  | zero => rfl
  | succ left =>
    have ok := (attempt_of_steady named steady).2 registered
    unfold attempts
    rcases result : r.attempt b e w with ⟨given, r', w'⟩
    rw [result] at ok
    cases given with
    | error error => cases ok
    | ok s => rfl

/-! ## Two registries -/

/-- Both registries have a server, or both have none and find the same database. -/
inductive Paired (fingerprint : String) (r : Registry) (v : World δ) (q : Registry) (w : World δ) :
    Prop
  | registered (left : (r.servers.get? fingerprint).isSome)
      (right : (q.servers.get? fingerprint).isSome)
  | absent (left : r.servers.get? fingerprint = none) (right : q.servers.get? fingerprint = none)
      (worlds : World.SameFor fingerprint v w)

section Paired

variable {fingerprint : String} {r' q' : Registry} {v' w' : World δ}

theorem isSome_of_entry
    (entry : (r.servers.get? fingerprint).map Server.unnumbered =
      (q.servers.get? fingerprint).map Server.unnumbered) :
    (r.servers.get? fingerprint).isSome = (q.servers.get? fingerprint).isSome := by
  rw [← Option.isSome_map, entry, Option.isSome_map]

theorem Agree.paired (h : Agree fingerprint r v q w) : Paired fingerprint r v q w := by
  have both := isSome_of_entry h.entry
  cases left : r.servers.get? fingerprint with
  | none =>
    rw [left] at both
    exact .absent left (Option.isNone_iff_eq_none.mp (by simpa using both.symm)) h.worlds
  | some s =>
    rw [left] at both
    exact .registered (by rw [left]; rfl) both.symm

/-- Changes for other servers keep the pairing. -/
theorem Paired.frame (h : Paired fingerprint r v q w) (left : Agree fingerprint r v r' v')
    (right : Agree fingerprint q w q' w') : Paired fingerprint r' v' q' w' := by
  have kept := isSome_of_entry left.entry
  have kept' := isSome_of_entry right.entry
  cases h with
  | registered found found' => exact .registered (kept ▸ found) (kept' ▸ found')
  | absent gone gone' worlds =>
    rw [gone] at kept
    rw [gone'] at kept'
    exact .absent (Option.isNone_iff_eq_none.mp (by simpa using kept.symm))
      (Option.isNone_iff_eq_none.mp (by simpa using kept'.symm))
      ((left.worlds.symm.trans worlds).trans right.worlds)

/-- Paired registries come by a server at the same time. -/
theorem Paired.acquire (h : Paired e.fingerprint r v q w) (policy : r.policy = q.policy)
    (constantLabels : r.constantLabels = q.constantLabels) (named : Named e.fingerprint r)
    (named' : Named e.fingerprint q) (steady : v.Steady b e.fingerprint answer)
    (steady' : w.Steady b e.fingerprint answer) :
    (r.acquire b e v).1.isOk = (q.acquire b e w).1.isOk ∧
      Paired e.fingerprint (r.acquire b e v).2.1 (r.acquire b e v).2.2
        (q.acquire b e w).2.1 (q.acquire b e w).2.2 := by
  cases h with
  | registered left right =>
    constructor
    · rw [isOk_acquire_of_registered named steady left,
        isOk_acquire_of_registered named' steady' right, policy]
    · exact .registered ((steady_acquire named steady).2 left)
        ((steady_acquire named' steady').2 right)
  | absent left right worlds =>
    have agree : Agree e.fingerprint r v q w := by
      refine ⟨policy, constantLabels, ?_, worlds⟩
      rw [left, right]
    obtain ⟨answer, agree'⟩ := agree.acquire b named
    refine ⟨?_, agree'.paired⟩
    rw [← isOk_map Server.unnumbered, answer, isOk_map]

end Paired

end PgMetrics.Registry
