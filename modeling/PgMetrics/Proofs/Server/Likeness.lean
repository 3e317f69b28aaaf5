import PgMetrics.Proofs.Outcome
import PgMetrics.Proofs.Server.Connections

/-!
# Two runs that look the same to a server

Two worlds may differ in everything that concerns other servers. As long as the database of a server
and the server itself are the same in both, everything that is done with the server has the same
outcome and leaves both the same again. Serial numbers are handed out across all servers, so they
are left out of the comparison.

## Main definitions

* `Server.unnumbered` — a server without its serial number.
* `Server.Twins`, `Registry.Agree` — states of two runs that are the same for one server.
-/

namespace PgMetrics

namespace Server

variable {δ : Type}

/-- A server without its serial number. -/
def unnumbered (s : Server) : Server := { s with serial := 0 }

theorem exists_serial {s t : Server} (h : s.unnumbered = t.unnumbered) :
    ∃ serial, t = { s with serial } := by
  refine ⟨t.serial, ?_⟩
  cases s
  cases t
  cases h
  rfl

theorem unnumbered_withVersion (s : Server) (serial : Nat) (c : Catalog) (v : Version) :
    (withVersion { s with serial } c v).unnumbered = (s.withVersion c v).unnumbered := by
  unfold withVersion
  split <;> rfl

/-- A server and its world in two runs. -/
structure Twins (server : String) (s : Server) (v : World δ) (t : Server) (w : World δ) : Prop where
  named : s.fingerprint = server
  alike : s.unnumbered = t.unnumbered
  worlds : World.SameFor server v w

section Twins

variable (b : Backend δ) {server : String} {s t : Server} {v w : World δ}

theorem Twins.ping (h : Twins server s v t w) :
    (s.ping b v).1 = (t.ping b w).1 ∧ World.SameFor server (s.ping b v).2 (t.ping b w).2 := by
  obtain ⟨rfl, alike, worlds⟩ := h
  obtain ⟨serial, rfl⟩ := exists_serial alike
  obtain ⟨answer, pinged⟩ := worlds.ping b
  unfold Server.ping
  dsimp only
  obtain ⟨a, v', w', first, second⟩ := exists_outcome answer
  rw [first, second] at pinged ⊢
  cases a with
  | ok => exact ⟨rfl, pinged⟩
  | error e => exact ⟨rfl, pinged.close b⟩

theorem Twins.refresh (h : Twins server s v t w) (c : Catalog) :
    (s.refresh b c v).1 = (t.refresh b c w).1 ∧
      Twins server (s.refresh b c v).2.1 (s.refresh b c v).2.2 (t.refresh b c w).2.1
        (t.refresh b c w).2.2 := by
  obtain ⟨rfl, alike, worlds⟩ := h
  obtain ⟨serial, rfl⟩ := exists_serial alike
  obtain ⟨answer, asked⟩ := worlds.query b versionQuery
  unfold Server.refresh detectVersion
  dsimp only
  rw [answer]
  generalize versionOf s.fingerprint (w.query b s.fingerprint versionQuery).1 = version
  cases version with
  | error e => exact ⟨rfl, rfl, rfl, asked⟩
  | ok info =>
    have named : (s.withVersion c info.version).fingerprint = s.fingerprint := by
      rw [withVersion_eq]
    exact ⟨rfl, named, (unnumbered_withVersion s serial c info.version).symm, asked⟩

theorem Twins.visitNamespace (h : Twins server s v t w) (now : Instant) (namespaceName : String)
    (schema : Schema) :
    (s.visitNamespace b now namespaceName schema v).1 =
        (t.visitNamespace b now namespaceName schema w).1 ∧
      Twins server (s.visitNamespace b now namespaceName schema v).2.1
        (s.visitNamespace b now namespaceName schema v).2.2
        (t.visitNamespace b now namespaceName schema w).2.1
        (t.visitNamespace b now namespaceName schema w).2.2 := by
  obtain ⟨rfl, alike, worlds⟩ := h
  obtain ⟨serial, rfl⟩ := exists_serial alike
  have numbered : readNamespace b { s with serial } namespaceName schema w =
      s.readNamespace b namespaceName schema w := rfl
  have reading : (s.readNamespace b namespaceName schema v).1 =
        (s.readNamespace b namespaceName schema w).1 ∧
      World.SameFor s.fingerprint (s.readNamespace b namespaceName schema v).2
        (s.readNamespace b namespaceName schema w).2 := by
    unfold readNamespace
    split
    case h_1 => exact ⟨rfl, worlds⟩
    case h_2 sql _ =>
      obtain ⟨answer, asked⟩ := worlds.query b sql
      exact ⟨congrArg (s.batchOf namespaceName schema) answer, asked⟩
  unfold Server.visitNamespace
  dsimp only
  rw [numbered]
  split
  case isTrue => exact ⟨rfl, rfl, rfl, worlds⟩
  case isFalse =>
    cases s.cache.check namespaceName schema.cacheSeconds now with
    | replay metrics => exact ⟨rfl, rfl, rfl, worlds⟩
    | scrape =>
      obtain ⟨answer, asked⟩ := reading
      obtain ⟨a, v', w', first, second⟩ := exists_outcome answer
      rw [first, second] at asked ⊢
      cases a with
      | ok batch => exact ⟨rfl, rfl, rfl, asked⟩
      | error stop => cases stop <;> exact ⟨rfl, rfl, rfl, asked⟩

theorem Twins.visitNamespaces (h : Twins server s v t w) (now : Instant)
    (l : List (String × Schema)) :
    (Server.visitNamespaces b now l s v).1 = (Server.visitNamespaces b now l t w).1 ∧
      Twins server (Server.visitNamespaces b now l s v).2.1
        (Server.visitNamespaces b now l s v).2.2 (Server.visitNamespaces b now l t w).2.1
        (Server.visitNamespaces b now l t w).2.2 := by
  induction l generalizing s v t w with
  | nil => exact ⟨rfl, h⟩
  | cons n rest ih =>
    obtain ⟨answer, twins⟩ := h.visitNamespace b now n.1 n.2
    obtain ⟨a, ⟨s', v'⟩, ⟨t', w'⟩, first, second⟩ := exists_outcome answer
    unfold Server.visitNamespaces
    rw [first, second] at twins ⊢
    cases a with
    | error a => exact ⟨rfl, twins⟩
    | ok report =>
      obtain ⟨others, twins'⟩ := ih twins
      obtain ⟨a, ⟨s'', v''⟩, ⟨t'', w''⟩, first', second'⟩ := exists_outcome others
      dsimp only
      rw [first', second'] at twins' ⊢
      cases a <;> exact ⟨rfl, twins'⟩

theorem Twins.scrapeSettings (h : Twins server s v t w) (options : ScrapeOptions) :
    (s.scrapeSettings b options v).1 = (t.scrapeSettings b options w).1 ∧
      World.SameFor server (s.scrapeSettings b options v).2 (t.scrapeSettings b options w).2 := by
  obtain ⟨rfl, alike, worlds⟩ := h
  obtain ⟨serial, rfl⟩ := exists_serial alike
  obtain ⟨answer, asked⟩ := worlds.query b Settings.query
  have numbered (stem : String) (r : Except DbError ResultSet) :
      settingsOf { s with serial } stem r = s.settingsOf stem r := rfl
  unfold Server.scrapeSettings readSettings
  dsimp only
  rw [answer, numbered]
  split
  case isTrue => cases s.settingsOf options.stem _ <;> exact ⟨rfl, asked⟩
  case isFalse => exact ⟨rfl, worlds⟩

theorem Twins.scrape (h : Twins server s v t w) (options : ScrapeOptions) (now : Instant) :
    (s.scrape b options now v).1 = (t.scrape b options now w).1 ∧
      Twins server (s.scrape b options now v).2.1 (s.scrape b options now v).2.2
        (t.scrape b options now w).2.1 (t.scrape b options now w).2.2 := by
  obtain ⟨answer, worlds⟩ := h.scrapeSettings b options
  have plan : t.plan = s.plan := by
    obtain ⟨serial, rfl⟩ := exists_serial h.alike
    rfl
  obtain ⟨a, v', w', first, second⟩ := exists_outcome answer
  unfold Server.scrape scrapeNamespaces
  rw [plan]
  rw [first, second] at worlds ⊢
  have twins : Twins server s v' t w' := ⟨h.named, h.alike, worlds⟩
  cases a with
  | error e => exact ⟨rfl, twins⟩
  | ok settings =>
    obtain ⟨others, twins'⟩ := twins.visitNamespaces b now s.plan.schemas.toList
    obtain ⟨a, ⟨s'', v''⟩, ⟨t'', w''⟩, first', second'⟩ := exists_outcome others
    dsimp only
    rw [first', second'] at twins' ⊢
    cases a <;> exact ⟨rfl, twins'⟩

end Twins

end Server

namespace Registry

variable {δ : Type} {fingerprint : String} {r q : Registry} {v w : World δ}

/-- Two registries and their worlds are the same for one server. -/
structure Agree (fingerprint : String) (r : Registry) (v : World δ) (q : Registry) (w : World δ) :
    Prop where
  policy : r.policy = q.policy
  constantLabels : r.constantLabels = q.constantLabels
  entry : (r.servers.get? fingerprint).map Server.unnumbered =
    (q.servers.get? fingerprint).map Server.unnumbered
  worlds : World.SameFor fingerprint v w

theorem Agree.symm (h : Agree fingerprint r v q w) : Agree fingerprint q w r v :=
  ⟨h.policy.symm, h.constantLabels.symm, h.entry.symm, h.worlds.symm⟩

theorem Agree.trans {p : Registry} {u : World δ} (h : Agree fingerprint p u r v)
    (g : Agree fingerprint r v q w) : Agree fingerprint p u q w :=
  ⟨h.policy.trans g.policy, h.constantLabels.trans g.constantLabels, h.entry.trans g.entry,
    h.worlds.trans g.worlds⟩

theorem Agree.of_worlds (h : Agree fingerprint r v q w) {v' w' : World δ}
    (worlds : World.SameFor fingerprint v' w') : Agree fingerprint r v' q w' :=
  ⟨h.policy, h.constantLabels, h.entry, worlds⟩

theorem Confined.agree {other : String} {r' : Registry} {w' : World δ}
    (h : Confined other r w r' w') (ne : fingerprint ≠ other) : Agree fingerprint r w r' w' :=
  ⟨h.policy.symm, h.constantLabels.symm, congrArg _ (h.entries fingerprint ne).symm,
    h.worlds fingerprint ne⟩

theorem Agree.put (h : Agree fingerprint r v q w) {s t : Server}
    (alike : s.unnumbered = t.unnumbered) : Agree fingerprint (r.put s) v (q.put t) w := by
  refine ⟨h.policy, h.constantLabels, ?_, h.worlds⟩
  obtain ⟨serial, rfl⟩ := Server.exists_serial alike
  rw [get?_put, get?_put]
  split
  · exact congrArg some alike
  · exact h.entry

theorem Agree.drop (h : Agree fingerprint r v q w) (dropped : String) :
    Agree fingerprint (r.drop dropped) v (q.drop dropped) w := by
  refine ⟨h.policy, h.constantLabels, ?_, h.worlds⟩
  rw [get?_drop, get?_drop]
  split
  · rfl
  · exact h.entry

section Agree

variable (b : Backend δ) {e : Endpoint}

theorem Agree.openServer (h : Agree e.fingerprint r v q w) :
    (r.openServer b e v).1.map Server.unnumbered = (q.openServer b e w).1.map Server.unnumbered ∧
      Agree e.fingerprint (r.openServer b e v).2.1 (r.openServer b e v).2.2
        (q.openServer b e w).2.1 (q.openServer b e w).2.2 := by
  obtain ⟨answer, connected⟩ := h.worlds.connect b
  have entry := h.entry
  unfold Registry.openServer
  cases found : r.servers.get? e.fingerprint with
  | some s =>
    obtain ⟨t, found', alike⟩ : ∃ t, q.servers.get? e.fingerprint = some t ∧
        s.unnumbered = t.unnumbered := by
      rw [found] at entry
      obtain ⟨t, found', same⟩ := Option.map_eq_some_iff.mp entry.symm
      exact ⟨t, found', same.symm⟩
    rw [found']
    exact ⟨congrArg Except.ok alike, h⟩
  | none =>
    have absent : q.servers.get? e.fingerprint = none := by
      rw [found] at entry
      exact Option.map_eq_none_iff.mp entry.symm
    obtain ⟨a, v', w', first, second⟩ := exists_outcome answer
    rw [absent]
    rw [first, second] at connected ⊢
    cases a with
    | error source => exact ⟨rfl, h.of_worlds connected⟩
    | ok =>
      -- other servers may have taken more serial numbers in one run than in the other
      have alike : (Server.open r.nextSerial e r.constantLabels).unnumbered =
          (Server.open q.nextSerial e q.constantLabels).unnumbered := by
        rw [h.constantLabels]
        rfl
      have entered := (h.of_worlds connected).put alike
      exact ⟨congrArg Except.ok alike,
        entered.policy, entered.constantLabels, entered.entry, entered.worlds⟩

theorem Agree.attempt (h : Agree e.fingerprint r v q w) (named : Named e.fingerprint r) :
    (r.attempt b e v).1.map Server.unnumbered = (q.attempt b e w).1.map Server.unnumbered ∧
      Agree e.fingerprint (r.attempt b e v).2.1 (r.attempt b e v).2.2
        (q.attempt b e w).2.1 (q.attempt b e w).2.2 := by
  obtain ⟨opening, registered⟩ := served_openServer b named v
  obtain ⟨answer, agree⟩ := h.openServer b
  unfold Registry.attempt
  generalize r.openServer b e v = p at opening registered answer agree ⊢
  generalize q.openServer b e w = p' at answer agree ⊢
  obtain ⟨a, r', v'⟩ := p
  obtain ⟨a', q', w'⟩ := p'
  cases a with
  | error error =>
    cases a' with
    | error error' =>
      obtain rfl : error = error' := Except.error.inj answer
      exact ⟨rfl, agree⟩
    | ok t => cases answer
  | ok s =>
    cases a' with
    | error error' => cases answer
    | ok t =>
      have alike : s.unnumbered = t.unnumbered := Except.ok.inj answer
      have name : s.fingerprint = e.fingerprint := opening.named s (registered s rfl)
      have twins : Server.Twins e.fingerprint s v' t w' := ⟨name, alike, agree.worlds⟩
      obtain ⟨pinged, worlds⟩ := twins.ping b
      obtain ⟨a, v'', w'', first, second⟩ := exists_outcome pinged
      dsimp only
      rw [first, second] at worlds ⊢
      cases a with
      | error error => exact ⟨rfl, (agree.of_worlds worlds).drop e.fingerprint⟩
      | ok =>
        have role : Server.unnumbered { s with master := e.master } =
            Server.unnumbered { t with master := e.master } := by
          obtain ⟨serial, rfl⟩ := Server.exists_serial alike
          rfl
        exact ⟨congrArg Except.ok role, (agree.of_worlds worlds).put role⟩

theorem Agree.attempts (h : Agree e.fingerprint r v q w) (named : Named e.fingerprint r)
    (done : Nat) (last : Option ConnectionError) (left : Nat) :
    (r.attempts b e done last left v).1.map Server.unnumbered =
        (q.attempts b e done last left w).1.map Server.unnumbered ∧
      Agree e.fingerprint (r.attempts b e done last left v).2.1
        (r.attempts b e done last left v).2.2 (q.attempts b e done last left w).2.1
        (q.attempts b e done last left w).2.2 := by
  induction left generalizing r v q w done last with
  | zero =>
    unfold Registry.attempts
    cases last <;> exact ⟨rfl, h⟩
  | succ left ih =>
    have named' := (served_attempt b named v).1.named
    obtain ⟨answer, agree⟩ := h.attempt b named
    unfold Registry.attempts
    generalize r.attempt b e v = p at named' answer agree ⊢
    generalize q.attempt b e w = p' at answer agree ⊢
    obtain ⟨a, r', v'⟩ := p
    obtain ⟨a', q', w'⟩ := p'
    cases a with
    | ok s =>
      cases a' with
      | ok t => exact ⟨answer, agree⟩
      | error error' => cases answer
    | error error =>
      cases a' with
      | ok t => cases answer
      | error error' =>
        obtain rfl : error = error' := Except.error.inj answer
        refine ih (agree.of_worlds ?_) named' (done + 1) (some error)
        split
        · exact agree.worlds
        · exact agree.worlds.sleep _ _

theorem Agree.acquire (h : Agree e.fingerprint r v q w) (named : Named e.fingerprint r) :
    (r.acquire b e v).1.map Server.unnumbered = (q.acquire b e w).1.map Server.unnumbered ∧
      Agree e.fingerprint (r.acquire b e v).2.1 (r.acquire b e v).2.2
        (q.acquire b e w).2.1 (q.acquire b e w).2.2 := by
  unfold Registry.acquire
  rw [h.policy]
  exact h.attempts b named 0 none q.policy.maxAttempts.toNat

end Agree

end Registry

end PgMetrics
