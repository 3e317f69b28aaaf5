import PgMetrics.Proofs.Dict
import PgMetrics.Proofs.Server.Queries
import PgMetrics.Server.Registry

/-!
# Connections that are open

The registry opens and closes connections when it is asked for a server, when it drops one and when
it is closed. At any time there is one open connection to each registered server and none to any
other, and what is done for one server leaves the entries of the others alone.

## Main definitions

* `Registry.Named`, `Registry.Balanced` — what holds of a fingerprint at any time.
* `Registry.Confined`, `Registry.Served` — changes that are made for one fingerprint.
* `Registry.Operation`, `Registry.run` — what can be asked of a registry.
-/

namespace PgMetrics

namespace Server

variable {δ : Type}

theorem server_scrape (b : Backend δ) (options : ScrapeOptions) (now : Instant) (s : Server)
    (w : World δ) :
    (s.scrape b options now w).2.1 =
      { s with cache := (s.scrape b options now w).2.1.cache } := by
  rw [scrape_eq]
  obtain ⟨answer, w'⟩ := s.scrapeSettings b options w
  cases answer with
  | error e => rfl
  | ok settings => exact server_takeTurns b now s.plan.schemas.toList s w'

theorem fingerprint_scrape (b : Backend δ) (options : ScrapeOptions) (now : Instant) (s : Server)
    (w : World δ) : (s.scrape b options now w).2.1.fingerprint = s.fingerprint := by
  rw [server_scrape]

theorem fingerprint_pass (b : Backend δ) (c : Catalog) (i : Circumstances δ) (s : Server) :
    (s.pass b c i).2.fingerprint = s.fingerprint := by
  have refreshed := fingerprint_refresh b c { s with master := i.master } i.world
  unfold pass passOn
  generalize { s with master := i.master }.refresh b c i.world = r at refreshed ⊢
  exact (fingerprint_scrape b i.options i.now r.2.1 r.2.2).trans refreshed

end Server

namespace Registry

variable {δ : Type}

theorem get?_put (r : Registry) (s : Server) (fingerprint : String) :
    (r.put s).servers.get? fingerprint =
      if fingerprint = s.fingerprint then some s else r.servers.get? fingerprint := by
  unfold put
  rw [Dict.get?_insert]
  simp only [Std.LawfulEqCmp.compare_eq_iff_eq]

theorem get?_drop (r : Registry) (dropped fingerprint : String) :
    (r.drop dropped).servers.get? fingerprint =
      if dropped = fingerprint then none else r.servers.get? fingerprint := by
  unfold drop
  rw [Dict.get?_erase]
  simp only [Std.LawfulEqCmp.compare_eq_iff_eq]

/-! ## The ways of an attempt -/

/-- The server of an endpoint is registered, or a connection is refused, or it is new. -/
theorem openServer_cases (b : Backend δ) (e : Endpoint) (r : Registry) (w : World δ) :
    (∃ s, r.servers.get? e.fingerprint = some s ∧ r.openServer b e w = (.ok s, r, w)) ∨
    r.servers.get? e.fingerprint = none ∧
      ((∃ source w', w.connect b e = (.error source, w') ∧
          r.openServer b e w = (.error (.opening e.fingerprint source), r, w')) ∨
        ∃ w', w.connect b e = (.ok (), w') ∧
          r.openServer b e w =
            (.ok (.open r.nextSerial e r.constantLabels),
              { r.put (.open r.nextSerial e r.constantLabels) with
                nextSerial := r.nextSerial + 1 }, w')) := by
  unfold openServer
  cases found : r.servers.get? e.fingerprint with
  | some s => exact .inl ⟨s, rfl, rfl⟩
  | none =>
    refine .inr ⟨rfl, ?_⟩
    rcases connecting : w.connect b e with ⟨answer, w'⟩
    cases answer with
    | error source => exact .inl ⟨source, w', rfl, rfl⟩
    | ok => exact .inr ⟨w', rfl, rfl⟩

theorem ping_cases (b : Backend δ) (s : Server) (w : World δ) :
    s.ping b w = (.ok (), (w.ping b s.fingerprint).2) ∨
      ∃ error, s.ping b w = (.error error, (w.ping b s.fingerprint).2.close b s.fingerprint) := by
  unfold Server.ping
  rcases w.ping b s.fingerprint with ⟨answer, w'⟩
  cases answer with
  | ok => exact .inl rfl
  | error e => exact .inr ⟨_, rfl⟩

/-- What every attempt and every wait keeps is kept by all attempts, and a server is given out by an
attempt. -/
theorem attempts_induction {b : Backend δ} {e : Endpoint} {P : Registry → World δ → Prop}
    (attempt : ∀ r w, P r w → P (r.attempt b e w).2.1 (r.attempt b e w).2.2)
    (sleep : ∀ r w span, P r w → P r (w.sleep span)) (done : Nat) (last : Option ConnectionError)
    (left : Nat) {r : Registry} {w : World δ} (h : P r w) :
    P (r.attempts b e done last left w).2.1 (r.attempts b e done last left w).2.2 ∧
      ∀ s, (r.attempts b e done last left w).1 = .ok s →
        ∃ r' w', P r' w' ∧ r.attempts b e done last left w = r'.attempt b e w' := by
  induction left generalizing done last r w with
  | zero =>
    unfold attempts
    cases last <;> exact ⟨h, nofun⟩
  | succ left ih =>
    have attempted := attempt r w h
    unfold attempts
    rcases result : r.attempt b e w with ⟨answer, r', w'⟩
    rw [result] at attempted
    cases answer with
    | ok s =>
      refine ⟨attempted, fun _ _ => ?_⟩
      exact ⟨r, w, h, result.symm⟩
    | error error =>
      apply ih
      split
      · exact attempted
      · exact sleep _ _ _ attempted

/-! ## A pass over a registered server -/

/-- A registered server is refreshed and scraped. -/
def scrape (b : Backend δ) (fingerprint : String) (c : Catalog) (options : ScrapeOptions)
    (now : Instant) (r : Registry) (w : World δ) : Registry × World δ :=
  match r.servers.get? fingerprint with
  | none => (r, w)
  | some s =>
    let (_, s, w) := s.refresh b c w
    let (_, s, w) := s.scrape b options now w
    (r.put s, w)

/-! ## Changes for one fingerprint -/

section Changes

variable {fingerprint : String} {r r' r'' : Registry} {w w' w'' : World δ}

/-- A server that is registered under the fingerprint has it for its own. -/
def Named (fingerprint : String) (r : Registry) : Prop :=
  ∀ s, r.servers.get? fingerprint = some s → s.fingerprint = fingerprint

/-- There is one open connection to a registered server, and none to one that is not. -/
def Balanced (fingerprint : String) (r : Registry) (w : World δ) : Prop :=
  w.connectionsTo fingerprint = if r.servers.contains fingerprint then 1 else 0

/-- From the first registry and world to the second, nothing changes that does not concern the
fingerprint. -/
structure Confined (fingerprint : String) (r : Registry) (w : World δ) (r' : Registry)
    (w' : World δ) : Prop where
  policy : r'.policy = r.policy
  constantLabels : r'.constantLabels = r.constantLabels
  entries : ∀ other, other ≠ fingerprint → r'.servers.get? other = r.servers.get? other
  worlds : ∀ other, other ≠ fingerprint → World.SameFor other w w'

/-- Such a change that leaves a named server and keeps the balance. -/
structure Served (fingerprint : String) (r : Registry) (w : World δ) (r' : Registry)
    (w' : World δ) : Prop extends Confined fingerprint r w r' w' where
  named : Named fingerprint r'
  balanced : Balanced fingerprint r w → Balanced fingerprint r' w'

theorem Confined.refl (fingerprint : String) (r : Registry) (w : World δ) :
    Confined fingerprint r w r w :=
  ⟨rfl, rfl, fun _ _ => rfl, fun other _ => .refl other w⟩

theorem Confined.trans (h : Confined fingerprint r w r' w')
    (g : Confined fingerprint r' w' r'' w'') : Confined fingerprint r w r'' w'' where
  policy := g.policy.trans h.policy
  constantLabels := g.constantLabels.trans h.constantLabels
  entries other ne := (g.entries other ne).trans (h.entries other ne)
  worlds other ne := (h.worlds other ne).trans (g.worlds other ne)

theorem Confined.of_worlds (r : Registry)
    (worlds : ∀ other, other ≠ fingerprint → World.SameFor other w w') :
    Confined fingerprint r w r w' :=
  ⟨rfl, rfl, fun _ _ => rfl, worlds⟩

theorem confined_put (r : Registry) {s : Server} (named : s.fingerprint = fingerprint)
    (w : World δ) : Confined fingerprint r w (r.put s) w := by
  refine ⟨rfl, rfl, ?_, fun other _ => .refl other w⟩
  intro other ne
  rw [get?_put, named, if_neg ne]

theorem confined_drop (r : Registry) (fingerprint : String) (w : World δ) :
    Confined fingerprint r w (r.drop fingerprint) w := by
  refine ⟨rfl, rfl, ?_, fun other _ => .refl other w⟩
  intro other ne
  rw [get?_drop, if_neg ne.symm]

theorem confined_ping (b : Backend δ) (s : Server) (r : Registry) (w : World δ) :
    Confined s.fingerprint r w r (s.ping b w).2 := by
  apply Confined.of_worlds
  intro other ne
  have pinged := World.sameFor_ping b s.fingerprint w ne
  rcases ping_cases b s w with alive | ⟨error, dead⟩
  · rw [alive]
    exact pinged
  · rw [dead]
    exact pinged.trans (World.sameFor_close b s.fingerprint _ ne)

theorem Served.refl (named : Named fingerprint r) (w : World δ) : Served fingerprint r w r w :=
  ⟨.refl fingerprint r w, named, id⟩

theorem Served.trans (h : Served fingerprint r w r' w') (g : Served fingerprint r' w' r'' w'') :
    Served fingerprint r w r'' w'' :=
  ⟨h.toConfined.trans g.toConfined, g.named, fun balanced => g.balanced (h.balanced balanced)⟩

/-- The connections to a server in a balanced state. -/
theorem Balanced.connections (h : Balanced fingerprint r w) :
    w.connectionsTo fingerprint = if (r.servers.get? fingerprint).isSome then 1 else 0 := h

theorem named_put {s : Server} (named : s.fingerprint = fingerprint) (r : Registry) :
    Named fingerprint (r.put s) := by
  intro t found
  rw [get?_put, if_pos named.symm] at found
  cases found
  exact named

theorem balanced_put {s : Server} (named : s.fingerprint = fingerprint)
    (opened : w.connectionsTo fingerprint = 1) (r : Registry) :
    Balanced fingerprint (r.put s) w := by
  unfold Balanced Dict.contains
  rw [get?_put, if_pos named.symm]
  exact opened

theorem named_drop (r : Registry) (fingerprint : String) :
    Named fingerprint (r.drop fingerprint) := by
  intro t found
  rw [get?_drop, if_pos rfl] at found
  cases found

theorem balanced_drop (closed : w.connectionsTo fingerprint = 0) (r : Registry) :
    Balanced fingerprint (r.drop fingerprint) w := by
  unfold Balanced Dict.contains
  rw [get?_drop, if_pos rfl]
  exact closed

end Changes

/-! ## Getting a server -/

section Serving

variable (b : Backend δ) {e : Endpoint} {r : Registry}

/-- A server that is given out is the registered one. -/
theorem served_openServer (named : Named e.fingerprint r) (w : World δ) :
    Served e.fingerprint r w (r.openServer b e w).2.1 (r.openServer b e w).2.2 ∧
      ∀ s, (r.openServer b e w).1 = .ok s →
        (r.openServer b e w).2.1.servers.get? e.fingerprint = some s := by
  have connected (other : String) (ne : other ≠ e.fingerprint) :
      World.SameFor other w (w.connect b e).2 := World.sameFor_connect b e w ne
  have connections := World.connectionsTo_connect b e w
  rcases openServer_cases b e r w with
    ⟨s, found, opened⟩ | ⟨absent, ⟨source, w', connecting, opened⟩ | ⟨w', connecting, opened⟩⟩
  · rw [opened]
    refine ⟨.refl named w, ?_⟩
    rintro _ ⟨⟩
    exact found
  · rw [connecting] at connected connections
    rw [opened]
    refine ⟨⟨.of_worlds r connected, named, fun balanced => ?_⟩, nofun⟩
    exact connections.trans ((Int.add_zero _).trans balanced)
  · rw [connecting] at connected connections
    rw [opened]
    have entered := confined_put r (s := .open r.nextSerial e r.constantLabels) rfl w'
    refine ⟨⟨(Confined.of_worlds r connected).trans ⟨rfl, rfl, entered.entries, entered.worlds⟩,
      named_put rfl r, fun balanced => ?_⟩, ?_⟩
    · have before := balanced.connections
      rw [absent] at before
      rw [before] at connections
      have one : w'.connectionsTo e.fingerprint = 1 := connections
      exact balanced_put (s := .open r.nextSerial e r.constantLabels) rfl one r
    · rintro _ ⟨⟩
      exact (get?_put r _ _).trans (if_pos rfl)

theorem served_attempt (named : Named e.fingerprint r) (w : World δ) :
    Served e.fingerprint r w (r.attempt b e w).2.1 (r.attempt b e w).2.2 ∧
      ∀ s, (r.attempt b e w).1 = .ok s →
        (r.attempt b e w).2.1.servers.get? e.fingerprint = some s := by
  obtain ⟨opening, registered⟩ := served_openServer b named w
  unfold attempt
  generalize r.openServer b e w = opened at opening registered ⊢
  obtain ⟨answer, r', w'⟩ := opened
  cases answer with
  | error error => exact ⟨opening, nofun⟩
  | ok s =>
    have found := registered s rfl
    have name : s.fingerprint = e.fingerprint := opening.named s found
    have pinged := confined_ping b s r' w'
    have one (balanced : Balanced e.fingerprint r w) : w'.connectionsTo e.fingerprint = 1 := by
      have connections := (opening.balanced balanced).connections
      dsimp only at found
      rwa [found] at connections
    dsimp only at opening ⊢
    rw [name] at pinged
    rcases ping_cases b s w' with alive | ⟨error, dead⟩
    · rw [alive] at pinged ⊢
      let t : Server := { s with master := e.master }
      have entered := confined_put r' (s := t) name (w'.ping b s.fingerprint).2
      refine ⟨⟨(opening.toConfined.trans pinged).trans entered, named_put (s := t) name r', ?_⟩,
        ?_⟩
      · intro balanced
        refine balanced_put (s := t) name ?_ r'
        rw [World.connectionsTo_ping, one balanced]
      · rintro _ ⟨⟩
        exact (get?_put r' t _).trans (if_pos name.symm)
    · rw [dead] at pinged ⊢
      refine ⟨⟨(opening.toConfined.trans pinged).trans (confined_drop r' _ _), named_drop r' _, ?_⟩,
        nofun⟩
      intro balanced
      refine balanced_drop ?_ r'
      rw [World.connectionsTo_close, if_pos name, World.connectionsTo_ping, one balanced]
      rfl

theorem served_sleep (named : Named e.fingerprint r) (w : World δ) (span : Span) :
    Served e.fingerprint r w r (w.sleep span) := by
  refine ⟨.of_worlds r fun other _ => World.sameFor_sleep w span other, named, ?_⟩
  intro balanced
  exact (World.connectionsTo_sleep w span _).trans balanced

theorem served_acquire (named : Named e.fingerprint r) (w : World δ) :
    Served e.fingerprint r w (r.acquire b e w).2.1 (r.acquire b e w).2.2 ∧
      ∀ s, (r.acquire b e w).1 = .ok s →
        (r.acquire b e w).2.1.servers.get? e.fingerprint = some s := by
  have attempt (r' : Registry) (w' : World δ) (served : Served e.fingerprint r w r' w') :
      Served e.fingerprint r w (r'.attempt b e w').2.1 (r'.attempt b e w').2.2 :=
    served.trans (served_attempt b served.named w').1
  have sleep (r' : Registry) (w' : World δ) (span : Span)
      (served : Served e.fingerprint r w r' w') :
      Served e.fingerprint r w r' (w'.sleep span) :=
    served.trans (served_sleep served.named w' span)
  -- the invariant of the attempts: all that was done so far was done for this fingerprint
  obtain ⟨served, given⟩ :=
    attempts_induction attempt sleep 0 none r.policy.maxAttempts.toNat (.refl named w)
  refine ⟨served, ?_⟩
  intro s ok
  obtain ⟨r', w', served', last⟩ := given s ok
  unfold acquire at ok ⊢
  rw [last] at ok ⊢
  exact (served_attempt b served'.named w').2 s ok

theorem served_evict {fingerprint : String} (named : Named fingerprint r) (w : World δ) :
    Served fingerprint r w (r.evict b fingerprint w).2.1 (r.evict b fingerprint w).2.2 := by
  unfold evict
  split
  case isTrue registered =>
    have closed : Confined fingerprint r w r (w.close b fingerprint) :=
      .of_worlds r fun other ne => World.sameFor_close b fingerprint w ne
    refine ⟨closed.trans (confined_drop r _ _), named_drop r _, ?_⟩
    intro balanced
    refine balanced_drop ?_ r
    unfold Balanced at balanced
    rw [World.connectionsTo_close, if_pos rfl, balanced, if_pos registered]
    rfl
  case isFalse => exact .refl named w

/-- A pass over a registered server asks queries and writes the server back. -/
theorem served_scrape {fingerprint : String} (named : Named fingerprint r) (c : Catalog)
    (options : ScrapeOptions) (now : Instant) (w : World δ) :
    Served fingerprint r w (r.scrape b fingerprint c options now w).1
      (r.scrape b fingerprint c options now w).2 := by
  unfold Registry.scrape
  cases found : r.servers.get? fingerprint with
  | none => exact .refl named w
  | some s =>
    have name : s.fingerprint = fingerprint := named s found
    have refreshed := Server.world_refresh b c s w
    have kept := Server.fingerprint_refresh b c s w
    dsimp only
    generalize s.refresh b c w = first at refreshed kept ⊢
    obtain ⟨info, s₁, w₁⟩ := first
    dsimp only at refreshed kept ⊢
    obtain ⟨done, -, scraped, -⟩ := Server.world_scrape b options now s₁ w₁
    have kept' := Server.fingerprint_scrape b options now s₁ w₁
    generalize s₁.scrape b options now w₁ = second at scraped kept' ⊢
    obtain ⟨outcome, s₂, w₂⟩ := second
    dsimp only at scraped kept' ⊢
    have name₁ : s₁.fingerprint = fingerprint := kept.trans name
    have name₂ : s₂.fingerprint = fingerprint := kept'.trans name₁
    have asked : w₂ = (w.ask b fingerprint [versionQuery]).ask b fingerprint
        (s₁.settingsQueries options ++ s₁.queriesFor now done) := by
      rw [scraped, refreshed, name, name₁]
    have worlds (other : String) (ne : other ≠ fingerprint) : World.SameFor other w w₂ := by
      rw [asked]
      exact (World.sameFor_ask b fingerprint _ w ne).trans (World.sameFor_ask b fingerprint _ _ ne)
    refine ⟨(Confined.of_worlds r worlds).trans (confined_put r name₂ w₂), named_put name₂ r, ?_⟩
    intro balanced
    have one : w.connectionsTo fingerprint = 1 := by
      have connections := balanced.connections
      rwa [found] at connections
    refine balanced_put name₂ ?_ r
    rw [asked, World.connectionsTo_ask, World.connectionsTo_ask, one]

end Serving

/-! ## Everything that is asked of a registry -/

/-- What a registry can be asked: a server, to drop one, to close all, and a pass over one. -/
inductive Operation where
  | acquire (e : Endpoint)
  | evict (fingerprint : String)
  | closeAll
  | scrape (fingerprint : String) (c : Catalog) (options : ScrapeOptions) (now : Instant)

def Operation.perform (b : Backend δ) (r : Registry) (w : World δ) :
    Operation → Registry × World δ
  | .acquire e => (r.acquire b e w).2
  | .evict fingerprint => (r.evict b fingerprint w).2
  | .closeAll => r.closeAll b w
  | .scrape fingerprint c options now => r.scrape b fingerprint c options now w

/-- The registry and the world after some operations. -/
def run (b : Backend δ) (operations : List Operation) (r : Registry) (w : World δ) :
    Registry × World δ :=
  operations.foldl (fun x operation => operation.perform b x.1 x.2) (r, w)

/-- Every fingerprint is named and balanced. -/
def Regular (r : Registry) (w : World δ) : Prop :=
  ∀ fingerprint, Named fingerprint r ∧ Balanced fingerprint r w

section Regular

variable {b : Backend δ} {r : Registry} {w : World δ}

theorem Regular.of_served {fingerprint : String} {r' : Registry} {w' : World δ}
    (h : Regular r w) (served : Served fingerprint r w r' w') : Regular r' w' := by
  intro other
  obtain ⟨named, balanced⟩ := h other
  by_cases same : other = fingerprint
  · subst same
    exact ⟨served.named, served.balanced balanced⟩
  · have entry := served.entries other same
    have connections := (served.worlds other same).connections
    constructor
    · intro s found
      exact named s (entry.symm.trans found)
    · unfold Balanced Dict.contains
      rw [entry, ← connections]
      exact balanced

/-- Closing a list of servers takes a connection from each of them. -/
theorem connectionsTo_foldl_close (servers : List Server) (w : World δ) (fingerprint : String) :
    (servers.foldl (fun w s => w.close b s.fingerprint) w).connectionsTo fingerprint =
      w.connectionsTo fingerprint - (servers.map (·.fingerprint)).count fingerprint := by
  induction servers generalizing w with
  | nil => simp
  | cons s rest ih =>
    rw [List.foldl_cons, ih, World.connectionsTo_close, List.map_cons, List.count_cons]
    by_cases same : s.fingerprint = fingerprint
    · simp [same]
      omega
    · simp [same]

theorem regular_closeAll (h : Regular r w) : Regular (r.closeAll b w).1 (r.closeAll b w).2 := by
  -- servers are closed by their own fingerprints, which are the ones they are registered under
  have names : r.servers.values.map (·.fingerprint) = r.servers.keys := by
    unfold Dict.values Dict.keys
    rw [List.map_map]
    refine List.map_congr_left fun entry mem => ?_
    exact (h entry.1).1 entry.2 (Dict.get?_eq_some_iff.mpr mem)
  intro fingerprint
  refine ⟨nofun, ?_⟩
  have balance : w.connectionsTo fingerprint = r.servers.keys.count fingerprint := by
    rw [(h fingerprint).2, List.Nodup.count r.servers.nodup_keys]
    simp only [Dict.contains_iff_mem_keys]
    split <;> rfl
  unfold closeAll Balanced
  rw [connectionsTo_foldl_close, names, balance]
  exact Int.sub_self _

theorem regular_perform (h : Regular r w) (operation : Operation) :
    Regular (operation.perform b r w).1 (operation.perform b r w).2 := by
  cases operation with
  | acquire e => exact h.of_served (served_acquire b (h e.fingerprint).1 w).1
  | evict fingerprint => exact h.of_served (served_evict b (h fingerprint).1 w)
  | closeAll => exact regular_closeAll h
  | scrape fingerprint c options now =>
    exact h.of_served (served_scrape b (h fingerprint).1 c options now w)

theorem regular_run (h : Regular r w) (operations : List Operation) :
    Regular (run b operations r w).1 (run b operations r w).2 := by
  unfold run
  induction operations generalizing r w with
  | nil => exact h
  | cons operation rest ih => exact ih (regular_perform h operation)

theorem regular_empty (policy : RetryPolicy) (constantLabels : Dict String String)
    (databases : String → δ) : Regular (.empty policy constantLabels) ⟨databases, []⟩ := by
  intro fingerprint
  exact ⟨nofun, rfl⟩

end Regular

/-- Whatever was asked of a registry and whatever the databases did, there is one open connection to
each registered server and none to any other, and to ask for one server or to drop it leaves the
others as they are. -/
theorem connections_of_run (b : Backend δ) (policy : RetryPolicy)
    (constantLabels : Dict String String) (databases : String → δ)
    (operations : List Operation) :
    let x := run b operations (.empty policy constantLabels) ⟨databases, []⟩
    (∀ fingerprint, x.2.connectionsTo fingerprint =
      if x.1.servers.contains fingerprint then 1 else 0) ∧
    (∀ fingerprint s, x.1.servers.get? fingerprint = some s → s.fingerprint = fingerprint) ∧
    (∀ e other, other ≠ Endpoint.fingerprint e →
      (x.1.acquire b e x.2).2.1.servers.get? other = x.1.servers.get? other) ∧
    ∀ fingerprint other, other ≠ fingerprint →
      (x.1.evict b fingerprint x.2).2.1.servers.get? other = x.1.servers.get? other := by
  intro x
  have regular : Regular x.1 x.2 :=
    regular_run (regular_empty policy constantLabels databases) operations
  refine ⟨fun fingerprint => (regular fingerprint).2, fun fingerprint => (regular fingerprint).1,
    ?_, ?_⟩
  · intro e other ne
    have served := (served_acquire b (regular e.fingerprint).1 x.2).1
    exact served.entries other ne
  · intro fingerprint other ne
    have served := served_evict b (regular fingerprint).1 x.2
    exact served.entries other ne

namespace Silence

/-- Databases that answer a ping once they have been silent for a number of times. -/
def backend : Backend Nat where
  connect _ silent := (.ok (), silent)
  ping
    | 0 => (.ok (), 0)
    | silent + 1 => (.error (.connect "silence"), silent)
  query _ silent := (.ok ⟨[], []⟩, silent)
  close silent := silent

/-- A silent server is opened twice, another is opened and dropped. -/
def operations : List Operation :=
  [.acquire .localhost, .acquire (.ofHost "db"), .evict "db:5432"]

/-- The state after the operations, of which the first finds a server that is silent once. -/
def after : Registry × World Nat :=
  run backend operations (.empty .standard .empty)
    ⟨fun server => if server = "localhost:5432" then 1 else 0, []⟩

/-- The one connection that was closed is made up for. -/
theorem connections_of_silence :
    after.2.connectionsTo "localhost:5432" = 1 ∧ after.2.connectionsTo "db:5432" = 0 ∧
      after.2.log.count (.connect "localhost:5432" true) = 2 := by
  obtain ⟨balance, -⟩ := connections_of_run backend .standard .empty
    (fun server => if server = "localhost:5432" then 1 else 0) operations
  refine ⟨(balance "localhost:5432").trans ?_, (balance "db:5432").trans ?_, ?_⟩
  · rfl
  · rfl
  · rfl

end Silence

end Registry

end PgMetrics
