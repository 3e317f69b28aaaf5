import Mathlib.Data.List.Nodup
import PgMetrics.Config.Validate
import PgMetrics.Proofs.Outcome
import PgMetrics.Proofs.Text.Blank
import PgMetrics.Proofs.Text.Number

/-!
# Which configurations are valid

A valid configuration has names that are identifiers, numbers in their ranges, an address to listen
on, and endpoints with hosts that are not blank and that differ in host or port. Of one that is not
valid the first defect is reported, in a fixed order of the fields.

## Main definitions

* `IsIdentifier` — identifiers, by their characters.
* `Config.Safe` — the conditions on a configuration.
* `Config.defects` — the errors of all conditions that fail, in their order.

## Main results

* `Endpoint.fingerprint_eq_iff` — fingerprints tell hosts and ports.
* `Config.failsFirst_validate` — the first defect is reported.
* `Config.validate_eq_ok_iff` — the valid configurations are the safe ones.
* `Config.validate_finds_first_defect` — which error is reported, and what fingerprints tell.
-/

namespace PgMetrics

/-! ## Identifiers -/

/-- A letter of ASCII. -/
def IsLetter (c : Char) : Prop := ('a' ≤ c ∧ c ≤ 'z') ∨ ('A' ≤ c ∧ c ≤ 'Z')

/-- Letters, digits and underscores of ASCII, of which a digit is not the first. -/
def IsIdentifier (s : List Char) : Prop :=
  ∃ first rest, s = first :: rest ∧ (IsLetter first ∨ first = '_') ∧
    ∀ c ∈ rest, IsLetter c ∨ c = '_' ∨ ('0' ≤ c ∧ c ≤ '9')

theorem startsIdentifier_iff {c : Char} :
    startsIdentifier c = true ↔ IsLetter c ∨ c = '_' := by
  have upper : c.isUpper = true ↔ 'A' ≤ c ∧ c ≤ 'Z' := decide_eq_true_iff
  have lower : c.isLower = true ↔ 'a' ≤ c ∧ c ≤ 'z' :=
    Bool.and_eq_true_iff.trans (and_congr decide_eq_true_iff decide_eq_true_iff)
  have letter : c.isAlpha = true ↔ IsLetter c := by
    rw [IsLetter, ← lower, ← upper, or_comm]
    exact Bool.or_eq_true_iff
  rw [startsIdentifier, Bool.or_eq_true_iff, letter, beq_iff_eq]

theorem isIdentifier_iff {s : List Char} : isIdentifier s = true ↔ IsIdentifier s := by
  have digit {c : Char} : c.isDigit = true ↔ '0' ≤ c ∧ c ≤ '9' :=
    Bool.and_eq_true_iff.trans (and_congr decide_eq_true_iff decide_eq_true_iff)
  cases s with
  | nil => simp [isIdentifier, IsIdentifier]
  | cons first rest =>
    simp [isIdentifier, IsIdentifier, startsIdentifier_iff, digit, or_assoc]

instance : DecidablePred IsIdentifier := fun _ => decidable_of_iff _ isIdentifier_iff

/-! ## Addresses of endpoints -/

namespace Endpoint

/-- The host of the endpoint is not blank. -/
def HasHost (e : Endpoint) : Prop := ∃ c ∈ e.host.toList, Text.isBlank c = false

theorem isBlankText_host_iff {e : Endpoint} : Text.isBlankText e.host = true ↔ ¬ e.HasHost := by
  simp [Text.isBlankText, HasHost]

instance (e : Endpoint) : Decidable e.HasHost :=
  decidable_of_iff (¬ Text.isBlankText e.host = true) (by rw [isBlankText_host_iff, not_not])

/-- The endpoints are at one host and one port. -/
def SameAddress (e f : Endpoint) : Prop := e.host = f.host ∧ e.port = f.port

instance (e f : Endpoint) : Decidable (e.SameAddress f) := inferInstanceAs (Decidable (_ ∧ _))

/-- A fingerprint tells the host and the port. The port has no colon, so the last colon is the one
between them. -/
theorem fingerprint_eq_iff {e f : Endpoint} :
    e.fingerprint = f.fingerprint ↔ e.SameAddress f := by
  have text (e : Endpoint) :
      e.fingerprint.toList = e.host.toList ++ ':' :: Text.decimal e.port.toNat := by
    simp [fingerprint, Text.decimalText]
  have noColon (e : Endpoint) : ':' ∉ Text.decimal e.port.toNat :=
    Text.notMem_decimal (by decide) _
  rw [← String.toList_inj, text, text, Text.append_sep_inj (noColon e) (noColon f),
    String.toList_inj, Text.decimal_inj, UInt16.toNat_inj]
  exact Iff.rfl

end Endpoint

/-! ## Defects -/

namespace Config

/-- The conditions on a configuration. -/
structure Safe (c : Config) : Prop where
  stem : c.exporter.metricPrefix = "" ∨ IsIdentifier c.exporter.metricPrefix.toList
  labels : ∀ name ∈ c.exporter.constantLabels.keys,
    name ≠ "server" ∧ IsIdentifier name.toList ∧ ¬ ['_', '_'] <+: name.toList
  scrapes : 1 ≤ c.exporter.maxConcurrentScrapes ∧ c.exporter.maxConcurrentScrapes ≤ 64
  attempts : 1 ≤ c.pool.retryAttempts
  path : ['/'] <+: c.http.telemetryPath.toList
  listen : ∃ address, SocketAddress.parse? c.http.listenAddress = some address
  hosts : ∀ e ∈ c.endpoints, e.HasHost
  addresses : c.endpoints.Pairwise fun e f => ¬ e.SameAddress f

/-- The error of a condition, where it fails. -/
def expect (holds : Prop) [Decidable holds] (error : ConfigError) : List ConfigError :=
  if holds then [] else [error]

theorem expect_eq_nil_iff {holds : Prop} [Decidable holds] {error : ConfigError} :
    expect holds error = [] ↔ holds := by
  simp [expect]

/-- The defects of the name of a constant label. -/
def labelDefects (name : String) : List ConfigError :=
  expect (name ≠ "server") (.invalidValue "exporter.constant_labels" "'server' is reserved") ++
  expect (IsIdentifier name.toList ∧ ¬ ['_', '_'] <+: name.toList)
    (.invalidValue "exporter.constant_labels" ("'" ++ name ++ "' is not a valid label name"))

/-- The defects of the endpoint at place `i`: a blank host, and the address of one before it. -/
def endpointDefects (endpoints : List Endpoint) (e : Endpoint) (i : Nat) : List ConfigError :=
  expect e.HasHost (.missingField ("endpoints[" ++ Text.decimalText i ++ "].host")) ++
  expect (∀ f ∈ endpoints.take i, ¬ f.SameAddress e)
    (.invalidValue ("endpoints[" ++ Text.decimalText i ++ "]")
      ("duplicate endpoint " ++ (e.host ++ ":" ++ Text.decimalText e.port.toNat)))

/-- The errors of all conditions that fail, in the order in which they are reported. -/
def defects (c : Config) : List ConfigError :=
  expect (c.exporter.metricPrefix = "" ∨ IsIdentifier c.exporter.metricPrefix.toList)
    (.invalidValue "exporter.metric_prefix"
      ("'" ++ c.exporter.metricPrefix ++ "' is not a valid metric name prefix")) ++
  c.exporter.constantLabels.keys.flatMap labelDefects ++
  expect (1 ≤ c.exporter.maxConcurrentScrapes ∧ c.exporter.maxConcurrentScrapes ≤ 64)
    (.invalidValue "exporter.max_concurrent_scrapes" "must be between 1 and 64") ++
  expect (1 ≤ c.pool.retryAttempts)
    (.invalidValue "pool.retry_attempts" "must be at least 1") ++
  expect (['/'] <+: c.http.telemetryPath.toList)
    (.invalidValue "http.telemetry_path" "must start with '/'") ++
  expect ((SocketAddress.parse? c.http.listenAddress).isSome = true)
    (.invalidValue "http.listen_address"
      ("'" ++ c.http.listenAddress ++ "' is not a socket address")) ++
  c.endpoints.zipIdx.flatMap fun (e, i) => endpointDefects c.endpoints e i

/-- A condition that is required is the only one that can fail there. -/
theorem failsFirst_require {holds : Bool} {condition : Prop} [Decidable condition]
    (same : holds = true ↔ condition) (field message : String) :
    FailsFirst (expect condition (.invalidValue field message)) (require holds field message)
      fun _ => True := by
  unfold expect require
  by_cases h : condition
  · rw [if_pos h, if_pos (same.mpr h)]
    exact .ok trivial
  · rw [if_neg h, if_neg (mt same.mp h)]
    exact .error _ _

/-- What is refused outright where a condition fails goes on where it holds. -/
theorem failsFirst_refuse {refused condition : Prop} [Decidable refused] [Decidable condition]
    (opposite : refused ↔ ¬ condition) (error : ConfigError) {more : List ConfigError}
    {x : Except ConfigError Unit} (next : FailsFirst more x fun _ => True) :
    FailsFirst (expect condition error ++ more) (if refused then .error error else x)
      fun _ => True := by
  unfold expect
  by_cases h : condition
  · rw [if_pos h, if_neg (mt opposite.mp (not_not_intro h))]
    exact next
  · rw [if_neg h, if_pos (opposite.mpr h)]
    exact .inr ⟨error, rfl, rfl⟩

theorem failsFirst_checkStem (stem : String) :
    FailsFirst (expect (stem = "" ∨ IsIdentifier stem.toList) (.invalidValue
        "exporter.metric_prefix" ("'" ++ stem ++ "' is not a valid metric name prefix")))
      (checkStem stem) fun _ => True := by
  refine failsFirst_require ?_ _ _
  rw [Bool.or_eq_true_iff, String.isEmpty_iff, isIdentifier_iff]

theorem failsFirst_checkLabel (name : String) :
    FailsFirst (labelDefects name) (checkLabel name) fun _ => True := by
  refine (failsFirst_require ?_ _ _).bind fun _ _ => failsFirst_require ?_ _ _
  · simp [serverLabel]
  · rw [Bool.and_eq_true_iff, isIdentifier_iff, Bool.not_eq_true', ← Bool.not_eq_true,
      List.isPrefixOf_iff_prefix]

/-- Endpoints are checked against those before them. -/
theorem failsFirst_checkEndpoints {endpoints earlier rest : List Endpoint} {seen : List String}
    (split : endpoints = earlier ++ rest)
    (known : ∀ fingerprint, fingerprint ∈ seen ↔ ∃ f ∈ earlier, f.fingerprint = fingerprint) :
    FailsFirst ((rest.zipIdx earlier.length).flatMap fun (e, i) => endpointDefects endpoints e i)
      (checkEndpoints seen earlier.length rest) fun _ => True := by
  induction rest generalizing earlier seen with
  | nil => exact .ok trivial
  | cons e rest ih =>
    have before : endpoints.take earlier.length = earlier := by simp [split]
    have taken : e.fingerprint ∈ seen ↔ ¬ ∀ f ∈ earlier, ¬ f.SameAddress e := by
      rw [known]
      simp [Endpoint.fingerprint_eq_iff]
    have later := @ih (earlier ++ [e]) (e.fingerprint :: seen) (by simp [split]) (by grind)
    rw [List.length_append, List.length_singleton] at later
    rw [List.zipIdx_cons, List.flatMap_cons]
    change FailsFirst (endpointDefects endpoints e earlier.length ++ _) _ _
    unfold checkEndpoints
    rw [endpointDefects, before, List.append_assoc]
    have field : endpointPlace earlier.length ++ ".host" =
        "endpoints[" ++ Text.decimalText earlier.length ++ "].host" := by
      rw [endpointPlace, String.append_assoc]
      rfl
    rw [field]
    exact failsFirst_refuse Endpoint.isBlankText_host_iff _ (failsFirst_refuse taken _ later)

theorem failsFirst_validate (c : Config) : FailsFirst c.defects c.validate fun _ => True := by
  have scrapes (n : UInt64) : (1 ≤ n && n ≤ greatestConcurrency) = true ↔ 1 ≤ n ∧ n ≤ 64 := by
    rw [Bool.and_eq_true_iff, decide_eq_true_iff, decide_eq_true_iff]
    rfl
  have attempts (n : UInt32) : (n != 0) = true ↔ 1 ≤ n := by
    rw [bne_iff_ne, UInt32.le_iff_toNat_le, ← UInt32.toNat_inj.ne]
    exact Nat.pos_iff_ne_zero.symm
  have known : ∀ fingerprint, fingerprint ∈ [] ↔
      ∃ f ∈ ([] : List Endpoint), f.fingerprint = fingerprint := by simp
  unfold defects validate
  simp only [List.append_assoc]
  refine (failsFirst_checkStem _).bind fun _ _ => ?_
  refine (FailsFirst.forM fun name _ => failsFirst_checkLabel name).bind fun _ _ => ?_
  refine (failsFirst_require (scrapes _) _ _).bind fun _ _ => ?_
  refine (failsFirst_require (attempts _) _ _).bind fun _ _ => ?_
  refine (failsFirst_require List.isPrefixOf_iff_prefix _ _).bind fun _ _ => ?_
  refine (failsFirst_require Iff.rfl _ _).bind fun _ _ => ?_
  exact @failsFirst_checkEndpoints c.endpoints [] c.endpoints [] rfl known

/-- A relation holds of every two elements in their order if it holds of each and those before. -/
theorem pairwise_iff_take {α : Type} {R : α → α → Prop} {l : List α} :
    l.Pairwise R ↔ ∀ p ∈ l.zipIdx, ∀ a ∈ l.take p.2, R a p.1 := by
  rw [List.pairwise_iff_getElem]
  constructor
  · intro pairs p mem a before
    obtain ⟨i, hi, rfl⟩ := List.mem_take_iff_getElem.mp before
    obtain ⟨hj, same⟩ := List.getElem?_eq_some_iff.mp (List.mem_zipIdx_iff_getElem?.mp mem)
    rw [← same]
    exact pairs i p.2 (by omega) hj (by omega)
  · intro each i j hi hj before
    refine each (l[j], j) (List.mem_zipIdx_iff_getElem?.mpr (by simp)) l[i] ?_
    exact List.mem_take_iff_getElem.mpr ⟨i, by omega, rfl⟩

theorem labelDefects_eq_nil_iff {name : String} :
    labelDefects name = [] ↔
      name ≠ "server" ∧ IsIdentifier name.toList ∧ ¬ ['_', '_'] <+: name.toList := by
  rw [labelDefects, List.append_eq_nil_iff, expect_eq_nil_iff, expect_eq_nil_iff]

theorem endpointDefects_eq_nil_iff {endpoints : List Endpoint} {e : Endpoint} {i : Nat} :
    endpointDefects endpoints e i = [] ↔
      e.HasHost ∧ ∀ f ∈ endpoints.take i, ¬ f.SameAddress e := by
  rw [endpointDefects, List.append_eq_nil_iff, expect_eq_nil_iff, expect_eq_nil_iff]

/-- No endpoint has a defect exactly if all have hosts and no two are at one address. -/
theorem flatMap_endpointDefects_eq_nil_iff {endpoints : List Endpoint} :
    (endpoints.zipIdx.flatMap fun (e, i) => endpointDefects endpoints e i) = [] ↔
      (∀ e ∈ endpoints, e.HasHost) ∧ endpoints.Pairwise fun e f => ¬ e.SameAddress f := by
  rw [pairwise_iff_take, List.flatMap_eq_nil_iff]
  constructor
  · intro each
    refine ⟨fun e mem => ?_, fun p mem => (endpointDefects_eq_nil_iff.mp (each p mem)).2⟩
    obtain ⟨i, hi, rfl⟩ := List.mem_iff_getElem.mp mem
    have found : (endpoints[i], i) ∈ endpoints.zipIdx :=
      List.mem_zipIdx_iff_getElem?.mpr (by simp)
    exact (endpointDefects_eq_nil_iff.mp (each _ found)).1
  · rintro ⟨hosts, addresses⟩ p mem
    have found : p.1 ∈ endpoints := List.mem_of_getElem? (List.mem_zipIdx_iff_getElem?.mp mem)
    exact endpointDefects_eq_nil_iff.mpr ⟨hosts p.1 found, addresses p mem⟩

/-- There is no defect exactly if all conditions hold. -/
theorem defects_eq_nil_iff (c : Config) : c.defects = [] ↔ c.Safe := by
  rw [defects, List.append_eq_nil_iff, flatMap_endpointDefects_eq_nil_iff]
  simp only [List.append_eq_nil_iff, expect_eq_nil_iff, List.flatMap_eq_nil_iff,
    labelDefects_eq_nil_iff, Option.isSome_iff_exists]
  constructor
  · rintro ⟨⟨⟨⟨⟨⟨stem, labels⟩, scrapes⟩, attempts⟩, path⟩, listen⟩, hosts, addresses⟩
    exact ⟨stem, labels, scrapes, attempts, path, listen, hosts, addresses⟩
  · rintro ⟨stem, labels, scrapes, attempts, path, listen, hosts, addresses⟩
    exact ⟨⟨⟨⟨⟨⟨stem, labels⟩, scrapes⟩, attempts⟩, path⟩, listen⟩, hosts, addresses⟩

/-- The valid configurations are those that meet all conditions. -/
theorem validate_eq_ok_iff {c : Config} : c.validate = .ok () ↔ c.Safe :=
  (failsFirst_validate c).eq_ok_iff.trans c.defects_eq_nil_iff

/-- No two endpoints of a valid configuration have the same fingerprint. -/
theorem nodup_of_validate {c : Config} (h : c.validate = .ok ()) :
    (c.endpoints.map Endpoint.fingerprint).Nodup := by
  rw [List.Nodup, List.pairwise_map]
  exact (validate_eq_ok_iff.mp h).addresses.imp fun apart same =>
    apart (Endpoint.fingerprint_eq_iff.mp same)

/-- A configuration is valid exactly if all conditions hold, and else the error of the first one
that fails is reported. Fingerprints are equal only if the hosts and the ports are, whatever the
hosts are; so the servers of a valid configuration are registered under different names and have
different labels. -/
theorem validate_finds_first_defect :
    (∀ c : Config, c.validate = .ok () ↔ c.Safe) ∧
    (∀ c : Config, c.defects = [] ↔ c.Safe) ∧
    (∀ (c : Config) (error : ConfigError),
      c.validate = .error error ↔ c.defects.head? = some error) ∧
    (∀ e f : Endpoint, e.fingerprint = f.fingerprint ↔ e.host = f.host ∧ e.port = f.port) ∧
    ∀ (c : Config) (serial : Endpoint → Nat), c.validate = .ok () →
      let servers := c.endpoints.map fun e => Server.open (serial e) e c.exporter.constantLabels
      (servers.map Server.fingerprint).Nodup ∧
        (servers.map fun s => s.labels.get? serverLabel).Nodup := by
  refine ⟨fun c => validate_eq_ok_iff, defects_eq_nil_iff,
    fun c error => (failsFirst_validate c).eq_error_iff, fun e f => Endpoint.fingerprint_eq_iff,
    fun c serial valid => ?_⟩
  have distinct := nodup_of_validate valid
  have label (e : Endpoint) :
      (Server.open (serial e) e c.exporter.constantLabels).labels.get? serverLabel =
        some e.fingerprint := by
    simp [Server.open]
  dsimp only
  rw [List.map_map, List.map_map]
  refine ⟨distinct, ?_⟩
  have labels := List.Nodup.map (fun _ _ => Option.some.inj) distinct
  rw [List.map_map] at labels
  simpa only [Function.comp_def, label] using labels

namespace Colons

/-- Two endpoints whose fingerprints differ by a colon: `a:11` and `a:1:1`. -/
def config : Config :=
  { Config.standard with
    endpoints :=
      [{ Endpoint.ofHost "a" with port := 11 }, { Endpoint.ofHost "a:1" with port := 1 }] }

/-- The second endpoint repeats the first, and the third has a blank host. -/
def doubled : Config :=
  { config with endpoints := [.localhost, .localhost, .ofHost " "] }

/-- The first configuration is valid. The first defect of the other is the repeated endpoint, which
stands before the blank one. -/
theorem validate_of_colons :
    config.validate = .ok () ∧
      ((config.endpoints.map fun e => Server.open 0 e config.exporter.constantLabels).map
        fun s => s.labels.get? serverLabel).Nodup ∧
      doubled.defects.head? =
        some (.invalidValue "endpoints[1]" "duplicate endpoint localhost:5432") := by
  obtain ⟨-, -, first, -, distinct⟩ := validate_finds_first_defect
  have valid : config.validate = .ok () := by decide +kernel
  have reported : doubled.validate =
      .error (.invalidValue "endpoints[1]" "duplicate endpoint localhost:5432") := by
    decide +kernel
  exact ⟨valid, (distinct config (fun _ => 0) valid).2, (first doubled _).mp reported⟩

end Colons

end Config

end PgMetrics
