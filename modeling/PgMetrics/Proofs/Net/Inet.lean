import PgMetrics.Proofs.Net.Address

/-!
# Network addresses as a server sends them

A server sends an address as octets: its family, its mask, a flag, its length and the address
itself. The text that is made of them leaves out the flag, the length and a full mask of a host,
and still no two addresses that differ in family, mask or octets have the same text.

## Main definitions

* `Inet.Packet` — a binary network address by its parts.
* `Inet.written` — the text of an address and its mask.

## Main results

* `Inet.written_inj` — a mask that is not written can be told from the address.
* `Inet.text_keeps_identity` — which octets are an address, and what its text tells.
-/

namespace PgMetrics

namespace Inet

/-- A binary network address by its parts. -/
structure Packet where
  family : UInt8
  mask : UInt8
  flag : UInt8
  length : UInt8
  address : List UInt8
  deriving DecidableEq, Repr

/-- The text of an address, with its mask unless that goes without saying. -/
def written (network : Bool) (mask : UInt8) (a : IpAddress) : List Char :=
  if network || mask.toNat != a.bits then a.render ++ '/' :: Text.decimal mask.toNat else a.render

namespace Packet

/-- The octets that a server sends. -/
def octets (p : Packet) : List UInt8 := p.family :: p.mask :: p.flag :: p.length :: p.address

/-- A packet of one of the two families has as many octets of address as it says. -/
def WellFormed (p : Packet) : Prop :=
  (p.family = 2 ∧ p.length = 4 ∧ p.address.length = 4) ∨
    (p.family = 3 ∧ p.length = 16 ∧ p.address.length = 16)

instance (p : Packet) : Decidable p.WellFormed := inferInstanceAs (Decidable (_ ∨ _))

/-- The address in a packet. -/
def ip? (p : Packet) : Option IpAddress :=
  IpAddress.ofOctets? p.family.toNat p.length.toNat p.address

theorem ip?_eq_some_iff {p : Packet} {a : IpAddress} :
    p.ip? = some a ↔
      (p.family = 2 ∧ p.length = 4 ∧ ∃ q : Quad, p.address = [q.a, q.b, q.c, q.d] ∧ a = .v4 q) ∨
        (p.family = 3 ∧ p.length = 16 ∧ p.address.length = 16 ∧ a = .v6 (groupsOf p.address)) := by
  rw [ip?, IpAddress.ofOctets?_eq_some_iff, ← UInt8.toNat_inj, ← UInt8.toNat_inj,
    ← UInt8.toNat_inj, ← UInt8.toNat_inj]
  rfl

theorem isSome_ip? {p : Packet} : p.ip?.isSome = true ↔ p.WellFormed := by
  simp only [Option.isSome_iff_exists, ip?_eq_some_iff, WellFormed]
  constructor
  · rintro ⟨a, ⟨family, length, q, address, -⟩ | ⟨family, length, sixteen, -⟩⟩
    · exact .inl ⟨family, length, by rw [address]; rfl⟩
    · exact .inr ⟨family, length, sixteen⟩
  · rintro (⟨family, length, four⟩ | ⟨family, length, sixteen⟩)
    · obtain ⟨a, b, c, d, address⟩ := List.length_eq_four.mp four
      exact ⟨_, .inl ⟨family, length, ⟨a, b, c, d⟩, address, rfl⟩⟩
    · exact ⟨_, .inr ⟨family, length, sixteen, rfl⟩⟩

theorem whole_of_ip? {p : Packet} {a : IpAddress} (made : p.ip? = some a) : a.Whole := by
  rcases ip?_eq_some_iff.mp made with ⟨-, -, q, -, rfl⟩ | ⟨-, -, sixteen, rfl⟩
  · trivial
  · rw [IpAddress.Whole, length_groupsOf, sixteen]

/-- An address stands for the family and the octets that it was made of, and for no others. -/
theorem ip?_inj {p q : Packet} {a b : IpAddress} (hp : p.ip? = some a) (hq : q.ip? = some b) :
    a = b ↔ p.family = q.family ∧ p.address = q.address := by
  rcases ip?_eq_some_iff.mp hp with ⟨family, -, r, address, rfl⟩ | ⟨family, -, sixteen, rfl⟩ <;>
    rcases ip?_eq_some_iff.mp hq with ⟨family', -, r', address', rfl⟩ |
      ⟨family', -, sixteen', rfl⟩ <;> rw [family, family']
  · rw [address, address']
    cases r
    cases r'
    simp
  · simp
  · simp
  · have octets : groupsOf p.address = groupsOf q.address ↔ p.address = q.address :=
      ⟨groupsOf_inj (k := 8) sixteen sixteen', congrArg groupsOf⟩
    simp [octets]

theorem text?_octets (p : Packet) (network : Bool) :
    text? p.octets network = p.ip?.map fun a => String.ofList (written network p.mask a) :=
  rfl

end Packet

/-- Octets that are too few for the parts of a packet have no text. -/
theorem exists_octets_of_isSome_text? {octets : List UInt8} {network : Bool}
    (some : (text? octets network).isSome = true) : ∃ p : Packet, octets = p.octets := by
  rcases octets with _ | ⟨family, _ | ⟨mask, _ | ⟨flag, _ | ⟨length, address⟩⟩⟩⟩
  case cons.cons.cons.cons => exact ⟨⟨family, mask, flag, length, address⟩, rfl⟩
  all_goals cases some

theorem isSome_text? {octets : List UInt8} {network : Bool} :
    (text? octets network).isSome = true ↔ ∃ p : Packet, p.WellFormed ∧ octets = p.octets := by
  constructor
  · intro some
    obtain ⟨p, rfl⟩ := exists_octets_of_isSome_text? some
    rw [Packet.text?_octets, Option.isSome_map] at some
    exact ⟨p, Packet.isSome_ip?.mp some, rfl⟩
  · rintro ⟨p, formed, rfl⟩
    rw [Packet.text?_octets, Option.isSome_map]
    exact Packet.isSome_ip?.mpr formed

/-- A text tells the address and the mask, also where the mask goes without saying. -/
theorem written_inj {network : Bool} {m n : UInt8} {a b : IpAddress} (ha : a.Whole)
    (hb : b.Whole) : written network m a = written network n b ↔ m = n ∧ a = b := by
  constructor
  · intro same
    have digits : ∀ k, '/' ∉ Text.decimal k := Text.notMem_decimal (by decide)
    unfold written at same
    split at same <;> split at same
    · obtain ⟨address, mask⟩ := (Text.append_sep_inj (digits _) (digits _)).mp same
      exact ⟨UInt8.toNat_inj.mp (Text.decimal_inj.mp mask), (IpAddress.render_inj ha hb).mp address⟩
    · exact absurd (same ▸ by simp) (IpAddress.slash_notMem_render b)
    · exact absurd (same ▸ by simp) (IpAddress.slash_notMem_render a)
    · obtain rfl := (IpAddress.render_inj ha hb).mp same
      refine ⟨?_, rfl⟩
      rw [← UInt8.toNat_inj]
      simp_all
  · rintro ⟨rfl, rfl⟩
    rfl

/-- Network addresses keep their identity. A text is given exactly to the octets that are a packet
of one of the two families with an address of its length, and the flag has no part in it. Packets
with the same text are of one family and have the same mask and the same octets of address. -/
theorem text_keeps_identity (network : Bool) :
    (∀ octets, (text? octets network).isSome = true ↔
        ∃ p : Packet, p.WellFormed ∧ octets = p.octets) ∧
      (∀ (p : Packet) (flag : UInt8),
        text? { p with flag }.octets network = text? p.octets network) ∧
      ∀ p q : Packet, p.WellFormed → q.WellFormed →
        (text? p.octets network = text? q.octets network ↔
          p.family = q.family ∧ p.mask = q.mask ∧ p.address = q.address) := by
  refine ⟨fun octets => isSome_text?, fun p flag => rfl, fun p q hp hq => ?_⟩
  obtain ⟨a, made⟩ := Option.isSome_iff_exists.mp (Packet.isSome_ip?.mpr hp)
  obtain ⟨b, made'⟩ := Option.isSome_iff_exists.mp (Packet.isSome_ip?.mpr hq)
  rw [Packet.text?_octets, Packet.text?_octets, made, made', Option.map_some, Option.map_some,
    Option.some_inj, String.ofList_inj,
    written_inj (Packet.whole_of_ip? made) (Packet.whole_of_ip? made'), Packet.ip?_inj made made']
  exact and_left_comm

/-! ### One host in both families -/

namespace Mapped

/-- The address 10.0.0.7 of a host. -/
def quad : Packet := ⟨2, 32, 0, 4, [10, 0, 0, 7]⟩

/-- The address of the other family that stands for it. -/
def groups : Packet := ⟨3, 128, 0, 16, [0, 0, 0, 0, 0, 0, 0, 0, 0, 0, 255, 255, 10, 0, 0, 7]⟩

theorem text_ne_of_family : quad.WellFormed ∧ groups.WellFormed ∧
    text? quad.octets false ≠ text? groups.octets false := by
  refine ⟨by decide, by decide, fun same => ?_⟩
  have kept := ((text_keeps_identity false).2.2 quad groups (by decide) (by decide)).mp same
  exact absurd kept.1 (by decide)

end Mapped

end Inet

end PgMetrics
