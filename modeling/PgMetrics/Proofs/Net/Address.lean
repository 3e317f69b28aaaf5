import PgMetrics.Net.Address
import PgMetrics.Proofs.Text.Blank
import PgMetrics.Proofs.Text.Number

/-!
# Texts of network addresses

No two addresses have one text. An address of groups tells itself from a quad by its colons, and
one that ends in a quad from the others by its points. In the others the groups stand between
colons, and where some are left out the two colons show how many come before and after them.

## Main definitions

* `groupTexts` — the texts of all groups of a printed address.
* `IpAddress.Whole` — addresses with as many groups as their family has.

## Main results

* `zeroRun_split` — the run that is left out, between what is printed.
* `groupTexts_shortened` — what is left out can be told from the rest.
* `IpAddress.render_inj` — addresses are told by their texts.
* `IpAddress.ofOctets?_eq_some_iff` — which octets are an address of which family.
-/

namespace PgMetrics

/-! ## Groups of octets -/

theorem toNat_groupOf (high low : UInt8) :
    (groupOf high low).toNat = 256 * high.toNat + low.toNat := by
  have := high.toNat_lt
  have := low.toNat_lt
  simp only [groupOf, UInt16.toNat_add, UInt16.toNat_mul, UInt8.toNat_toUInt16, UInt16.toNat_ofNat]
  omega

theorem groupOf_inj {a b c d : UInt8} : groupOf a b = groupOf c d ↔ a = c ∧ b = d := by
  have := b.toNat_lt
  have := d.toNat_lt
  simp only [← UInt16.toNat_inj, ← UInt8.toNat_inj, toNat_groupOf]
  omega

theorem length_groupsOf (octets : List UInt8) : (groupsOf octets).length = octets.length / 2 := by
  fun_induction groupsOf octets with
  | case1 high low rest ih =>
    simp only [List.length_cons, ih]
    omega
  | case2 octets other =>
    rcases octets with _ | ⟨a, _ | ⟨b, rest⟩⟩
    · rfl
    · simp
    · exact absurd rfl (other a b rest)

/-- Pairs of octets are told by their groups. -/
theorem groupsOf_inj {k : Nat} {s t : List UInt8} (hs : s.length = 2 * k) (ht : t.length = 2 * k)
    (same : groupsOf s = groupsOf t) : s = t := by
  induction k generalizing s t with
  | zero => rw [List.length_eq_zero_iff.mp hs, List.length_eq_zero_iff.mp ht]
  | succ k ih =>
    obtain ⟨a, b, s, rfl⟩ : ∃ a b s', s = a :: b :: s' := by
      rcases s with _ | ⟨a, _ | ⟨b, s⟩⟩ <;> grind
    obtain ⟨c, d, t, rfl⟩ : ∃ c d t', t = c :: d :: t' := by
      rcases t with _ | ⟨c, _ | ⟨d, t⟩⟩ <;> grind
    obtain ⟨first, others⟩ := List.cons.inj same
    obtain ⟨rfl, rfl⟩ := groupOf_inj.mp first
    rw [ih (by grind) (by grind) others]

namespace Quad

/-- A quad of two groups stands for them. -/
theorem groups_ofGroups (high low : UInt16) : (ofGroups high low).groups = [high, low] := by
  have group (g : UInt16) : groupOf (g / 256).toUInt8 g.toUInt8 = g := by
    have := g.toNat_lt
    rw [← UInt16.toNat_inj, toNat_groupOf]
    simp only [UInt16.toNat_toUInt8, UInt16.toNat_div, UInt16.toNat_ofNat, Nat.reducePow,
      Nat.reduceMod]
    omega
  rw [groups, ofGroups, group, group]

theorem ofGroups_inj {a b c d : UInt16} : ofGroups a b = ofGroups c d ↔ a = c ∧ b = d := by
  constructor
  · intro same
    have groups := congrArg groups same
    rw [groups_ofGroups, groups_ofGroups] at groups
    simpa using groups
  · rintro ⟨rfl, rfl⟩
    rfl

theorem pieces_render (q : Quad) : Text.pieces (· == '.') q.render =
    [Text.decimal q.a.toNat, Text.decimal q.b.toNat, Text.decimal q.c.toNat,
      Text.decimal q.d.toNat] := by
  have whole (n : Nat) : ∀ c ∈ Text.decimal n, (c == '.') = false := fun c mem =>
    beq_false_of_ne (Text.ne_of_isDigit (Text.isDigit_of_mem_decimal mem) rfl)
  simp only [render, Text.pieces_append (whole _) (beq_self_eq_true '.'),
    Text.pieces_of_none (whole _)]

theorem render_inj {q r : Quad} : q.render = r.render ↔ q = r := by
  constructor
  · intro same
    have parts := congrArg (Text.pieces (· == '.')) same
    rw [pieces_render, pieces_render] at parts
    simp only [List.cons.injEq, and_true, Text.decimal_inj, UInt8.toNat_inj] at parts
    obtain ⟨a, b, c, d⟩ := parts
    cases q
    cases r
    rw [mk.injEq]
    exact ⟨a, b, c, d⟩
  · rintro rfl
    rfl

/-- A quad has only digits and points. -/
theorem notMem_render {c : Char} (point : c ≠ '.') (digit : c.isDigit = false) (q : Quad) :
    c ∉ q.render := by
  simp [render, Text.notMem_decimal digit, point]

theorem point_mem_render (q : Quad) : '.' ∈ q.render := by
  simp [render]

end Quad

/-! ## The run that is left out -/

theorem replicate_leadingZeros (groups : List UInt16) :
    List.replicate (leadingZeros groups) 0 ++ groups.drop (leadingZeros groups) = groups := by
  induction groups with
  | nil => rfl
  | cons g rest ih =>
    by_cases zero : g = 0
    · subst zero
      have one : leadingZeros (0 :: rest) = leadingZeros rest + 1 := by simp [leadingZeros]
      rw [one, List.replicate_succ, List.drop_succ_cons, List.cons_append, ih]
    · simp [leadingZeros, zero]

theorem leadingZeros_le (groups : List UInt16) : leadingZeros groups ≤ groups.length :=
  (List.takeWhile_sublist _).length_le

/-- Groups are what stands before the run of zeros, the run, and what stands after it. -/
theorem zeroRun_split (groups : List UInt16) :
    groups.take (zeroRun groups).start ++ List.replicate (zeroRun groups).length 0 ++
        groups.drop ((zeroRun groups).start + (zeroRun groups).length) = groups ∧
      (zeroRun groups).start + (zeroRun groups).length ≤ groups.length := by
  induction groups with
  | nil => exact ⟨rfl, Nat.le_refl 0⟩
  | cons g rest ih =>
    obtain ⟨split, inside⟩ := ih
    rw [zeroRun]
    split
    case isTrue =>
      refine ⟨?_, ?_⟩
      · simpa using replicate_leadingZeros (g :: rest)
      · simpa using leadingZeros_le (g :: rest)
    case isFalse =>
      refine ⟨?_, ?_⟩
      · rw [Nat.add_right_comm, List.take_succ_cons, List.drop_succ_cons, List.cons_append,
          List.cons_append, split]
      · rw [Nat.add_right_comm, List.length_cons]
        exact Nat.succ_le_succ inside

/-- Groups as they are printed where they do not stand for a quad. -/
def shortened (groups : List UInt16) : List Char :=
  let run := zeroRun groups
  if 1 < run.length then
    renderGroups (groups.take run.start) ++ [':', ':'] ++
      renderGroups (groups.drop (run.start + run.length))
  else renderGroups groups

/-- The text of a group. -/
def groupText (g : UInt16) : List Char := Nat.toDigits 16 g.toNat

theorem groupText_injective : Function.Injective groupText := by
  intro g h same
  have read := congrArg (Text.numberIn? 16) same
  rw [groupText, groupText, Text.numberIn?_toDigits (by decide) (by decide),
    Text.numberIn?_toDigits (by decide) (by decide)] at read
  exact UInt16.toNat_inj.mp (Option.some.inj read)

theorem not_colon_of_mem_groupText {g : UInt16} {c : Char} (h : c ∈ groupText g) :
    (c == ':') = false := by
  refine beq_false_of_ne ?_
  rintro rfl
  exact absurd (Text.hexDigit?_of_mem_toDigits h) (by decide)

/-- The pieces of joined groups are their texts, and an empty one if there are no groups. -/
theorem pieces_renderGroups (groups : List UInt16) :
    Text.pieces (· == ':') (renderGroups groups) =
      if groups = [] then [[]] else groups.map groupText := by
  split
  case isTrue empty =>
    subst empty
    rfl
  case isFalse ne =>
    refine Text.pieces_intersperse (by simpa using ne) (fun text mem => ?_) (beq_self_eq_true ':')
    obtain ⟨g, -, rfl⟩ := List.mem_map.mp mem
    exact fun c => not_colon_of_mem_groupText

theorem takeWhile_map_groupText (groups : List UInt16) (rest : List (List Char)) :
    (groups.map groupText ++ [] :: rest).takeWhile (!·.isEmpty) = groups.map groupText := by
  have printed : ∀ text ∈ groups.map groupText, (!text.isEmpty) = true := by
    simp [groupText, Nat.toDigits_ne_nil]
  rw [List.takeWhile_append_of_pos printed]
  simp

/-- The pieces before an empty one are the texts of the groups. -/
theorem takeWhile_pieces (groups : List UInt16) (rest : List (List Char)) :
    (Text.pieces (· == ':') (renderGroups groups) ++ [] :: rest).takeWhile (!·.isEmpty) =
        groups.map groupText ∧
      ((Text.pieces (· == ':') (renderGroups groups)).reverse ++ [] :: rest).takeWhile
        (!·.isEmpty) = (groups.map groupText).reverse := by
  rw [pieces_renderGroups]
  split
  case isTrue empty =>
    subst empty
    exact ⟨rfl, rfl⟩
  case isFalse =>
    refine ⟨takeWhile_map_groupText groups rest, ?_⟩
    rw [← List.map_reverse]
    exact takeWhile_map_groupText groups.reverse rest

/-- The texts of all eight groups of a printed address: those before two colons in a row, as many
zeros as are missing, and those after the colons. -/
def groupTexts (s : List Char) : List (List Char) :=
  let parts := Text.pieces (· == ':') s
  let front := parts.takeWhile (!·.isEmpty)
  let back := (parts.reverse.takeWhile (!·.isEmpty)).reverse
  if front.length = 8 then front
  else front ++ List.replicate (8 - front.length - back.length) ['0'] ++ back

theorem pieces_around (a b : List UInt16) :
    Text.pieces (· == ':') (renderGroups a ++ [':', ':'] ++ renderGroups b) =
      Text.pieces (· == ':') (renderGroups a) ++
        [] :: Text.pieces (· == ':') (renderGroups b) := by
  have colon : (':' == ':') = true := rfl
  rw [List.append_assoc, List.cons_append, List.singleton_append]
  rw [Text.pieces_append_sep (p := fun c => c == ':') _ colon]
  rfl

/-- Two colons stand for the zeros that are missing between the groups around them. -/
theorem groupTexts_around {a b : List UInt16} (fewer : a.length + b.length < 8) :
    groupTexts (renderGroups a ++ [':', ':'] ++ renderGroups b) =
      (a ++ List.replicate (8 - a.length - b.length) 0 ++ b).map groupText := by
  have reversed : (Text.pieces (· == ':') (renderGroups a) ++
      [] :: Text.pieces (· == ':') (renderGroups b)).reverse =
        (Text.pieces (· == ':') (renderGroups b)).reverse ++
          [] :: (Text.pieces (· == ':') (renderGroups a)).reverse := by
    simp
  have zeros (n : Nat) : List.replicate n ['0'] = (List.replicate n 0).map groupText := by
    rw [List.map_replicate]
    rfl
  unfold groupTexts
  rw [pieces_around]
  dsimp only
  rw [reversed, (takeWhile_pieces a _).1, (takeWhile_pieces b _).2, List.reverse_reverse,
    List.length_map, List.length_map, if_neg (by omega), zeros, List.map_append, List.map_append]

theorem groupTexts_renderGroups {groups : List UInt16} (eight : groups.length = 8) :
    groupTexts (renderGroups groups) = groups.map groupText := by
  have ne : groups ≠ [] := by
    rintro rfl
    cases eight
  have all : (groups.map groupText).takeWhile (!·.isEmpty) = groups.map groupText := by
    rw [List.takeWhile_eq_self_iff]
    simp [groupText, Nat.toDigits_ne_nil]
  unfold groupTexts
  dsimp only
  rw [pieces_renderGroups, if_neg ne, all, List.length_map, if_pos eight]

/-- What is left out of a printed address can be told from what is not. -/
theorem groupTexts_shortened {groups : List UInt16} (eight : groups.length = 8) :
    groupTexts (shortened groups) = groups.map groupText := by
  obtain ⟨split, inside⟩ := zeroRun_split groups
  unfold shortened
  generalize zeroRun groups = run at split inside ⊢
  dsimp only
  split
  case isTrue some =>
    have before : (groups.take run.start).length = run.start := by grind
    have after : (groups.drop (run.start + run.length)).length =
        8 - (run.start + run.length) := by grind
    rw [groupTexts_around (by omega), before, after]
    have missing : 8 - run.start - (8 - (run.start + run.length)) = run.length := by omega
    rw [missing, split]
  case isFalse => exact groupTexts_renderGroups eight

/-- Of two runs as long as each other the first is left out. -/
example : shortened [1, 0, 0, 2, 0, 0, 3, 10] = "1::2:0:0:3:a".toList := by decide

theorem notMem_renderGroups {c : Char} (colon : c ≠ ':') (digit : Text.hexDigit? c = none)
    (groups : List UInt16) : c ∉ renderGroups groups := by
  have group (g : UInt16) : c ∉ groupText g := fun mem => by
    simpa [digit] using Text.hexDigit?_of_mem_toDigits mem
  induction groups with
  | nil => exact List.not_mem_nil
  | cons g rest ih =>
    cases rest with
    | nil => simpa [renderGroups, groupText] using group g
    | cons next rest =>
      have joined : renderGroups (g :: next :: rest) =
          groupText g ++ ':' :: renderGroups (next :: rest) := rfl
      rw [joined, List.mem_append, List.mem_cons, not_or, not_or]
      exact ⟨group g, colon, ih⟩

/-- Groups that do not stand for a quad have only digits and colons. -/
theorem notMem_shortened {c : Char} (colon : c ≠ ':') (digit : Text.hexDigit? c = none)
    (groups : List UInt16) : c ∉ shortened groups := by
  unfold shortened
  dsimp only
  split
  · simp [notMem_renderGroups colon digit, colon]
  · exact notMem_renderGroups colon digit groups

theorem shortened_inj {groups others : List UInt16} (hg : groups.length = 8)
    (ho : others.length = 8) (same : shortened groups = shortened others) : groups = others := by
  have texts := congrArg groupTexts same
  rw [groupTexts_shortened hg, groupTexts_shortened ho] at texts
  exact groupText_injective.list_map texts

namespace IpAddress

/-- An address with as many groups as its family has. -/
def Whole : IpAddress → Prop
  | .v4 _ => True
  | .v6 groups => groups.length = 8

/-- An address of groups ends in the quad that it stands for, or leaves out a run. -/
theorem render_v6 (groups : List UInt16) :
    (∃ high low, groups = [0, 0, 0, 0, 0, 0xFFFF, high, low] ∧
        (v6 groups).render = "::ffff:".toList ++ (Quad.ofGroups high low).render) ∨
      (v6 groups).render = shortened groups := by
  unfold render
  split
  case h_1 q same => cases same
  case h_2 high low same =>
    cases same
    exact .inl ⟨high, low, rfl, rfl⟩
  case h_3 others same =>
    cases same
    exact .inr rfl

theorem point_notMem_shortened (groups : List UInt16) : '.' ∉ shortened groups :=
  notMem_shortened (by decide) (by decide) groups

/-- An address of groups is not written as a quad. -/
theorem render_v6_ne_quad (groups : List UInt16) (q : Quad) : (v6 groups).render ≠ q.render := by
  intro same
  rcases render_v6 groups with ⟨high, low, -, mapped⟩ | short
  · refine Quad.notMem_render (c := ':') (by decide) (by decide) q ?_
    rw [← same, mapped]
    exact List.mem_cons_self
  · refine point_notMem_shortened groups ?_
    rw [← short, same]
    exact q.point_mem_render

theorem render_v6_inj {groups others : List UInt16} (hg : groups.length = 8)
    (ho : others.length = 8) (same : (v6 groups).render = (v6 others).render) :
    groups = others := by
  have point (high low : UInt16) : '.' ∈ "::ffff:".toList ++ (Quad.ofGroups high low).render :=
    List.mem_append_right _ (Quad.point_mem_render _)
  rcases render_v6 groups with ⟨a, b, rfl, mapped⟩ | short <;>
    rcases render_v6 others with ⟨c, d, rfl, mapped'⟩ | short'
  · rw [mapped, mapped', List.append_cancel_left_eq, Quad.render_inj, Quad.ofGroups_inj] at same
    rw [same.1, same.2]
  · exact absurd (same ▸ mapped ▸ point a b) (short' ▸ point_notMem_shortened others)
  · exact absurd (same ▸ mapped' ▸ point c d) (short ▸ point_notMem_shortened groups)
  · exact shortened_inj hg ho (short ▸ short' ▸ same)

/-- Addresses are told by their texts. -/
theorem render_inj {a b : IpAddress} (ha : a.Whole) (hb : b.Whole) :
    a.render = b.render ↔ a = b := by
  constructor
  · intro same
    cases a with
    | v4 q =>
      cases b with
      | v4 r => exact congrArg v4 (Quad.render_inj.mp same)
      | v6 groups => exact absurd same.symm (render_v6_ne_quad groups q)
    | v6 groups =>
      cases b with
      | v4 r => exact absurd same (render_v6_ne_quad groups r)
      | v6 others => exact congrArg v6 (render_v6_inj ha hb same)
  · rintro rfl
    rfl

/-- There is no slash in the text of an address. -/
theorem slash_notMem_render (a : IpAddress) : '/' ∉ a.render := by
  have quad : ∀ q : Quad, '/' ∉ q.render := Quad.notMem_render (by decide) (by decide)
  cases a with
  | v4 q => exact quad q
  | v6 groups =>
    rcases render_v6 groups with ⟨high, low, -, mapped⟩ | short
    · rw [mapped, List.mem_append, not_or]
      exact ⟨by decide, quad _⟩
    · rw [short]
      exact notMem_shortened (by decide) (by decide) groups

theorem ofOctets?_eq_some_iff {family length : Nat} {octets : List UInt8} {a : IpAddress} :
    ofOctets? family length octets = some a ↔
      (family = 2 ∧ length = 4 ∧ ∃ q : Quad, octets = [q.a, q.b, q.c, q.d] ∧ a = .v4 q) ∨
        (family = 3 ∧ length = 16 ∧ octets.length = 16 ∧ a = .v6 (groupsOf octets)) := by
  constructor
  · intro made
    unfold ofOctets? at made
    split at made
    case h_1 a b c d => exact .inl ⟨rfl, rfl, ⟨a, b, c, d⟩, rfl, (Option.some.inj made).symm⟩
    case h_2 octets =>
      split at made
      case isTrue sixteen => exact .inr ⟨rfl, rfl, sixteen, (Option.some.inj made).symm⟩
      case isFalse => cases made
    case h_3 => cases made
  · rintro (⟨rfl, rfl, q, rfl, rfl⟩ | ⟨rfl, rfl, sixteen, rfl⟩)
    · rfl
    · rw [ofOctets?, if_pos sixteen]

end IpAddress

end PgMetrics
