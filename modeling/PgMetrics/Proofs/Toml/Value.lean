import PgMetrics.Proofs.Text.Blank
import PgMetrics.Proofs.Text.Number
import PgMetrics.Proofs.Toml.Quoted
import PgMetrics.Toml.Value

/-!
# Keys and values of TOML, written and read

A key, a path of keys and a value read back as themselves from the front of a text. A key ends
before any character that a bare key could not have; a value ends with its line.

## Main results

* `integer?_integer` — whole numbers.
* `keys?_path` — the path of a header, or a single key.
* `value?_value` — the values that stand in a pair.
-/

namespace PgMetrics.Toml

/-! ## Numbers -/

theorem grouped?_of_digits {s : List Char} (digits : ∀ c ∈ s, c.isDigit = true) (ne : s ≠ []) :
    grouped? Char.isDigit s = some s := by
  induction s with
  | nil => exact absurd rfl ne
  | cons c s ih =>
    obtain ⟨first, others⟩ := List.forall_mem_cons.mp digits
    cases s with
    | nil => rw [grouped?, if_pos first]
    | cons d s =>
      have : d ≠ '_' := Text.ne_of_isDigit (others d List.mem_cons_self) rfl
      rw [grouped?, if_pos first, ih others (by simp)]
      · rfl
      · simp
      · simpa using this

theorem decimalDigits?_decimal (n : Nat) :
    decimalDigits? (Text.decimal n) = some (Text.decimal n) := by
  rw [decimalDigits?, grouped?_of_digits (fun _ => Text.isDigit_of_mem_decimal)
    (Text.decimal_ne_nil n)]
  rcases n.eq_zero_or_pos with rfl | pos
  · rfl
  · simp [Option.filter, Text.head?_decimal pos]

theorem splitSign_integer (i : Int) :
    ∃ sign n, splitSign (Text.integer i) = (sign, Text.decimal n) ∧
      sign ++ Text.decimal n = Text.integer i := by
  cases i with
  | negSucc n => exact ⟨['-'], n + 1, rfl, rfl⟩
  | ofNat n =>
    refine ⟨[], n, ?_, rfl⟩
    have digits := fun c => Text.isDigit_of_mem_decimal (n := n) (c := c)
    rw [Text.integer]
    unfold splitSign
    split
    · exact absurd (digits '+' (by simp [*])) (by decide)
    · exact absurd (digits '-' (by simp [*])) (by decide)
    · rfl

theorem not_mem_integer {i : Int} {c : Char} (h : c.isDigit = false ∧ c ≠ '-') :
    c ∉ Text.integer i :=
  fun mem => (Text.mem_integer mem).elim h.2 (by simp [h.1])

theorem integer?_integer {i : Int} (fits : inRange i = true) :
    integer? (Text.integer i) = some i := by
  have whole : wholeNumber? (Text.integer i) = some i := by
    obtain ⟨sign, n, split, joined⟩ := splitSign_integer i
    unfold wholeNumber?
    split
    · exact absurd (by simp [*]) (not_mem_integer (i := i) (c := 'x') (by decide))
    · exact absurd (by simp [*]) (not_mem_integer (i := i) (c := 'o') (by decide))
    · exact absurd (by simp [*]) (not_mem_integer (i := i) (c := 'b') (by decide))
    · rw [split]
      simp only [decimalDigits?_decimal, Option.bind_some, joined, Text.integer?_integer]
  simp [integer?, whole, Option.filter, fits]

/-! ## Keys -/

/-- Whether `c` may stand first in a key. -/
def startsKey (c : Char) : Bool := isBare c || c == '"' || c == '\''

theorem exists_key (k : String) : ∃ c s, Written.key k = c :: s ∧ startsKey c = true := by
  unfold Written.key
  dsimp only
  split
  case isTrue h =>
    cases written : k.toList with
    | nil => simp [written] at h
    | cons c s =>
      have : isBare c = true := by simp_all
      exact ⟨c, s, rfl, by simp [startsKey, this]⟩
  split
  · exact ⟨'"', _, rfl, rfl⟩
  split
  · exact ⟨'\'', _, rfl, rfl⟩
  · exact ⟨'"', _, rfl, rfl⟩

theorem keyPart?_key (k : String) {rest : List Char} (stop : ∀ c ∈ rest.head?, isBare c = false) :
    keyPart? (Written.key k ++ rest) = some (k, rest) := by
  have quoted {w : List Char} (h : quotedKey? (w ++ rest) = some (k.toList, rest)) :
      keyPart? (w ++ rest) = some (k, rest) := by
    rw [keyPart?, h]
    simp
  unfold Written.key
  dsimp only
  split
  case isTrue h =>
    obtain ⟨ne, bare⟩ := Bool.and_eq_true_iff.mp h
    rw [List.all_eq_true] at bare
    have noQuote : quotedKey? (k.toList ++ rest) = none := by
      cases written : k.toList with
      | nil => simp [written] at ne
      | cons c s =>
        have first : isBare c = true := bare c (by simp [written])
        unfold quotedKey?
        split
        · simp_all [isBare]
        · simp_all [isBare]
        · rfl
    rw [keyPart?, noQuote]
    simp only [List.takeWhile_append_of_pos bare, Text.takeWhile_of_head? stop,
      List.dropWhile_append_of_pos bare, Text.dropWhile_of_head? stop, List.append_nil]
    simp_all
  split
  · exact quoted (quotedKey?_basic ..)
  split
  case isTrue h =>
    simp only [Bool.and_eq_true, Bool.not_eq_true', decide_eq_true_eq] at h
    exact quoted (quotedKey?_literal (isPlain_of_not_needsEscape h.1.1 h.1.2) h.2 rest)
  · exact quoted (quotedKey?_basic ..)

@[simp]
theorem path_singleton (k : String) : Written.path [k] = Written.key k := by
  simp [Written.path]

theorem path_cons (k k' : String) (ks : List String) :
    Written.path (k :: k' :: ks) = Written.key k ++ '.' :: Written.path (k' :: ks) := by
  simp [Written.path]

theorem skipSpaces_of_head? {s : List Char} (h : ∀ c ∈ s.head?, isSpace c = false) :
    skipSpaces s = s :=
  Text.dropWhile_of_head? h

theorem ne_of_startsKey {c d : Char} (h : startsKey c = true) (other : startsKey d = false) :
    c ≠ d := by
  rintro rfl
  simp [other] at h

theorem isSpace_of_startsKey {c : Char} (h : startsKey c = true) : isSpace c = false := by
  simp [isSpace, ne_of_startsKey h (d := ' ') rfl, ne_of_startsKey h (d := '\t') rfl]

theorem skipSpaces_key (k : String) (t : List Char) :
    skipSpaces (Written.key k ++ t) = Written.key k ++ t := by
  obtain ⟨c, s, h, first⟩ := exists_key k
  refine skipSpaces_of_head? ?_
  simpa [h] using isSpace_of_startsKey first

theorem keyParts?_path {ks : List String} (ne : ks ≠ []) {fuel : Nat} (enough : ks.length ≤ fuel)
    {rest : List Char} (stop : ∀ c ∈ rest.head?, isBare c = false)
    (last : (skipSpaces rest).head? ≠ some '.') :
    keyParts? fuel (Written.path ks ++ rest) = some (ks, skipSpaces rest) := by
  induction ks generalizing fuel with
  | nil => exact absurd rfl ne
  | cons k ks ih =>
    obtain ⟨n, rfl⟩ : ∃ n, fuel = n + 1 := ⟨fuel - 1, by simp at enough; omega⟩
    cases ks with
    | nil =>
      rw [path_singleton, keyParts?, skipSpaces_key, keyPart?_key k stop]
      simp only [Option.bind_eq_bind, Option.bind_some]
      split
      · simp_all
      · rfl
    | cons k' ks =>
      have ih := @ih (by simp) n (by simpa using enough)
      rw [path_cons, List.append_assoc, keyParts?, skipSpaces_key,
        keyPart?_key k (by simp [isBare])]
      have dot : skipSpaces ('.' :: (Written.path (k' :: ks) ++ rest)) =
        '.' :: (Written.path (k' :: ks) ++ rest) := rfl
      simp [dot, ih]

theorem keys?_path (ks : List String) (k : String) (few : ks.length + 1 < depthLimit)
    (rest : List Char) (stop : ∀ c ∈ rest.head?, isBare c = false)
    (last : (skipSpaces rest).head? ≠ some '.') :
    keys? (Written.path (ks ++ [k]) ++ rest) = some ((ks, k), skipSpaces rest) := by
  rw [keys?, keyParts?_path (by simp) (by simpa using Nat.le_of_lt few) stop last]
  simp [few]

/-! ## Values -/

theorem endsWord_of_isBare {c : Char} (h : isBare c = true) : endsWord c = false := by
  rw [Bool.eq_false_iff]
  intro ends
  simp only [endsWord, isSpace, Bool.or_eq_true, beq_iff_eq] at ends
  rcases ends with ((((((rfl | rfl) | rfl) | rfl) | rfl) | rfl) | rfl) | rfl <;>
    exact absurd h (by decide)

/-- A word of characters that a bare key may have is a value up to the end of its line. -/
theorem value?_of_isBare {w : List Char} (bare : ∀ c ∈ w, isBare c = true) (ne : w ≠ [])
    (rest : List Char) :
    value? (w ++ '\n' :: rest) = (wordValue? w).map fun t => (t, '\n' :: rest) := by
  have inWord : ∀ c ∈ w, (!endsWord c) = true := fun c hc => by
    rw [endsWord_of_isBare (bare c hc)]
    rfl
  have front : wordAt (w ++ '\n' :: rest) = w := by
    rw [wordAt, List.takeWhile_append_of_pos inWord]
    simp [endsWord]
  have back : afterWord (w ++ '\n' :: rest) = '\n' :: rest := by
    rw [afterWord, List.dropWhile_append_of_pos inWord]
    simp [endsWord]
  have word : word? (w ++ '\n' :: rest) = (wordValue? w).map fun t => (t, '\n' :: rest) := by
    rw [word?]
    simp only [front, back]
    cases wordValue? w <;> rfl
  obtain ⟨c, s, rfl⟩ := List.exists_cons_of_ne_nil ne
  have first := bare c List.mem_cons_self
  have noString : string? (c :: s ++ '\n' :: rest) = none := by
    unfold string?
    split <;> simp_all [isBare]
  rw [← word]
  unfold value? valueAt?
  split
  · simp_all [isBare]
  · simp_all [isBare]
  · rw [noString]

theorem value?_of_string? {s text rest : List Char} (h : string? s = some (text, rest)) :
    value? s = some (.text (String.ofList text), rest) := by
  unfold value? valueAt?
  split
  · cases h
  · cases h
  · rw [h]

theorem isBare_of_mem_integer {i : Int} {c : Char} (h : c ∈ Text.integer i) : isBare c = true := by
  rcases Text.mem_integer h with rfl | digit
  · rfl
  · simp [isBare, Char.isAlphanum, digit]

theorem wordValue?_integer {i : Int} (fits : inRange i = true) :
    wordValue? (Text.integer i) = some (.number i) := by
  have noTrue : Text.integer i ≠ "true".toList := fun h =>
    not_mem_integer (i := i) (c := 't') (by decide) (by simp [h])
  have noFalse : Text.integer i ≠ "false".toList := fun h =>
    not_mem_integer (i := i) (c := 'f') (by decide) (by simp [h])
  rw [wordValue?, if_neg noTrue, if_neg noFalse, integer?_integer fits]

/-- A value that can be written reads back as itself from the front of its line. -/
theorem value?_value {t : Tree} {s : List Char} (h : Written.value t = .ok s) (rest : List Char) :
    value? (s ++ '\n' :: rest) = some (t, '\n' :: rest) := by
  unfold Written.value at h
  split at h
  case h_1 text =>
    cases h
    rw [value?_of_string? (string?_string (by simp) (by simp) _), String.ofList_toList]
  case h_2 b =>
    cases h
    cases b <;> exact value?_of_isBare (List.all_eq_true.mp rfl) (by decide) rest
  case h_3 i =>
    split at h
    case isTrue fits =>
      cases h
      rw [value?_of_isBare (fun _ => isBare_of_mem_integer) (Text.integer_ne_nil i),
        wordValue?_integer fits]
      rfl
    case isFalse => cases h
  case h_4 =>
    cases h
    rfl
  case h_5 => cases h

theorem exists_string (s : List Char) :
    ∃ c t, Written.string s = c :: t ∧ (c = '"' ∨ c = '\'') := by
  unfold Written.string
  dsimp only
  split
  · exact ⟨'"', _, rfl, .inl rfl⟩
  split
  · exact ⟨'\'', _, rfl, .inr rfl⟩
  split
  · exact ⟨'"', _, rfl, .inl rfl⟩
  split
  · exact ⟨'\'', _, rfl, .inr rfl⟩
  split
  · exact ⟨'"', _, rfl, .inl rfl⟩
  · exact ⟨'"', _, rfl, .inl rfl⟩

theorem skipSpaces_value {t : Tree} {s : List Char} (h : Written.value t = .ok s)
    (rest : List Char) : skipSpaces (s ++ rest) = s ++ rest := by
  have visible {c : Char} {t : List Char} (h : startsKey c = true) :
      skipSpaces (c :: t ++ rest) = c :: t ++ rest :=
    skipSpaces_of_head? (by simpa using isSpace_of_startsKey h)
  unfold Written.value at h
  split at h
  case h_1 text =>
    cases h
    obtain ⟨c, t, written, rfl | rfl⟩ := exists_string text.toList <;> rw [written] <;>
      exact visible rfl
  case h_2 b =>
    cases h
    cases b <;> rfl
  case h_3 i =>
    split at h
    case isTrue =>
      cases h
      obtain ⟨c, t, written⟩ := List.exists_cons_of_ne_nil (Text.integer_ne_nil i)
      have bare : isBare c = true := isBare_of_mem_integer (i := i) (by simp [written])
      rw [written]
      exact visible (by simp [startsKey, bare])
    case isFalse => cases h
  case h_4 =>
    cases h
    rfl
  case h_5 => cases h

end PgMetrics.Toml
