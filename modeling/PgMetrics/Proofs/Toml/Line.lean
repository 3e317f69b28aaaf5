import PgMetrics.Proofs.Outcome
import PgMetrics.Proofs.Toml.Table
import PgMetrics.Proofs.Toml.Value
import PgMetrics.Toml.Document

/-!
# Lines of TOML, written and read

Each line that is written does one thing to the tables when it is read, whatever stands after it: a
pair adds a value to the table that is being filled, and a header begins a table or a further table
of a series. What a text of several lines does is told line by line.

## Main definitions

* `Reads` — a text that leads from one state of the tables to another.
* `pairsOf` — what the pairs of a table are read back as.

## Main results

* `exists_pairs` — the pairs of a table.
* `exists_block` — a table with its header and its pairs.
-/

namespace PgMetrics.Toml

/-! ## The end of a line -/

theorem finishLine?_break (s : List Char) : finishLine? ('\n' :: s) = some s := rfl

/-- A line that begins with a key is not blank. -/
theorem finishLine?_of_startsKey {c : Char} (h : startsKey c = true) (s : List Char) :
    finishLine? (c :: s) = none := by
  have ne {d : Char} {t : List Char} (other : startsKey d = false) : c :: s ≠ d :: t :=
    fun eq => ne_of_startsKey h other (List.cons.inj eq).1
  have stays : skipSpaces (c :: s) = c :: s :=
    skipSpaces_of_head? (by simpa using isSpace_of_startsKey h)
  have noComment : skipComment (c :: s) = c :: s := by
    unfold skipComment
    split
    · exact absurd ‹_› (ne rfl)
    · rfl
  have noBreak : dropBreak? (c :: s) = none := by
    unfold dropBreak?
    split
    · exact absurd ‹_› (ne rfl)
    · exact absurd ‹_› (ne rfl)
    · rfl
  rw [finishLine?, stays, noComment]
  exact noBreak

/-! ## One line -/

theorem pair_eq_ok {e : String × Tree} {s : List Char} (h : Written.pair e = .ok s) :
    ∃ v, Written.value e.2 = .ok v ∧ s = Written.key e.1 ++ " = ".toList ++ v ++ ['\n'] := by
  obtain ⟨v, value, done⟩ := bind_eq_ok.mp h
  cases done
  exact ⟨v, value, rfl⟩

/-- No key begins with a bracket. -/
theorem path_ne_bracket (keys : List String) (k : String) (s t : List Char) :
    Written.path (keys ++ [k]) ++ s ≠ '[' :: t := by
  intro h
  have first {k : String} {u : List Char} : Written.key k ++ u ≠ '[' :: t := by
    intro h
    obtain ⟨c, v, written, starts⟩ := exists_key k
    rw [written] at h
    exact ne_of_startsKey starts rfl (List.cons.inj h).1
  match keys with
  | [] => exact first (by simpa using h)
  | [a] => exact first (by simpa [path_cons] using h)
  | a :: b :: keys => exact first (by simpa [path_cons] using h)

theorem line?_pair (f : Filling) {e : String × Tree} {s : List Char}
    (written : Written.pair e = .ok s) (rest : List Char) :
    line? f (s ++ rest) = (f.addPair? [] e.1 e.2).map fun f => (f, rest) := by
  obtain ⟨v, value, rfl⟩ := pair_eq_ok written
  have key := keys?_path [] e.1 (by decide) (' ' :: '=' :: ' ' :: (v ++ '\n' :: rest))
    (by simp [isBare]) (by simp [skipSpaces, isSpace])
  have text : Written.key e.1 ++ " = ".toList ++ v ++ ['\n'] ++ rest =
      Written.path ([] ++ [e.1]) ++ ' ' :: '=' :: ' ' :: (v ++ '\n' :: rest) := by
    simp
  have start : skipSpaces (' ' :: '=' :: ' ' :: (v ++ '\n' :: rest)) =
    '=' :: ' ' :: (v ++ '\n' :: rest) := rfl
  have mark : Text.dropStart? "=".toList ('=' :: ' ' :: (v ++ '\n' :: rest)) =
    some (' ' :: (v ++ '\n' :: rest)) := rfl
  have space : skipSpaces (' ' :: (v ++ '\n' :: rest)) = v ++ '\n' :: rest :=
    skipSpaces_value value _
  rw [text]
  unfold line?
  split
  · exact absurd ‹_› (path_ne_bracket _ _ _ _)
  · exact absurd ‹_› (path_ne_bracket _ _ _ _)
  · rw [key, start]
    simp only [Option.bind_eq_bind, Option.bind_some, mark, space, value?_value value,
      finishLine?_break]
    cases f.addPair? [] e.1 e.2 <;> rfl

theorem line?_header (f : Filling) (keys : List String) (k : String)
    (few : keys.length + 1 < depthLimit) (rest : List Char) :
    line? f ('[' :: (Written.path (keys ++ [k]) ++ "]\n".toList ++ rest)) =
      (f.openTable? keys k).map fun f => (f, rest) := by
  have key := keys?_path keys k few ("]\n".toList ++ rest)
    (by simp [isBare]) (by simp [skipSpaces, isSpace])
  have start : skipSpaces ("]\n".toList ++ rest) = ']' :: '\n' :: rest := rfl
  have mark : Text.dropStart? "]".toList (']' :: '\n' :: rest) = some ('\n' :: rest) := rfl
  rw [List.append_assoc]
  unfold line?
  split
  case h_1 s h => exact absurd (List.cons.inj h).2 (path_ne_bracket _ _ _ _)
  case h_2 s _ h =>
    obtain ⟨-, rfl⟩ := List.cons.inj h
    rw [key, start]
    simp only [Option.bind_eq_bind, Option.bind_some, mark, finishLine?_break]
    cases f.openTable? keys k <;> rfl
  case h_3 noTable => exact absurd rfl (noTable _)

theorem line?_series (f : Filling) (keys : List String) (k : String)
    (few : keys.length + 1 < depthLimit) (rest : List Char) :
    line? f ('[' :: '[' :: (Written.path (keys ++ [k]) ++ "]]\n".toList ++ rest)) =
      (f.openSeries? keys k).map fun f => (f, rest) := by
  have key := keys?_path keys k few ("]]\n".toList ++ rest)
    (by simp [isBare]) (by simp [skipSpaces, isSpace])
  have start : skipSpaces ("]]\n".toList ++ rest) = ']' :: ']' :: '\n' :: rest := rfl
  have mark : Text.dropStart? "]]".toList (']' :: ']' :: '\n' :: rest) = some ('\n' :: rest) := rfl
  rw [List.append_assoc, line?, key, start]
  simp only [Option.bind_eq_bind, Option.bind_some, mark, finishLine?_break]
  cases f.openSeries? keys k <;> rfl

/-! ## Texts -/

/-- A text that leads from one state of the tables to another, whatever stands after it. It does not
begin with the mark that the encoding may have. -/
structure Reads (f : Filling) (text : List Char) (f' : Filling) : Prop where
  head : text.head? ≠ some '\ufeff'
  read : ∃ n ≤ text.length, ∀ fuel rest, lines? (fuel + n) f (text ++ rest) = lines? fuel f' rest

namespace Reads

variable {f g h : Filling}

theorem nil (f : Filling) : Reads f [] f := ⟨nofun, 0, Nat.le_refl 0, fun _ _ => rfl⟩

theorem append {a b : List Char} (ha : Reads f a g) (hb : Reads g b h) : Reads f (a ++ b) h := by
  obtain ⟨n, hn, first⟩ := ha.read
  obtain ⟨m, hm, second⟩ := hb.read
  refine ⟨?_, m + n, ?_, fun fuel rest => ?_⟩
  · cases a with
    | nil => exact hb.head
    | cons c a => exact ha.head
  · rw [List.length_append]
    omega
  · rw [List.append_assoc, ← Nat.add_assoc, first, second]

/-- A blank line says nothing. -/
theorem blank (f : Filling) : Reads f ['\n'] f := ⟨by decide, 1, Nat.le_refl 1, fun _ _ => rfl⟩

/-- The empty text says nothing. -/
theorem eq_of_nil (h : Reads f [] g) : f = g := by
  obtain ⟨n, hn, read⟩ := h.read
  obtain rfl : n = 0 := by simpa using hn
  simpa [lines?, skipSpaces] using read 1 []

/-- A line that is read as a whole. -/
theorem of_line? {text : List Char} {c : Char} {s : List Char} (begins : text = c :: s)
    (first : startsKey c = true ∨ c = '[')
    (line : ∀ rest, line? f (text ++ rest) = some (g, rest)) : Reads f text g := by
  subst begins
  refine ⟨?_, 1, by simp, fun fuel rest => ?_⟩
  · rcases first with starts | rfl
    · simpa using ne_of_startsKey starts rfl
    · simp
  · have stays : skipSpaces (c :: s ++ rest) = c :: s ++ rest := by
      rcases first with starts | rfl
      · exact skipSpaces_of_head? (by simpa using isSpace_of_startsKey starts)
      · rfl
    have notBlank : finishLine? (c :: s ++ rest) = none := by
      rcases first with starts | rfl
      · exact finishLine?_of_startsKey starts _
      · rfl
    -- the line is neither the end of the text nor blank, so one unit of fuel goes into it
    rw [lines?, stays]
    simp only [List.cons_append] at notBlank ⊢
    rw [notBlank]
    simp only [← List.cons_append, line]
    rfl

end Reads

/-! ## Pairs -/

theorem reads_pair {root root' : Entries} {current : List String} {e : String × Tree}
    {s : List Char} (written : Written.pair e = .ok s)
    (put : along? current (put? e.1 (.value e.2)) root = some root') :
    Reads ⟨root, current⟩ s ⟨root', current⟩ := by
  obtain ⟨v, -, text⟩ := pair_eq_ok written
  obtain ⟨c, t, key, first⟩ := exists_key e.1
  have value : Toml.addPair? [] e.1 e.2 = put? e.1 (.value e.2) := by
    funext u
    rw [Toml.addPair?, List.isEmpty_nil, if_pos rfl, addValue?, put?]
    congr 1
  have added : Filling.addPair? ⟨root, current⟩ [] e.1 e.2 = some ⟨root', current⟩ := by
    rw [Filling.addPair?, within?_eq_along?, value, put]
    rfl
  refine .of_line? (c := c) (s := t ++ " = ".toList ++ v ++ ['\n']) (by simp [text, key])
    (.inl first) fun rest => ?_
  rw [line?_pair _ written, added]
  rfl

/-- Pairs with values that can be written are read back into the table that is being filled. -/
theorem exists_lines {entries : List (String × Tree)}
    (each : ∀ e ∈ entries, ∃ v, Written.value e.2 = .ok v) (current : List String) :
    ∃ lines, entries.mapM Written.pair = .ok lines ∧ ∀ root root',
      fill? current (entries.map fun e => (e.1, .value e.2)) root = some root' →
        Reads ⟨root, current⟩ lines.flatten ⟨root', current⟩ := by
  induction entries with
  | nil =>
    refine ⟨[], rfl, fun root root' h => ?_⟩
    cases h
    exact .nil _
  | cons e entries ih =>
    obtain ⟨first, others⟩ := List.forall_mem_cons.mp each
    obtain ⟨lines, written, read⟩ := ih others
    obtain ⟨v, value⟩ := first
    have line : Written.pair e = .ok (Written.key e.1 ++ " = ".toList ++ v ++ ['\n']) := by
      rw [Written.pair, value]
      rfl
    refine ⟨_ :: lines, by rw [List.mapM_cons, line, written]; rfl, fun root root' h => ?_⟩
    rw [List.map_cons, fill?_cons] at h
    obtain ⟨root₁, put, filled⟩ := Option.bind_eq_some_iff.mp h
    exact (reads_pair line put).append (read _ _ filled)

/-- What the pairs of a table are read back as. -/
def pairsOf (entries : List (String × Tree)) : Entries :=
  (entries.filter fun e => !Written.isSection e.2).map fun e => (e.1, .value e.2)

theorem nodup_pairsOf {entries : List (String × Tree)} (h : (entries.map (·.1)).Nodup) :
    ((pairsOf entries).map (·.1)).Nodup := by
  have : (pairsOf entries).map (·.1) =
      (entries.filter fun e => !Written.isSection e.2).map (·.1) := by
    simp [pairsOf]
  rw [this]
  exact h.sublist (List.filter_sublist.map _)

variable {entries : List (String × Tree)}
  (each : ∀ e ∈ entries, Written.isSection e.2 = false → ∃ v, Written.value e.2 = .ok v)

include each in
theorem exists_pairs (current : List String) :
    ∃ s, Written.pairs entries = .ok s ∧ ∀ root root',
      fill? current (pairsOf entries) root = some root' →
        Reads ⟨root, current⟩ s ⟨root', current⟩ := by
  have plain : ∀ e ∈ entries.filter fun e => !Written.isSection e.2,
      ∃ v, Written.value e.2 = .ok v := by
    intro e he
    obtain ⟨mem, noSection⟩ := List.mem_filter.mp he
    exact each e mem (by simpa using noSection)
  obtain ⟨lines, written, read⟩ := exists_lines plain current
  exact ⟨lines.flatten, by rw [Written.pairs, written]; rfl, read⟩

/-! ## Headers -/

/-- The line that begins a table. -/
def header (isSeries : Bool) (keys : List String) : List Char :=
  if isSeries then '[' :: '[' :: (Written.path keys ++ "]]\n".toList)
  else '[' :: (Written.path keys ++ "]\n".toList)

theorem block_of_pairs {keys : List String} {s : List Char} (h : Written.pairs entries = .ok s)
    (isSeries : Bool) : Written.block isSeries keys entries = .ok (header isSeries keys ++ s) := by
  rw [Written.block, h]
  cases isSeries <;> simp [header, bind, Except.bind, pure, Except.pure]

/-- The item under the key of a table of which the header and some entries were read. -/
def headed? (isSeries : Bool) (u : Entries) : Option Item → Option Item :=
  if isSeries then next? u else fresh? (.table .headed u)

theorem grows_headed? (isSeries : Bool) : Grows (headed? isSeries) := by
  cases isSeries with
  | false => exact grows_fresh? .headed
  | true => exact grows_next?

theorem reads_header (isSeries : Bool) {keys : List String} {k : String}
    (few : keys.length + 1 < depthLimit) {root root' : Entries}
    (begun : along? keys (alter? k (headed? isSeries [])) root = some root')
    (current : List String) :
    Reads ⟨root, current⟩ (header isSeries (keys ++ [k])) ⟨root', keys ++ [k]⟩ := by
  cases isSeries with
  | false =>
    have opened : Filling.openTable? ⟨root, current⟩ keys k = some ⟨root', keys ++ [k]⟩ := by
      -- a header may also be given to a table that was made on the way of another one
      have more : Toml.openTable? keys k root = some root' := by
        rw [Toml.openTable?, within?_eq_along?]
        refine along?_mono (fun _ _ => alter?_mono fun old i h => ?_) begun
        cases old with
        | none => exact h
        | some _ => cases h
      rw [Filling.openTable?, more]
      rfl
    refine .of_line? rfl (.inr rfl) fun rest => ?_
    refine (line?_header _ keys k few rest).trans ?_
    rw [opened]
    rfl
  | true =>
    have opened : Filling.openSeries? ⟨root, current⟩ keys k = some ⟨root', keys ++ [k]⟩ := by
      have same : Toml.openSeries? keys k root = some root' := by
        rw [Toml.openSeries?, within?_eq_along?, ← begun]
        congr 3
      rw [Filling.openSeries?, same]
      rfl
    refine .of_line? rfl (.inr rfl) fun rest => ?_
    refine (line?_series _ keys k few rest).trans ?_
    rw [opened]
    rfl

include each in
/-- A table is read back with its header and its pairs. -/
theorem exists_block (distinct : (entries.map (·.1)).Nodup) {keys : List String} {k : String}
    (few : keys.length + 1 < depthLimit) (isSeries : Bool) :
    ∃ s, Written.block isSeries (keys ++ [k]) entries = .ok s ∧ ∀ root root' current,
      along? keys (alter? k (headed? isSeries (pairsOf entries))) root = some root' →
        Reads ⟨root, current⟩ s ⟨root', keys ++ [k]⟩ := by
  obtain ⟨s, written, read⟩ := exists_pairs each (keys ++ [k])
  refine ⟨_, block_of_pairs written isSeries, fun root root' current h => ?_⟩
  rw [← List.nil_append (pairsOf entries), ← fill?_of_grows (grows_headed? isSeries)
    (by simpa using nodup_pairsOf distinct)] at h
  obtain ⟨root₁, begun, filled⟩ := Option.bind_eq_some_iff.mp h
  exact (reads_header isSeries few begun current).append (read _ _ filled)

end PgMetrics.Toml
