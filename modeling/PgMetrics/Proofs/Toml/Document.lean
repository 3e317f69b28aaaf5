import PgMetrics.Proofs.Config.Tree
import PgMetrics.Proofs.Toml.Line

/-!
# Documents of TOML, written and read

A document that is written reads back as its tree, except that in each table the plain values come
first and the tables in it after them. A table without values of its own has no header and is made
on the way to the tables in it.

What a block says does not depend on where it stands: it changes the tables at a path, and the
changes of several blocks at one path make up one change there. So what is shown of the blocks of a
tree is which change they make.

## Main definitions

* `Presentable` — the trees that can be written.
* `contentsOf` — what the entries of a table are read back as.
* `Presents` — blocks that can be written and that change the tables in a given way.

## Main results

* `document?_document` — a document reads back as its tree.
-/

namespace PgMetrics.Toml

/-! ## Series of blocks -/

/-- Blocks that are read one after another. -/
inductive ReadsAll : Filling → List (List Char) → Filling → Prop
  | nil (f : Filling) : ReadsAll f [] f
  | cons {f g h : Filling} {block : List Char} {blocks : List (List Char)} (first : Reads f block g)
      (others : ReadsAll g blocks h) : ReadsAll f (block :: blocks) h

theorem ReadsAll.append {f g h : Filling} {a b : List (List Char)} (ha : ReadsAll f a g)
    (hb : ReadsAll g b h) : ReadsAll f (a ++ b) h := by
  induction ha with
  | nil => exact hb
  | cons first _ ih => exact .cons first (ih hb)

/-- Blank lines may stand between blocks. -/
theorem ReadsAll.reads {f g : Filling} {blocks : List (List Char)} (h : ReadsAll f blocks g) :
    Reads f (blocks.intersperse ['\n']).flatten g := by
  induction h with
  | nil f => exact .nil f
  | @cons f g h block blocks first others ih =>
    cases blocks with
    | nil =>
      cases others
      simpa using first
    | cons next blocks => exact first.append ((Reads.blank g).append ih)

/-! ## What is read back -/

mutual

/-- What a tree under a header is read back as. -/
def itemOf : Tree → Item
  | .table entries =>
    .table (if Written.hasHeader entries then .headed else .implied)
      (pairsOf entries ++ sectionsOf entries)
  | .list items => .series (tablesOf items)
  | t => .value t

/-- What the tables among entries are read back as. -/
def sectionsOf : List (String × Tree) → Entries
  | [] => []
  | (k, t) :: rest =>
    if Written.isSection t then (k, itemOf t) :: sectionsOf rest else sectionsOf rest

/-- What the tables of a series are read back as. -/
def tablesOf : List Tree → List Entries
  | [] => []
  | .table entries :: rest => (pairsOf entries ++ sectionsOf entries) :: tablesOf rest
  | _ :: rest => tablesOf rest

end

/-- What the entries of a table are read back as: the pairs come first. -/
def contentsOf (entries : List (String × Tree)) : Entries := pairsOf entries ++ sectionsOf entries

theorem sectionsOf_eq_map (entries : List (String × Tree)) :
    sectionsOf entries =
      (entries.filter fun e => Written.isSection e.2).map fun e => (e.1, itemOf e.2) := by
  induction entries with
  | nil => rfl
  | cons e entries ih =>
    by_cases h : Written.isSection e.2 = true <;> simp [sectionsOf, h, ih]

/-- Entries with the pairs before the tables. -/
theorem pairs_first_perm (entries : List (String × Tree)) :
    ((entries.filter fun e => !Written.isSection e.2) ++
      entries.filter fun e => Written.isSection e.2).Perm entries :=
  List.perm_append_comm.trans (List.filter_append_perm (fun e => Written.isSection e.2) entries)

theorem nodup_contentsOf {entries : List (String × Tree)} (h : (entries.map (·.1)).Nodup) :
    ((contentsOf entries).map (·.1)).Nodup := by
  have keys : (contentsOf entries).map (·.1) =
      ((entries.filter fun e => !Written.isSection e.2) ++
        entries.filter fun e => Written.isSection e.2).map (·.1) := by
    simp [contentsOf, pairsOf, sectionsOf_eq_map, Function.comp_def]
  rw [keys]
  exact ((pairs_first_perm entries).map _).nodup_iff.mpr h

/-- A tree that can be written: the keys of every table are distinct, whole numbers fit 64 bits,
lists are lists of tables, and there are at most `n` tables within each other. -/
inductive Presentable : Nat → Tree → Prop
  | text {n : Nat} (s : String) : Presentable n (.text s)
  | flag {n : Nat} (b : Bool) : Presentable n (.flag b)
  | number {n : Nat} {i : Int} (fits : inRange i = true) : Presentable n (.number i)
  | list {n : Nat} {items : List Tree} (tables : ∀ t ∈ items, ∃ entries, t = .table entries)
      (each : ∀ t ∈ items, Presentable n t) : Presentable n (.list items)
  | table {n : Nat} {entries : List (String × Tree)} (distinct : (entries.map (·.1)).Nodup)
      (each : ∀ e ∈ entries, Presentable n e.2) : Presentable (n + 1) (.table entries)

/-- What is not written under a header has a value on its line. -/
theorem Presentable.exists_value {n : Nat} {t : Tree} (h : Presentable n t)
    (plain : Written.isSection t = false) : ∃ v, Written.value t = .ok v := by
  cases h with
  | text s => exact ⟨_, rfl⟩
  | flag b => exact ⟨_, rfl⟩
  | number fits => exact ⟨_, if_pos fits⟩
  | @list _ items tables each =>
    cases items with
    | nil => exact ⟨_, rfl⟩
    | cons t items =>
      obtain ⟨entries, rfl⟩ := tables t List.mem_cons_self
      cases plain
  | table distinct each => cases plain

theorem Presentable.blocksOf_of_plain {n : Nat} {t : Tree} (h : Presentable n t)
    (plain : Written.isSection t = false) (keys : List String) :
    Written.blocksOf keys t = .ok [] := by
  cases h with
  | text s => rfl
  | flag b => rfl
  | number fits => rfl
  | @list _ items tables each =>
    cases items with
    | nil => rfl
    | cons t items =>
      obtain ⟨entries, rfl⟩ := tables t List.mem_cons_self
      cases plain
  | table distinct each => cases plain

/-! ## Blocks -/

/-- Blocks that can be written, and that change the tables in the given way when they are read,
where that can be done. -/
def Presents (written : Except Written.Refusal (List (List Char)))
    (change : Entries → Option Entries) : Prop :=
  ∃ blocks, written = .ok blocks ∧ ∀ root root' current, change root = some root' →
    ∃ current', ReadsAll ⟨root, current⟩ blocks ⟨root', current'⟩

namespace Presents

variable {a b : Except Written.Refusal (List (List Char))} {f g : Entries → Option Entries}

theorem nil : Presents (.ok []) some := by
  refine ⟨[], rfl, fun root root' current h => ⟨current, ?_⟩⟩
  cases h
  exact .nil _

theorem append (ha : Presents a f) (hb : Presents b g) :
    Presents (do return (← a) ++ (← b)) fun root => (f root).bind g := by
  obtain ⟨first, rfl, read⟩ := ha
  obtain ⟨others, rfl, readOthers⟩ := hb
  refine ⟨first ++ others, rfl, fun root root' current h => ?_⟩
  obtain ⟨root₁, done, rest⟩ := Option.bind_eq_some_iff.mp h
  obtain ⟨current₁, reads⟩ := read _ _ current done
  obtain ⟨current', readsOthers⟩ := readOthers _ _ current₁ rest
  exact ⟨current', reads.append readsOthers⟩

theorem mono (h : Presents a f) (more : ∀ root root', g root = some root' → f root = some root') :
    Presents a g := by
  obtain ⟨blocks, written, read⟩ := h
  exact ⟨blocks, written, fun root root' current done => read _ _ current (more _ _ done)⟩

end Presents

variable {n : Nat} {entries : List (String × Tree)} {keys : List String} {k : String}

/-- A table with a header is read back with the tables in it. -/
theorem presents_table (each : ∀ e ∈ entries, Presentable n e.2)
    (distinct : (entries.map (·.1)).Nodup) (few : keys.length + 1 < depthLimit) (isSeries : Bool)
    (sections : Presents (Written.blocksOfEntries (keys ++ [k]) entries)
      (fill? (keys ++ [k]) (sectionsOf entries))) :
    Presents (do
        let own ← Written.block isSeries (keys ++ [k]) entries
        return own :: (← Written.blocksOfEntries (keys ++ [k]) entries))
      (along? keys (alter? k (headed? isSeries (contentsOf entries)))) := by
  obtain ⟨own, written, read⟩ :=
    exists_block (fun e he => (each e he).exists_value) distinct few isSeries (k := k)
  obtain ⟨blocks, writtenSections, readSections⟩ := sections
  refine ⟨own :: blocks, by rw [written, writtenSections]; rfl, fun root root' current h => ?_⟩
  rw [contentsOf, ← fill?_of_grows (grows_headed? isSeries) (nodup_contentsOf distinct)] at h
  obtain ⟨root₁, begun, filled⟩ := Option.bind_eq_some_iff.mp h
  obtain ⟨current', readsSections⟩ := readSections _ _ (keys ++ [k]) filled
  exact ⟨current', .cons (read _ _ current begun) readsSections⟩

theorem tablesOf_ne_nil {items : List Tree} (tables : ∀ t ∈ items, ∃ entries, t = .table entries)
    (ne : items ≠ []) : tablesOf items ≠ [] := by
  obtain ⟨t, rest, rfl⟩ := List.exists_cons_of_ne_nil ne
  obtain ⟨entries, rfl⟩ := tables t List.mem_cons_self
  exact List.cons_ne_nil _ _

/-- A table without a header has tables in it and nothing else. -/
theorem contentsOf_of_not_hasHeader {entries : List (String × Tree)}
    (h : ¬ Written.hasHeader entries = true) :
    contentsOf entries = sectionsOf entries ∧ sectionsOf entries ≠ [] := by
  simp only [Written.hasHeader, Bool.or_eq_true, List.isEmpty_iff, List.any_eq_true,
    Bool.not_eq_true', not_or, not_exists, not_and, Bool.not_eq_false] at h
  obtain ⟨ne, sections⟩ := h
  constructor
  · have : entries.filter (fun e => !Written.isSection e.2) = [] := by
      simpa [List.filter_eq_nil_iff] using sections
    simp [contentsOf, pairsOf, this]
  · obtain ⟨⟨k, t⟩, rest, rfl⟩ := List.exists_cons_of_ne_nil ne
    rw [sectionsOf, if_pos (sections (k, t) List.mem_cons_self)]
    exact List.cons_ne_nil _ _

/-! The induction is on the tree. A path stands for every table on the way to it, so the changes of
the sections of a table add up to one change at its own path; the number `n` of tables that may
still come bounds the parts of the paths in their headers. -/

mutual

theorem presents_tree (keys : List String) (k : String) {n : Nat}
    (shallow : keys.length + 1 + n ≤ depthLimit) :
    (t : Tree) → Presentable n t → Written.isSection t = true →
      Presents (Written.blocksOf (keys ++ [k]) t) (along? keys (put? k (itemOf t)))
  | .table entries, h, _ => by
    cases h with
    | @table n _ distinct each =>
      have sections := presents_entries (keys ++ [k]) (n := n) (by simp; omega) entries each
      by_cases own : Written.hasHeader entries = true
      · rw [Written.blocksOf, if_pos own, itemOf, if_pos own]
        exact presents_table each distinct (by omega) false sections
      · -- the first of the tables in it makes the table
        obtain ⟨contents, ne⟩ := contentsOf_of_not_hasHeader own
        obtain ⟨e, items, begins⟩ := List.exists_cons_of_ne_nil ne
        have distinct := nodup_contentsOf distinct
        rw [contents, begins] at distinct
        rw [begins] at sections
        rw [Written.blocksOf, if_neg own, itemOf, if_neg own, ← contentsOf, contents, begins]
        exact (Presents.nil.append sections).mono fun _ _ => fill?_of_implied distinct
  | .list items, h, list => by
    cases h with
    | list tables each =>
      have ne : tablesOf items ≠ [] := tablesOf_ne_nil tables (by rintro rfl; cases list)
      rw [Written.blocksOf, itemOf]
      exact (presents_items keys k shallow items tables each).mono fun _ _ => nextAll?_of_put ne
  | .text _, _, h => nomatch h
  | .flag _, _, h => nomatch h
  | .number _, _, h => nomatch h
  | .real _, _, h => nomatch h

theorem presents_entries (keys : List String) {n : Nat}
    (shallow : keys.length + 1 + n ≤ depthLimit) :
    (entries : List (String × Tree)) → (∀ e ∈ entries, Presentable n e.2) →
      Presents (Written.blocksOfEntries keys entries) (fill? keys (sectionsOf entries))
  | [], _ => .nil
  | (k, t) :: rest, each => by
    obtain ⟨first, otherEach⟩ := List.forall_mem_cons.mp each
    have others := presents_entries keys shallow rest otherEach
    rw [Written.blocksOfEntries, sectionsOf]
    by_cases h : Written.isSection t = true
    · rw [if_pos h, fill?_cons]
      exact (presents_tree keys k shallow t first h).append others
    · rw [if_neg h, first.blocksOf_of_plain (by simpa using h)]
      exact Presents.nil.append others

theorem presents_items (keys : List String) (k : String) {n : Nat}
    (shallow : keys.length + 1 + n ≤ depthLimit) :
    (items : List Tree) → (∀ t ∈ items, ∃ entries, t = .table entries) →
      (∀ t ∈ items, Presentable n t) →
      Presents (Written.blocksOfItems (keys ++ [k]) items) (nextAll? keys k (tablesOf items))
  | [], _, _ => .nil
  | .table entries :: rest, tables, each => by
    obtain ⟨first, otherEach⟩ := List.forall_mem_cons.mp each
    have others := presents_items keys k shallow rest (List.forall_mem_cons.mp tables).2 otherEach
    cases first with
    | @table n _ distinct each =>
      have sections := presents_entries (keys ++ [k]) (n := n) (by simp; omega) entries each
      have table := presents_table each distinct (by omega) true sections
      have both := table.append others
      simp only [bind_assoc, pure_bind, List.cons_append] at both
      rw [Written.blocksOfItems, tablesOf, nextAll?_cons]
      exact both
  | .list _ :: _, tables, _ => nomatch (List.forall_mem_cons.mp tables).1
  | .text _ :: _, tables, _ => nomatch (List.forall_mem_cons.mp tables).1
  | .flag _ :: _, tables, _ => nomatch (List.forall_mem_cons.mp tables).1
  | .number _ :: _, tables, _ => nomatch (List.forall_mem_cons.mp tables).1
  | .real _ :: _, tables, _ => nomatch (List.forall_mem_cons.mp tables).1

end

/-! ## Documents -/

theorem document?_of_reads {s : List Char} {f : Filling} (h : Reads .start s f) :
    document? s = some (.table (entryTrees f.root)) := by
  have noMark : dropMark s = s := by
    cases s with
    | nil => rfl
    | cons c s =>
      have : '\ufeff' ≠ c := by simpa [eq_comm] using h.head
      simp [dropMark, Text.dropStart?, this]
  obtain ⟨n, few, read⟩ := h.read
  have whole : lines? (s.length + 1) .start s = some f := by
    have := read (s.length - n + 1) []
    rwa [List.append_nil, show s.length - n + 1 + n = s.length + 1 by omega] at this
  rw [document?, noMark, whole]
  rfl

/-- A tree with the pairs of each table before the tables in it. -/
def ordered (t : Tree) : Tree := if Written.isSection t then (itemOf t).toTree else t

theorem ordered_table (entries : List (String × Tree)) :
    ordered (.table entries) = .table (entryTrees (contentsOf entries)) := by
  have section_ : Written.isSection (.table entries) = true := rfl
  rw [ordered, if_pos section_, itemOf, Item.toTree]
  rfl

@[simp]
theorem ordered_text (s : String) : ordered (.text s) = .text s := rfl

@[simp]
theorem ordered_flag (b : Bool) : ordered (.flag b) = .flag b := rfl

/-- A document reads back as its tree, the pairs of each table before the tables in it. -/
theorem document?_document {entries : List (String × Tree)}
    (h : Presentable depthLimit (.table entries)) :
    ∃ s, Written.document (.table entries) = .ok s ∧
      document? s = some (ordered (.table entries)) := by
  cases h with
  | table distinct each =>
    have filled : fill? [] (contentsOf entries) [] = some (contentsOf entries) :=
      fill?_root (t := []) (nodup_contentsOf distinct)
    rw [contentsOf, fill?_append] at filled
    obtain ⟨root, own, others⟩ := Option.bind_eq_some_iff.mp filled
    obtain ⟨pairs, writtenPairs, readPairs⟩ :=
      exists_pairs (fun e (he : e ∈ entries) => (each e he).exists_value) []
    obtain ⟨blocks, writtenBlocks, readBlocks⟩ :=
      presents_entries [] (by simp [depthLimit]) entries each
    obtain ⟨current, readsBlocks⟩ := readBlocks _ _ [] others
    have readsPairs : ReadsAll .start (if pairs.isEmpty then [] else [pairs]) ⟨root, []⟩ := by
      have read := readPairs _ _ own
      split
      case isTrue empty =>
        rw [List.isEmpty_iff.mp empty] at read
        exact read.eq_of_nil ▸ .nil _
      case isFalse => exact .cons read (.nil _)
    refine ⟨_, ?_, document?_of_reads (readsPairs.append readsBlocks).reads⟩
    rw [Written.document, writtenPairs, writtenBlocks]
    rfl

/-! ## Fields of what is read back -/

theorem entryTrees_eq_map (items : Entries) :
    entryTrees items = items.map fun e => (e.1, e.2.toTree) := by
  induction items with
  | nil => rfl
  | cons e items ih => rw [entryTrees, ih, List.map_cons]

theorem entryTrees_contentsOf (entries : List (String × Tree)) :
    entryTrees (contentsOf entries) =
      ((entries.filter fun e => !Written.isSection e.2) ++
        entries.filter fun e => Written.isSection e.2).map fun e => (e.1, ordered e.2) := by
  rw [entryTrees_eq_map, contentsOf, List.map_append, List.map_append, pairsOf, sectionsOf_eq_map,
    List.map_map, List.map_map]
  congr 1
  · refine List.map_congr_left fun e he => ?_
    have plain : Written.isSection e.2 = false := by simpa using (List.mem_filter.mp he).2
    simp [ordered, plain, Item.toTree]
  · refine List.map_congr_left fun e he => ?_
    simp [ordered, (List.mem_filter.mp he).2]

/-- The fields of a table are found by their names, wherever they stand. -/
theorem lookup_contentsOf {entries : List (String × Tree)} (distinct : (entries.map (·.1)).Nodup)
    (k : String) :
    (entryTrees (contentsOf entries)).lookup k = (entries.lookup k).map ordered := by
  have distinct' : ((entryTrees (contentsOf entries)).map (·.1)).Nodup := by
    simpa [entryTrees_eq_map, Function.comp_def] using nodup_contentsOf distinct
  refine Option.ext fun t => ?_
  rw [Tree.lookup_eq_some_iff_mem distinct', Option.map_eq_some_iff, entryTrees_contentsOf]
  simp only [Tree.lookup_eq_some_iff_mem distinct, List.mem_map, (pairs_first_perm entries).mem_iff,
    Prod.mk.injEq]
  constructor
  · rintro ⟨e, mem, rfl, rfl⟩
    exact ⟨e.2, mem, rfl⟩
  · rintro ⟨u, mem, rfl⟩
    exact ⟨(k, u), mem, rfl, rfl⟩

/-- A table without tables in it stays as it is. -/
theorem ordered_of_plain {entries : List (String × Tree)}
    (plain : ∀ e ∈ entries, Written.isSection e.2 = false) :
    ordered (.table entries) = .table entries := by
  have own : entries.filter (fun e => !Written.isSection e.2) = entries :=
    List.filter_eq_self.mpr fun e he => by simp [plain e he]
  have others : entries.filter (fun e => Written.isSection e.2) = [] :=
    List.filter_eq_nil_iff.mpr fun e he => by simp [plain e he]
  have same : ∀ e ∈ entries, (e.1, ordered e.2) = e := fun e he => by simp [ordered, plain e he]
  rw [ordered_table, entryTrees_contentsOf, own, others, List.append_nil, List.map_congr_left same,
    List.map_id']

theorem ordered_list {items : List Tree} (tables : ∀ t ∈ items, ∃ entries, t = .table entries) :
    ordered (.list items) = .list (items.map ordered) := by
  have each : tableTrees (tablesOf items) = items.map ordered := by
    induction items with
    | nil => rfl
    | cons t items ih =>
      obtain ⟨⟨entries, rfl⟩, others⟩ := List.forall_mem_cons.mp tables
      rw [tablesOf, tableTrees, ih others, List.map_cons, ordered_table]
      rfl
  cases items with
  | nil => rfl
  | cons t items =>
    obtain ⟨entries, rfl⟩ := tables t List.mem_cons_self
    exact congrArg Tree.list each

end PgMetrics.Toml
