import Highlighting.Toml.Document
import Mathlib.Data.List.Nodup

/-! Documents without repeated keys. Each step of putting the tables together keeps their keys
distinct, and so no table that a document has at last, or has in another one, lists a key twice. -/
namespace Highlighting.Toml

/-- No table has a key twice, nor has one that stands under a key of it. Arrays are left out of
account. -/
inductive Value.Distinct : Value → Prop where
  | table {entries : List (String × Value)} : (entries.map (·.1)).Nodup →
      (∀ entry ∈ entries, Distinct entry.2) → Distinct (.table entries)
  | other {value : Value} : (∀ entries, value ≠ .table entries) → Distinct value

theorem keys_of_distinct {entries : List (String × Value)}
    (distinct : (Value.table entries).Distinct) : (entries.map (·.1)).Nodup := by
  cases distinct with
  | table keys _ => exact keys
  | other apart => exact absurd rfl (apart entries)

theorem distinct_of_lookup {entries : List (String × Value)}
    (distinct : (Value.table entries).Distinct) {key : String} {value : Value}
    (found : entries.lookup key = some value) : value.Distinct := by
  cases distinct with
  | table _ inner =>
    obtain ⟨before, behind, split, _⟩ := List.lookup_eq_some_iff.mp found
    exact inner (key, value) (by simp [split])
  | other apart => exact absurd rfl (apart entries)

inductive Node.Distinct : Node → Prop where
  | leaf {value : Value} : value.Distinct → Distinct (.leaf value)
  | table { implicit dotted : Bool} {entries : List (String × Node)} :
      (entries.map (·.1)).Nodup → (∀ entry ∈ entries, Distinct entry.2) →
        Distinct (.table implicit dotted entries)
  | rows (tables : List (List (String × Node))) : Distinct (.rows tables)

inductive Written.Distinct : Written → Prop where
  | value {v : Value} : v.Distinct → Distinct (.value v)
  | array (items : List Written) : Distinct (.array items)
  | inlineTable {pairs : List (List String × Written)} :
      (∀ pair ∈ pairs, Distinct pair.2) → Distinct (.inlineTable pairs)

namespace Entries

/-- The keys of a table are distinct, and so are those of the tables in it. -/
structure Distinct (entries : Entries) : Prop where
  keys : (entries.map (·.1)).Nodup
  inner : ∀ entry ∈ entries, entry.2.Distinct

theorem distinct_nil : Distinct [] :=
  ⟨List.nodup_nil, fun _ inside => nomatch inside⟩

variable {entries result : Entries} {key : String}

theorem Distinct.lookup (distinct : entries.Distinct) {node : Node}
    (found : entries.lookup key = some node) : node.Distinct := by
  obtain ⟨before, behind, split, _⟩ := List.lookup_eq_some_iff.mp found
  exact distinct.inner (key, node) (by simp [split])

theorem Distinct.table (distinct : entries.Distinct) (implicit dotted : Bool) :
    (Node.table implicit dotted entries).Distinct :=
  .table distinct.keys distinct.inner

theorem distinct_of_table { implicit dotted : Bool}
    (distinct : (Node.table implicit dotted entries).Distinct) : entries.Distinct := by
  cases distinct with
  | table keys inner => exact ⟨keys, inner⟩

theorem Distinct.append (distinct : entries.Distinct) (free : entries.lookup key = none)
    {node : Node} (inner : node.Distinct) : Distinct (entries ++ [(key, node)]) := by
  have absent : ∀ entry ∈ entries, entry.1 ≠ key := by
    intro entry inside same
    have apart := List.lookup_eq_none_iff.mp free entry inside
    simp [same] at apart
  constructor
  · rw [List.map_append, List.nodup_append]
    refine ⟨distinct.keys, by simp, ?_⟩
    intro name inside other last
    obtain ⟨entry, among, rfl⟩ := List.mem_map.mp inside
    obtain rfl : other = key := by simpa using last
    exact absent entry among
  · intro entry inside
    rcases List.mem_append.mp inside with earlier | last
    · exact distinct.inner entry earlier
    · cases List.mem_singleton.mp last
      exact inner

theorem Distinct.replace (distinct : entries.Distinct) (key : String) {node : Node}
    (inner : node.Distinct) : Distinct (replace entries key node) := by
  constructor
  · have same : (Entries.replace entries key node).map (·.1) = entries.map (·.1) := by
      rw [Entries.replace, List.map_map]
      apply List.map_congr_left
      intro entry _
      by_cases here : entry.1 = key <;> simp [here]
    rw [same]
    exact distinct.keys
  · intro entry inside
    obtain ⟨old, among, rfl⟩ := List.mem_map.mp inside
    split
    · exact inner
    · exact distinct.inner old among

/-- What keeps keys distinct where it changes a table keeps them so from the top. -/
theorem Distinct.changeAt? {dotted : Bool} {change : Bool → Entries → Option Entries}
    (keeps : ∀ marked entries result, entries.Distinct → change marked entries = some result →
      result.Distinct)
    {path : List String} {marked : Bool} (distinct : entries.Distinct)
    (done : changeAt? dotted change path marked entries = some result) : result.Distinct := by
  induction path generalizing marked entries result with
  | nil => exact keeps marked entries result distinct done
  | cons key path ih =>
    unfold Entries.changeAt? at done
    split at done
    · next free =>
      obtain ⟨inner, changed, rfl⟩ := Option.map_eq_some_iff.mp done
      exact distinct.append free ((ih distinct_nil changed).table true dotted)
    · cases done
    · next implicit marked inner found =>
      split at done
      · cases done
      · obtain ⟨changed, same, rfl⟩ := Option.map_eq_some_iff.mp done
        have below := distinct_of_table (distinct.lookup found)
        exact distinct.replace key ((ih below same).table implicit marked)
    · obtain ⟨changed, _, rfl⟩ := Option.map_eq_some_iff.mp done
      exact distinct.replace key (.rows _)

theorem Distinct.insert? {path : List String} {value : Value} (distinct : entries.Distinct)
    (plain : value.Distinct) (done : entries.insert? path value = some result) :
    result.Distinct := by
  simp only [Entries.insert?, Option.bind_eq_bind, Option.bind_eq_some_iff] at done
  obtain ⟨key, _, done⟩ := done
  refine distinct.changeAt? ?_ done
  intro marked entries result distinct placed
  split at placed
  · cases placed
  · next free =>
    cases placed
    have unused : entries.lookup key = none :=
      Option.not_isSome_iff_eq_none.mp (not_or.mp free).2
    exact distinct.append unused (.leaf plain)

theorem Distinct.beginTable? {path : List String} (distinct : entries.Distinct)
    (done : entries.beginTable? path = some result) : result.Distinct := by
  simp only [Entries.beginTable?, Option.bind_eq_bind, Option.bind_eq_some_iff] at done
  obtain ⟨key, _, done⟩ := done
  refine distinct.changeAt? ?_ done
  intro _ entries result distinct placed
  split at placed
  · next free =>
    cases placed
    exact distinct.append free (distinct_nil.table false false)
  · next inner found =>
    cases placed
    have below := distinct_of_table (distinct.lookup found)
    exact distinct.replace key (below.table false false)
  · cases placed

theorem Distinct.beginRow? {path : List String} (distinct : entries.Distinct)
    (done : entries.beginRow? path = some result) : result.Distinct := by
  simp only [Entries.beginRow?, Option.bind_eq_bind, Option.bind_eq_some_iff] at done
  obtain ⟨key, _, done⟩ := done
  refine distinct.changeAt? ?_ done
  intro _ entries result distinct placed
  split at placed
  · next free =>
    cases placed
    exact distinct.append free (.rows _)
  · cases placed
    exact distinct.replace key (.rows _)
  · cases placed

end Entries

/- The values that nodes and written values come to -/

theorem entryValues_eq (entries : List (String × Node)) :
    entryValues entries = entries.map fun entry => (entry.1, entry.2.value) := by
  induction entries with
  | nil => rfl
  | cons entry rest ih => rw [entryValues, ih]; rfl

theorem Node.Distinct.value {node : Node} (distinct : node.Distinct) : node.value.Distinct := by
  induction distinct with
  | leaf plain => exact plain
  | table keys inner ih =>
    unfold Node.value
    rw [entryValues_eq]
    refine .table ?_ ?_
    · rw [List.map_map]
      exact keys
    · intro entry inside
      obtain ⟨old, among, rfl⟩ := List.mem_map.mp inside
      exact ih old among
  | rows tables =>
    refine .other ?_
    intro entries same
    unfold Node.value at same
    cases same

theorem Entries.Distinct.value {entries : Entries} (distinct : entries.Distinct) :
    (Value.table (entryValues entries)).Distinct := by
  have table := (distinct.table false false).value
  unfold Node.value at table
  exact table

theorem distinct_of_pairEntries? {pairs : List (List String × Written)}
    (each : ∀ pair ∈ pairs, ∀ v, pair.2.value? = some v → v.Distinct)
    {entries result : Entries} (distinct : entries.Distinct)
    (done : pairEntries? entries pairs = some result) : result.Distinct := by
  induction pairs generalizing entries with
  | nil =>
    unfold pairEntries? at done
    cases done
    exact distinct
  | cons pair pairs ih =>
    obtain ⟨first, rest⟩ := List.forall_mem_cons.mp each
    simp only [pairEntries?, Option.bind_eq_bind, Option.bind_eq_some_iff] at done
    obtain ⟨v, value, next, inserted, done⟩ := done
    exact ih rest (distinct.insert? (first v value) inserted) done

theorem Written.Distinct.value? {written : Written} (distinct : written.Distinct) {v : Value}
    (done : written.value? = some v) : v.Distinct := by
  induction distinct generalizing v with
  | value plain =>
    unfold Written.value? at done
    cases done
    exact plain
  | array items =>
    unfold Written.value? at done
    obtain ⟨_, _, rfl⟩ := Option.map_eq_some_iff.mp done
    exact .other fun _ => nofun
  | inlineTable _ ih =>
    unfold Written.value? at done
    obtain ⟨entries, read, rfl⟩ := Option.map_eq_some_iff.mp done
    have inner : Entries.Distinct entries :=
      distinct_of_pairEntries? (fun pair inside v => ih pair inside) Entries.distinct_nil read
    exact inner.value

/- What the readers read -/

theorem Scalar.eq_of_float? {word : List Char} {v : Value} (read : float? word = some v) :
    v = .float word := by
  unfold float? at read
  dsimp only at read
  split at read
  · cases read
    rfl
  · split at read
    · cases read
    · simp only [Option.bind_eq_bind, Option.bind_eq_some_iff] at read
      obtain ⟨_, _, read⟩ := read
      -- With a fraction or without, and with an exponent or without, the word is kept as it is.
      split at read
      all_goals
        obtain ⟨_, _, read⟩ := Option.bind_eq_some_iff.mp read
        split at read
        all_goals
          obtain ⟨_, _, read⟩ := Option.bind_eq_some_iff.mp read
          split at read <;> cases read
          rfl

theorem Scalar.eq_of_integer? {word : List Char} {v : Value} (read : integer? word = some v) :
    ∃ n, v = .integer n := by
  have fitting : ∀ n : Int, (if fits n then some (Value.integer n) else none) = some v →
      ∃ n, v = .integer n := by
    intro n read
    split at read <;> cases read
    exact ⟨n, rfl⟩
  unfold integer? at read
  dsimp only at read
  split at read
  all_goals
    obtain ⟨n, _, last⟩ := Option.bind_eq_some_iff.mp read
    exact fitting _ last

theorem Scalar.distinct_of_ofWord? {word : List Char} {v : Value} (read : ofWord? word = some v) :
    v.Distinct := by
  unfold ofWord? at read
  split at read
  · cases read
    exact .other fun _ => nofun
  · split at read
    · cases read
      exact .other fun _ => nofun
    · split at read
      · cases read
        exact .other fun _ => nofun
      · rcases Option.or_eq_some_iff.mp read with float | ⟨_, integer⟩
        · rw [eq_of_float? float]
          exact .other fun _ => nofun
        · obtain ⟨n, rfl⟩ := eq_of_integer? integer
          exact .other fun _ => nofun

theorem Scalar.distinct_of_read? {text rest : List Char} {v : Value}
    (done : read? text = some (v, rest)) : v.Distinct := by
  unfold read? at done
  dsimp only at done
  split at done
  · split at done <;> cases done
    exact .other fun _ => nofun
  · obtain ⟨v, word, same⟩ := Option.map_eq_some_iff.mp done
    cases same
    exact distinct_of_ofWord? word

namespace Statement

theorem distinct_of_pairs? {value : Reader Written}
    (reads : ∀ text written rest, value text = some (written, rest) → written.Distinct)
    {fuel : Nat} {text rest : List Char} {pairs : List (List String × Written)}
    (done : pairs? value fuel text = some (pairs, rest)) : ∀ pair ∈ pairs, pair.2.Distinct := by
  induction fuel generalizing text rest pairs with
  | zero => cases done
  | succ fuel ih =>
    simp only [pairs?, Option.bind_eq_bind, Option.bind_eq_some_iff] at done
    obtain ⟨⟨path, _⟩, _, _, _, ⟨first, _⟩, read, done⟩ := done
    have plain := reads _ _ _ read
    split at done
    · cases done
      simpa using plain
    · obtain ⟨⟨more, _⟩, later, same⟩ := Option.bind_eq_some_iff.mp done
      cases same
      exact List.forall_mem_cons.mpr ⟨plain, ih later⟩
    · cases done

theorem distinct_of_value? {depth : Nat} {text rest : List Char} {written : Written}
    (done : value? depth text = some (written, rest)) : written.Distinct := by
  induction depth using Nat.strongRecOn generalizing text rest written with
  | ind depth ih =>
    unfold value? at done
    split at done
    case h_3 => cases done
    case h_4 => cases done
    case h_5 =>
      obtain ⟨_, _, same⟩ := Option.map_eq_some_iff.mp done
      cases same
      exact .array _
    case h_6 inside behind =>
      split at done
      · cases done
        exact .inlineTable fun _ inside => nomatch inside
      · obtain ⟨⟨pairs, _⟩, inner, same⟩ := Option.map_eq_some_iff.mp done
        cases same
        have reads : ∀ text written rest, value? inside text = some (written, rest) →
            written.Distinct := fun _ _ _ read => ih inside (Nat.lt_succ_self _) read
        exact .inlineTable (distinct_of_pairs? reads inner)
    case h_7 =>
      obtain ⟨⟨v, _⟩, word, same⟩ := Option.map_eq_some_iff.mp done
      cases same
      exact .value (Scalar.distinct_of_read? word)
    all_goals
      obtain ⟨_, _, same⟩ := Option.map_eq_some_iff.mp done
      cases same
      exact .value (.other fun _ => nofun)

/-- The value of a pair has no key twice. -/
def Distinct (statement : Statement) : Prop :=
  ∀ path written, statement = .pair path written → written.Distinct

theorem distinct_of_one? {text rest : List Char} {statement : Statement}
    (done : one? text = some (statement, rest)) : statement.Distinct := by
  rintro path written rfl
  unfold one? at done
  split at done
  all_goals simp only [Option.bind_eq_bind, Option.bind_eq_some_iff] at done
  · obtain ⟨_, _, _, _, _, _, same⟩ := done
    cases same
  · obtain ⟨_, _, _, _, same⟩ := done
    cases same
  · obtain ⟨_, _, _, _, ⟨value, _⟩, read, same⟩ := done
    cases same
    exact distinct_of_value? read

theorem distinct_of_all? {fuel : Nat} {text : List Char} {statements : List Statement}
    (done : all? fuel text = some statements) : ∀ s ∈ statements, s.Distinct := by
  induction fuel generalizing text statements with
  | zero => cases done
  | succ fuel ih =>
    simp only [all?, Option.bind_eq_bind, Option.bind_eq_some_iff] at done
    obtain ⟨behind, _, done⟩ := done
    split at done
    · cases done
      exact fun _ inside => nomatch inside
    · obtain ⟨⟨first, _⟩, read, done⟩ := Option.bind_eq_some_iff.mp done
      split at done
      · obtain ⟨more, later, same⟩ := Option.bind_eq_some_iff.mp done
        cases same
        exact List.forall_mem_cons.mpr ⟨distinct_of_one? read, ih later⟩
      · cases done

/-- One statement keeps keys distinct. -/
theorem Distinct.applied {statement : Statement} (plain : statement.Distinct)
    {header path : List String} {entries result : Entries} (distinct : entries.Distinct)
    (done : statement.perform? header entries = some (path, result)) : result.Distinct := by
  cases statement with
  | table place =>
    obtain ⟨_, begun, same⟩ := Option.map_eq_some_iff.mp done
    cases same
    exact distinct.beginTable? begun
  | element place =>
    obtain ⟨_, begun, same⟩ := Option.map_eq_some_iff.mp done
    cases same
    exact distinct.beginRow? begun
  | pair place written =>
    simp only [Statement.perform?, Option.bind_eq_bind, Option.bind_eq_some_iff] at done
    obtain ⟨v, value, next, changed, same⟩ := done
    cases same
    refine distinct.changeAt? ?_ changed
    intro _ inner result distinct inserted
    exact distinct.insert? ((plain _ _ rfl).value? value) inserted

theorem distinct_of_foldlM {statements : List Statement} (plain : ∀ s ∈ statements, s.Distinct)
    {start result : List String × Entries} (distinct : start.2.Distinct)
    (done : statements.foldlM (fun (header, entries) s => s.perform? header entries) start =
      some result) : result.2.Distinct := by
  induction statements generalizing start with
  | nil =>
    cases done
    exact distinct
  | cons s statements ih =>
    obtain ⟨first, rest⟩ := List.forall_mem_cons.mp plain
    rw [List.foldlM_cons] at done
    obtain ⟨next, step, later⟩ := Option.bind_eq_some_iff.mp done
    exact ih rest (first.applied distinct step) later

end Statement

/-- No table of a document has a key twice. -/
theorem distinct_of_document? {text : List Char} {entries : List (String × Value)}
    (parsed : document? text = some entries) : (Value.table entries).Distinct := by
  simp only [document?, Option.bind_eq_bind, Option.bind_eq_some_iff] at parsed
  obtain ⟨statements, read, ⟨_, nodes⟩, carried, same⟩ := parsed
  cases same
  have plain : ∀ s ∈ statements, s.Distinct := Statement.distinct_of_all? read
  have distinct : Entries.Distinct nodes :=
    Statement.distinct_of_foldlM plain Entries.distinct_nil carried
  exact distinct.value

end Highlighting.Toml
