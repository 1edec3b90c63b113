import Highlighting.Proofs.Options

/-! Reading command lines. The program reads the arguments item by item, and what it has read so far
is always what the items up to there mean; where an item breaks the reading, it reports that one. -/
namespace Highlighting.CommandLine

/- One item and the arguments behind it -/

theorem readInto_flag {flag : Flag} {name : String} (named : name ∈ flag.names)
    (line : CommandLine) (rest : List String) :
    readInto line (name :: rest) = readInto (flag.raise line) rest := by
  rw [readInto, withFlag?_of_named named]

theorem readInto_option (option : ValueOption) (line : CommandLine) (value : String)
    (rest : List String) : readInto line (option.name :: value :: rest) =
      (withValue line option.name value option).bind fun next => readInto next rest := by
  have unnamed := withFlag?_of_unnamed (option_ne_flag option) line
  simp only [readInto, unnamed, ofName?_name]
  cases withValue line option.name value option with
  | ok next => rfl
  | error e => rfl

theorem readInto_other {argument : String} (unflagged : ∀ flag : Flag, argument ∉ flag.names)
    (unnamed : ∀ option : ValueOption, argument ≠ option.name) (line : CommandLine)
    (rest : List String) : readInto line (argument :: rest) =
      (withFile line argument).bind fun next => readInto next rest := by
  simp only [readInto, withFlag?_of_unnamed unflagged, ofName?_of_unnamed unnamed]
  cases withFile line argument with
  | ok next => rfl
  | error e => rfl

theorem withFile_of_hyphened {argument : String} (hyphened : Hyphened argument)
    (line : CommandLine) :
    withFile line argument = .error (.usage (.unknownOption argument)) :=
  if_pos hyphened

theorem withFile_of_unhyphened {argument : String} (unhyphened : ¬ Hyphened argument)
    (line : CommandLine) : withFile line argument =
      if line.file.isSome then .error (.usage (.unexpectedArgument argument))
      else .ok { line with file := some argument } :=
  if_neg unhyphened

theorem readInto_unhyphened {argument : String} (unhyphened : ¬ Hyphened argument)
    (line : CommandLine) (rest : List String) : readInto line (argument :: rest) =
      if line.file.isSome then .error (.usage (.unexpectedArgument argument))
      else readInto { line with file := some argument } rest := by
  rw [readInto_other, withFile_of_unhyphened unhyphened]
  · cases line.file.isSome <;> rfl
  · intro flag named
    exact unhyphened (hyphened_flag named)
  · rintro option rfl
    exact unhyphened (hyphened_option option)

/-- The words of a proper item are taken together, whatever stands behind them. -/
theorem readInto_words {item : Item} {line : CommandLine} (proper : item.Proper)
    (free : item.file?.isSome → line.file = none) :
    ∃ next, Adds item line next ∧
      ∀ rest, readInto line (item.words ++ rest) = readInto next rest := by
  cases item with
  | flag flag name => exact ⟨_, adds_raise flag name line, readInto_flag proper line⟩
  | setting option value =>
    obtain ⟨next, done, adds⟩ := withValue_of_takes proper line
    refine ⟨next, adds, fun rest => ?_⟩
    have words : (Item.setting option value).words ++ rest = option.name :: value :: rest := rfl
    rw [words, readInto_option, done]
    rfl
  | file name =>
    have free := free rfl
    refine ⟨_, adds_file free name, fun rest => ?_⟩
    have words : (Item.file name).words ++ rest = name :: rest := rfl
    rw [words, readInto_unhyphened proper, free]
    rfl

theorem readInto_breaks {items : List Item} {line : CommandLine} (means : Means items line)
    {rest : List String} {fault : UsageFault} (breaks : Breaks items rest fault) :
    readInto line rest = .error (.usage fault) := by
  cases breaks with
  | unknown hyphened unflagged unnamed =>
    rw [readInto_other unflagged unnamed, withFile_of_hyphened hyphened]
    rfl
  | second unhyphened taken =>
    have full : line.file.isSome := by
      rw [means.file]
      simpa using taken
    rw [readInto_unhyphened unhyphened, if_pos full]
  | missing option =>
    rw [readInto, withFlag?_of_unnamed (option_ne_flag option), ofName?_name]
  | refused refused =>
    rw [readInto_option, withValue_of_refused refused]
    rfl

/- All items -/

theorem readInto_items {items more : List Item} {line : CommandLine} (means : Means items line)
    (readable : Readable (items ++ more)) :
    ∃ last, Means (items ++ more) last ∧
      ∀ rest, readInto line (more.flatMap Item.words ++ rest) = readInto last rest := by
  induction more generalizing items line with
  | nil => exact ⟨line, by rwa [List.append_nil], fun _ => rfl⟩
  | cons item more ih =>
    have joined : items ++ item :: more = (items ++ [item]) ++ more := by simp
    rw [joined] at readable ⊢
    obtain ⟨-, proper, free⟩ := readable_concat_iff.mp readable.left
    have free' : item.file?.isSome → line.file = none := by
      intro file
      rw [means.file, free file]
      rfl
    obtain ⟨next, adds, step⟩ := readInto_words proper free'
    obtain ⟨last, means, run⟩ := ih (means.concat adds) readable
    refine ⟨last, means, fun rest => ?_⟩
    rw [List.flatMap_cons, List.append_assoc, step, run]

theorem ofArguments_of_reads {arguments : List String} {items : List Item}
    (reads : Reads arguments items) :
    ∃ line, ofArguments arguments = .ok line ∧ Means items line := by
  obtain ⟨rfl, readable⟩ := reads
  obtain ⟨line, means, run⟩ := readInto_items means_nil readable
  refine ⟨line, ?_, means⟩
  have whole := run []
  rwa [List.append_nil] at whole

theorem ofArguments_of_firstFault {arguments : List String} {fault : UsageFault}
    (first : FirstFault arguments fault) : ofArguments arguments = .error (.usage fault) := by
  obtain ⟨items, rest, rfl, readable, breaks⟩ := first
  obtain ⟨line, means, run⟩ := readInto_items means_nil readable
  exact (run rest).trans (readInto_breaks means breaks)

theorem ofArguments_ok_iff {arguments : List String} :
    (∃ line, ofArguments arguments = .ok line) ↔ ∃ items, Reads arguments items := by
  constructor
  · rintro ⟨line, done⟩
    rcases reads_or_breaks arguments with reads | ⟨fault, first⟩
    · exact reads
    · cases done.symm.trans (ofArguments_of_firstFault first)
  · rintro ⟨items, reads⟩
    obtain ⟨line, done, -⟩ := ofArguments_of_reads reads
    exact ⟨line, done⟩

theorem ofArguments_error_iff {arguments : List String} {error : Error} :
    ofArguments arguments = .error error ↔
      ∃ fault, FirstFault arguments fault ∧ error = .usage fault := by
  constructor
  · intro failed
    rcases reads_or_breaks arguments with ⟨items, reads⟩ | ⟨fault, first⟩
    · obtain ⟨line, done, -⟩ := ofArguments_of_reads reads
      cases done.symm.trans failed
    · refine ⟨fault, first, ?_⟩
      cases failed.symm.trans (ofArguments_of_firstFault first)
      rfl
  · rintro ⟨fault, first, rfl⟩
    exact ofArguments_of_firstFault first

/- Items in another order -/

/-- The same items, with the occurrences of each option in the order in which they were. -/
structure Reordered (items other : List Item) : Prop where
  perm : items.Perm other
  values : ∀ option, valuesOf option items = valuesOf option other

theorem reordered_swap {first second : Item}
    (apart : ∀ option, first.valueOf? option = none ∨ second.valueOf? option = none)
    (before after : List Item) :
    Reordered (before ++ first :: second :: after) (before ++ second :: first :: after) where
  perm := (List.Perm.swap second first after).append_left before
  values option := by
    unfold valuesOf
    simp only [List.filterMap_append, List.filterMap_cons]
    rcases apart option with other | other
    all_goals rw [other]

theorem Reordered.files_eq {items other : List Item} (reordered : Reordered items other)
    (readable : Readable items) : files items = files other := by
  have perm : (files items).Perm (files other) := reordered.perm.filterMap Item.file?
  have few := readable.files
  cases names : files items with
  | nil =>
    rw [names] at perm
    exact perm.nil_eq
  | cons name rest =>
    have alone : rest = [] := by
      rw [names, List.length_cons] at few
      exact List.eq_nil_of_length_eq_zero (by omega)
    rw [names, alone] at perm
    rw [alone, List.perm_singleton.mp perm.symm]

theorem Reordered.readable {items other : List Item} (reordered : Reordered items other)
    (readable : Readable items) : Readable other where
  proper item inside := readable.proper item (reordered.perm.mem_iff.mpr inside)
  files := reordered.files_eq readable ▸ readable.files

theorem Reordered.means {items other : List Item} (reordered : Reordered items other)
    (readable : Readable items) {line : CommandLine} (means : Means items line) :
    Means other line where
  last option value last := means.last option value (by rwa [reordered.values])
  absent option absent := means.absent option (by rwa [reordered.values])
  flags flag := by simp only [means.flags, reordered.perm.mem_iff]
  file := by rw [means.file, reordered.files_eq readable]

theorem ofArguments_reordered {arguments : List String} {items other : List Item}
    (reads : Reads arguments items) (reordered : Reordered items other) :
    ofArguments (other.flatMap Item.words) = ofArguments arguments := by
  have reads' : Reads (other.flatMap Item.words) other := ⟨rfl, reordered.readable reads.2⟩
  obtain ⟨line, done, means⟩ := ofArguments_of_reads reads
  obtain ⟨line', done', means'⟩ := ofArguments_of_reads reads'
  rw [done, done', means'.unique (reordered.means reads.2 means)]

/-- Arguments are accepted just where they can be read as items, and the command line is then what
the items mean, in whatever order different options stand. Where they are not accepted, the leftmost
item that breaks the reading is reported. -/
theorem ofArguments_reads_items (arguments : List String) :
    ((∃ line, ofArguments arguments = .ok line) ↔ ∃ items, Reads arguments items) ∧
    (∀ items, Reads arguments items →
      ∃ line, ofArguments arguments = .ok line ∧ Means items line) ∧
    (∀ items other, Reads arguments items → Reordered items other →
      ofArguments (other.flatMap Item.words) = ofArguments arguments) ∧
    ∀ error, ofArguments arguments = .error error ↔
      ∃ fault, FirstFault arguments fault ∧ error = .usage fault :=
  ⟨ofArguments_ok_iff, fun _ => ofArguments_of_reads, fun _ _ => ofArguments_reordered,
    fun _ => ofArguments_error_iff⟩

theorem ofArguments_reads_option_like_value :
    let arguments := ["--lexer", "--help", "-V", "", "--cursor", "+7"]
    (∃ line, ofArguments arguments = .ok line ∧ line.lexer = some "--help" ∧ line.help = false ∧
      line.file = some "" ∧ line.cursor = 7) ∧
    ofArguments ["-V", "--lexer", "--help", "", "--cursor", "+7"] = ofArguments arguments ∧
    ofArguments (arguments ++ ["--rows"]) = .error (.usage (.missingValue "--rows")) := by
  intro arguments
  let more : List Item := [.file "", .setting .cursor "+7"]
  let items : List Item := .setting .lexer "--help" :: .flag .version "-V" :: more
  have seven : Unsigned.Writes 64 "+7".toList 7 := Unsigned.read?_eq_some_iff.mp (by decide)
  have readable : Readable items := by
    have flag : "-V" ∈ Flag.version.names := by decide
    have file : ¬ Hyphened "" := by decide
    refine ⟨?_, by decide⟩
    simp only [items, more, List.forall_mem_cons]
    exact ⟨trivial, flag, file, ⟨7, seven⟩, nofun⟩
  have reads : Reads arguments items := ⟨rfl, readable⟩
  obtain ⟨-, accepted, commutes, -⟩ := ofArguments_reads_items arguments
  obtain ⟨line, done, means⟩ := accepted items reads
  refine ⟨⟨line, done, means.last .lexer _ rfl, ?_, means.file, ?_⟩, ?_, ?_⟩
  · have unset : ¬ Flag.isSet .help line := by
      rw [means.flags]
      simp [items, more]
    exact Bool.eq_false_iff.mpr unset
  · exact Unsigned.Writes.unique (means.last .cursor "+7" rfl) seven
  · have apart : ∀ option, (Item.setting .lexer "--help").valueOf? option = none ∨
        (Item.flag .version "-V").valueOf? option = none := fun _ => .inr rfl
    exact commutes items _ reads (reordered_swap apart [] more)
  · have first : FirstFault (arguments ++ ["--rows"]) (.missingValue "--rows") :=
      ⟨items, _, rfl, readable, .missing .rows⟩
    exact ((ofArguments_reads_items _).2.2.2 _).mpr ⟨_, first, rfl⟩

end Highlighting.CommandLine
