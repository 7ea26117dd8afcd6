import RecipeBook.Proofs.Metadata.Builder

/-!
# Calls of a builder

A builder is filled by calls, which set a field or read a `serves` line. A call adds entries that the
builder takes, whether it fails or not (`exists_call_eq_append`), and so does a run of calls. Hence
a field keeps the value that it is given first. `ServesLine.Adds` says what a `serves` line adds and
which fault it ends in, with one case for each of the checks that can stop it.
-/

namespace RecipeBook

/-! ### Lines with a serving count -/

namespace ServesLine

/-- The value has no serving count. -/
inductive Uncounted (value : String) : LoadError → Prop
  | unreadable {fault : LoadError} (h : Words.ofLine value = .error fault) : Uncounted value fault
  | missing (h : Words.ofLine value = .ok []) : Uncounted value (.of .servingCountMissing)
  | malformed {count : String} {rest : List String} {fault : WholeFault}
      (h : Words.ofLine value = .ok (count :: rest)) (hcount : readCount count = .error fault) :
      Uncounted value (.of (.servingCountMalformed count fault))
  | zero {count : String} {rest : List String}
      (h : Words.ofLine value = .ok (count :: rest)) (hcount : readCount count = .ok 0) :
      Uncounted value (.of .servingCountZero)

/-- The value begins with a serving count. -/
structure Counted (value count : String) (n : Nat) (rest : List String) : Prop where
  words : Words.ofLine value = .ok (count :: rest)
  readCount : readCount count = .ok n
  ne_zero : n ≠ 0

/-- What a `serves` line adds to a builder, and the fault that it ends in. The fields are set in order,
each as soon as its word is read. -/
inductive Adds (b : Builder) (value : String) : List Entry → Option LoadError → Prop
  | uncounted {fault : LoadError} (h : Uncounted value fault) : Adds b value [] (some fault)
  | servesSet {count : String} {n : Nat} {rest : List String} {old : Entry}
      (h : Counted value count n rest) (hserves : b.entry? .serves = some old) :
      Adds b value [] (some (.of (.alreadySet .serves old.shown (Entry.serves n).shown)))
  | serves {count : String} {n : Nat}
      (h : Counted value count n []) (hserves : b.entry? .serves = none) :
      Adds b value [.serves n] none
  | unitSet {count unit : String} {n : Nat} {rest : List String} {old : Entry}
      (h : Counted value count n (unit :: rest)) (hserves : b.entry? .serves = none)
      (hunit : b.entry? .servingsUnit = some old) :
      Adds b value [.serves n]
        (some (.of (.alreadySet .servingsUnit old.shown (Entry.servingsUnit unit).shown)))
  | unit {count unit : String} {n : Nat}
      (h : Counted value count n [unit]) (hserves : b.entry? .serves = none)
      (hunit : b.entry? .servingsUnit = none) :
      Adds b value [.serves n, .servingsUnit unit] none
  | incrementMalformed {count unit increment : String} {n : Nat} {rest : List String}
      {fault : LoadError} (h : Counted value count n (unit :: increment :: rest))
      (hserves : b.entry? .serves = none) (hunit : b.entry? .servingsUnit = none)
      (hincrement : readIncrement increment = .error fault) :
      Adds b value [.serves n, .servingsUnit unit] (some fault)
  | incrementSet {count unit increment : String} {n : Nat} {rest : List String} {size : Float}
      {old : Entry} (h : Counted value count n (unit :: increment :: rest))
      (hserves : b.entry? .serves = none) (hunit : b.entry? .servingsUnit = none)
      (hincrement : readIncrement increment = .ok size)
      (hsize : b.entry? .servingsIncrement = some old) :
      Adds b value [.serves n, .servingsUnit unit]
        (some (.of (.alreadySet .servingsIncrement old.shown (Entry.servingsIncrement size).shown)))
  | wordsLeft {count unit increment word : String} {n : Nat} {rest : List String} {size : Float}
      (h : Counted value count n (unit :: increment :: word :: rest))
      (hserves : b.entry? .serves = none) (hunit : b.entry? .servingsUnit = none)
      (hincrement : readIncrement increment = .ok size)
      (hsize : b.entry? .servingsIncrement = none) :
      Adds b value [.serves n, .servingsUnit unit, .servingsIncrement size]
        (some (.of (.tooManyServesFields (count :: unit :: increment :: word :: rest))))
  | increment {count unit increment : String} {n : Nat} {size : Float}
      (h : Counted value count n [unit, increment])
      (hserves : b.entry? .serves = none) (hunit : b.entry? .servingsUnit = none)
      (hincrement : readIncrement increment = .ok size)
      (hsize : b.entry? .servingsIncrement = none) :
      Adds b value [.serves n, .servingsUnit unit, .servingsIncrement size] none

variable {b b' : Builder} {value count unit increment : String} {n : Nat} {rest : List String}
  {es : List Entry} {size : Float} {fault : LoadError} {fault? : Option LoadError}

theorem read_of_uncounted (h : Uncounted value fault) : read value = ⟨[], some fault⟩ := by
  cases h with
  | unreadable h => rw [read, h]
  | missing h => rw [read, h]; rfl
  | malformed h hcount => rw [read, h]; simp only [ofWords, hcount]
  | zero h hcount => rw [read, h]; simp only [ofWords, hcount]

theorem uncounted_or_counted (value : String) :
    (∃ fault, Uncounted value fault) ∨ ∃ count n rest, Counted value count n rest := by
  cases hwords : Words.ofLine value with
  | error fault => exact .inl ⟨_, .unreadable hwords⟩
  | ok parts =>
    rcases parts with _ | ⟨count, rest⟩
    · exact .inl ⟨_, .missing hwords⟩
    cases hcount : readCount count with
    | error fault => exact .inl ⟨_, .malformed hwords hcount⟩
    | ok n =>
      by_cases hn : n = 0
      · exact .inl ⟨_, .zero hwords (hn ▸ hcount)⟩
      · exact .inr ⟨count, n, rest, hwords, hcount, hn⟩

namespace Counted

/-- What the line gives behind the count. -/
theorem read_eq : Counted value count n rest → read value = match rest with
    | [] => ⟨[.serves n], none⟩
    | [unit] => ⟨[.serves n, .servingsUnit unit], none⟩
    | unit :: increment :: more =>
      match readIncrement increment with
      | .error fault => ⟨[.serves n, .servingsUnit unit], some fault⟩
      | .ok size =>
        ⟨[.serves n, .servingsUnit unit, .servingsIncrement size],
          if more = [] then none else some (.of (.tooManyServesFields (count :: rest)))⟩ := by
  intro h
  obtain ⟨k, rfl⟩ := Nat.exists_eq_succ_of_ne_zero h.ne_zero
  rw [read, h.words]
  rcases rest with _ | ⟨unit, _ | ⟨increment, more⟩⟩
  · simp only [ofWords, h.readCount]
  · simp only [ofWords, h.readCount]
  · cases hincrement : readIncrement increment with
    | error fault => simp only [ofWords, h.readCount, hincrement]
    | ok size => simp only [ofWords, h.readCount, hincrement]

theorem exists_read (h : Counted value count n rest) :
    ∃ more fault?, read value = ⟨.serves n :: more, fault?⟩ := by
  rw [h.read_eq]
  split
  · exact ⟨_, _, rfl⟩
  · exact ⟨_, _, rfl⟩
  · split
    · exact ⟨_, _, rfl⟩
    · exact ⟨_, _, rfl⟩

theorem exists_read_unit (h : Counted value count n (unit :: rest)) :
    ∃ more fault?, read value = ⟨.serves n :: .servingsUnit unit :: more, fault?⟩ := by
  rw [h.read_eq]
  cases rest with
  | nil => exact ⟨_, _, rfl⟩
  | cons increment more =>
    simp only
    split
    · exact ⟨_, _, rfl⟩
    · exact ⟨_, _, rfl⟩

end Counted

/-- A line gives these fields in this order, as far as it goes. -/
theorem fields_read_prefix (value : String) :
    (read value).entries.map Entry.field <+: [.serves, .servingsUnit, .servingsIncrement] := by
  rcases uncounted_or_counted value with ⟨fault, h⟩ | ⟨count, n, rest, h⟩
  · rw [read_of_uncounted h]
    exact List.nil_prefix
  · rw [h.read_eq]
    split
    · exact ⟨_, rfl⟩
    · exact ⟨_, rfl⟩
    · split
      · exact ⟨_, rfl⟩
      · exact ⟨_, rfl⟩

end ServesLine

namespace Builder
open ServesLine

variable {b b' : Builder} {value count : String} {n : Nat} {e old : Entry} {es es' : List Entry}
  {f : Field} {fault : LoadError} {fault? : Option LoadError}

theorem addServesLine_of_takes (h : read value = ⟨es, fault?⟩) (hes : b.Takes es) :
    b.addServesLine value = (b.append es, fault?) := by
  rw [addServesLine, h]
  simp only [addAll_eq_ok_iff.2 ⟨hes, rfl⟩]

/-- A line stops at the first field that is set. -/
theorem addServesLine_of_eq_some (es : List Entry) (h : read value = ⟨es ++ e :: es', fault?⟩) (hes : b.Takes es)
    (hold : entry? (b.append es) e.field = some old) : b.addServesLine value =
      (b.append es, some (.of (.alreadySet e.field old.shown e.shown))) := by
  rw [addServesLine, h]
  simp only [addAll_append_of_takes hes, addAll_cons_of_eq_some hold]

theorem addServesLine_of_adds (h : Adds b value es fault?) :
    b.addServesLine value = (b.append es, fault?) := by
  have hone : ∀ n, b.entry? .serves = none → b.Takes [.serves n] := fun n hserves =>
    takes_singleton_iff.2 hserves
  have htwo : ∀ n unit, b.entry? .serves = none → b.entry? .servingsUnit = none →
      b.Takes [.serves n, .servingsUnit unit] := fun n unit hserves hunit =>
    ⟨by simp [Entry.field], by simp [Entry.field, hserves, hunit]⟩
  cases h with
  | uncounted h => exact addServesLine_of_takes (read_of_uncounted h) (takes_nil b)
  | servesSet h hserves =>
    obtain ⟨more, fault?, hread⟩ := h.exists_read
    refine addServesLine_of_eq_some [] hread (takes_nil b) ?_
    rwa [append_nil]
  | serves h hserves => exact addServesLine_of_takes h.read_eq (hone _ hserves)
  | unitSet h hserves hunit =>
    obtain ⟨more, fault?, hread⟩ := h.exists_read_unit
    exact addServesLine_of_eq_some [_] hread (hone _ hserves) (entry?_append_of_eq_some hunit _)
  | unit h hserves hunit => exact addServesLine_of_takes h.read_eq (htwo _ _ hserves hunit)
  | incrementMalformed h hserves hunit hincrement =>
    refine addServesLine_of_takes ?_ (htwo _ _ hserves hunit)
    rw [h.read_eq]
    simp only [hincrement]
  | incrementSet h hserves hunit hincrement hsize =>
    have hread := h.read_eq
    simp only [hincrement] at hread
    exact addServesLine_of_eq_some [_, _] hread (htwo _ _ hserves hunit)
      (entry?_append_of_eq_some hsize _)
  | wordsLeft h hserves hunit hincrement hsize => 
    refine addServesLine_of_takes ?_ ⟨by simp [Entry.field], by simp [Entry.field, hserves, hunit, hsize]⟩
    rw [h.read_eq]
    simp only [hincrement, if_neg (List.cons_ne_nil _ _)]
  | increment h hserves hunit hincrement hsize =>
    refine addServesLine_of_takes ?_ ⟨by simp [Entry.field], by simp [Entry.field, hserves, hunit, hsize]⟩
    rw [h.read_eq]
    simp only [hincrement, if_true]

/-- Behind the count, the line is stopped by a field that is set, by its increment, or by its end. -/
theorem exists_adds_of_counted {rest : List String} (h : Counted value count n rest) (b : Builder) :
    ∃ es fault?, Adds b value es fault? := by
  cases hserves : b.entry? .serves with
  | some old => exact ⟨_, _, .servesSet h hserves⟩
  | none =>
    rcases rest with _ | ⟨unit, rest⟩
    · exact ⟨_, _, .serves h hserves⟩
    cases hunit : b.entry? .servingsUnit with
    | some old => exact ⟨_, _, .unitSet h hserves hunit⟩
    | none =>
      rcases rest with _ | ⟨increment, rest⟩
      · exact ⟨_, _, .unit h hserves hunit⟩
      cases hincrement : readIncrement increment with
      | error fault => exact ⟨_, _, .incrementMalformed h hserves hunit hincrement⟩
      | ok size =>
        cases hsize : b.entry? .servingsIncrement with
        | some old => exact ⟨_, _, .incrementSet h hserves hunit hincrement hsize⟩
        | none =>
          rcases rest with _ | ⟨word, rest⟩
          · exact ⟨_, _, .increment h hserves hunit hincrement hsize⟩
          · exact ⟨_, _, .wordsLeft h hserves hunit hincrement hsize⟩

theorem exists_adds (b : Builder) (value : String) : ∃ es fault?, Adds b value es fault? := by
  rcases uncounted_or_counted value with ⟨fault, h⟩ | ⟨count, n, rest, h⟩
  · exact ⟨_, _, .uncounted h⟩
  · exact exists_adds_of_counted h b

theorem addServesLine_eq_iff : b.addServesLine value = (b', fault?) ↔
    ∃ es, Adds b value es fault? ∧ b' = b.append es := by
  constructor
  · intro h
    obtain ⟨es, fault?, hadds⟩ := exists_adds b value
    obtain ⟨rfl, rfl⟩ := Prod.mk.inj (h.symm.trans (addServesLine_of_adds hadds))
    exact ⟨es, hadds, rfl⟩
  · rintro ⟨es, hadds, rfl⟩
    exact addServesLine_of_adds hadds

theorem addServesLine_eq_ok_iff : b.addServesLine value = (b', none) ↔
    ∃ es, read value = ⟨es, none⟩ ∧ b.Takes es ∧ b' = b.append es := by
  constructor
  · intro h
    rw [addServesLine] at h
    split at h
    · next hadd =>
      obtain ⟨rfl, hfault⟩ := Prod.mk.inj h
      exact ⟨_, by rw [← hfault], addAll_eq_ok_iff.1 hadd⟩
    · cases h
  · rintro ⟨es, hread, hes, rfl⟩
    exact addServesLine_of_takes hread hes

/-! ### Calls -/

/-- A call sets a field or reads a `serves` line. -/
inductive Call
  | set (e : Entry)
  | servesLine (value : String)

def call (b : Builder) : Call → Builder × Option LoadError
  | .set e => b.addAll [e]
  | .servesLine value => b.addServesLine value

/-- The builder after calls that may have failed. -/
def run (b : Builder) (calls : List Call) : Builder := calls.foldl (fun b c => (b.call c).1) b

theorem call_set_of_eq_none (h : b.entry? e.field = none) : b.call (.set e) = (b.append [e], none) :=
  addAll_eq_ok_iff.2 ⟨takes_singleton_iff.2 h, rfl⟩

theorem call_set_of_eq_some (h : b.entry? e.field = some old) :
    b.call (.set e) = (b, some (.of (.alreadySet e.field old.shown e.shown))) :=
  addAll_cons_of_eq_some h []

/-- A call adds entries for fields that are not set, or none, whether it fails or not. -/
theorem exists_call_eq_append (b : Builder) (c : Call) :
    ∃ es, b.Takes es ∧ (b.call c).1 = b.append es := by
  have hadd : ∀ es, ∃ taken, b.Takes taken ∧ (b.addAll es).1 = b.append taken := fun es => by
    obtain ⟨taken, -, htakes, htaken⟩ := exists_addAll_eq_append b es
    exact ⟨taken, htakes, htaken⟩
  cases c with
  | set e => exact hadd [e]
  | servesLine value =>
    obtain ⟨taken, htakes, htaken⟩ := hadd (ServesLine.read value).entries
    refine ⟨taken, htakes, ?_⟩
    rw [← htaken, call, addServesLine]
    split
    · next h => rw [h]
    · next h => rw [h]

theorem exists_run_eq_append (b : Builder) (calls : List Call) :
    ∃ es, b.Takes es ∧ b.run calls = b.append es := by
  induction calls generalizing b with
  | nil => exact ⟨[], takes_nil b, (append_nil b).symm⟩
  | cons c calls ih =>
    obtain ⟨es, hes, hcall⟩ := exists_call_eq_append b c
    obtain ⟨es', hes', hrun⟩ := ih (b.append es)
    refine ⟨es ++ es', takes_append_iff.2 ⟨hes, hes'⟩, ?_⟩
    rw [← append_append, ← hrun, ← hcall]
    rfl

theorem entry?_run_of_eq_some (h : b.entry? f = some e) (calls : List Call) :
    entry? (b.run calls) f = some e := by
  obtain ⟨es, -, hrun⟩ := exists_run_eq_append b calls
  rw [hrun, entry?_append_of_eq_some h]

/-- What holds of a builder after any calls. -/
structure Settled (id lang fileName : String) (b : Builder) : Prop where
  id_eq : b.id = normalizeId id
  lang_eq : b.lang = lang
  fileName_eq : b.fileName = fileName
  once : (b.entries.map Entry.field).Nodup
  /-- A field that is set keeps its value, whatever calls come. -/
  keeps : ∀ calls f e, b.entry? f = some e → entry? (b.run calls) f = some e
  /-- A call adds entries that are found then, whether it fails or not. -/
  adds : ∀ c, ∃ es, (b.call c).1 = b.append es ∧ b.Takes es ∧
    ∀ e ∈ es, entry? (b.append es) e.field = some e
  set_unset : ∀ e, b.entry? e.field = none → b.call (.set e) = (b.append [e], none)
  set_set : ∀ e old, b.entry? e.field = some old →
    b.call (.set e) = (b, some (.of (.alreadySet e.field old.shown e.shown)))
  /-- A `serves` line adds what comes before its fault. -/
  servesLine_iff : ∀ value b' fault?, b.call (.servesLine value) = (b', fault?) ↔
    ∃ es, ServesLine.Adds b value es fault? ∧ b' = b.append es
  build_iff : (∃ m, b.build = .ok m) ↔ (∃ e, b.entry? .name = some e) ∧
    (∃ e, b.entry? .serves = some e) ∧ ∀ e, b.entry? .schemaVersion = some e → e = .schemaVersion 2
  makes : ∀ m, b.build = .ok m → b.Makes m

theorem settled_run (id lang fileName : String) (calls : List Call) :
    ((start id lang fileName).run calls).Settled id lang fileName := by
  obtain ⟨es, hes, hrun⟩ := exists_run_eq_append (start id lang fileName) calls
  rw [hrun]
  exact {
    id_eq := rfl
    lang_eq := rfl
    fileName_eq := rfl
    once := hes.nodup
    keeps := fun calls f e h => entry?_run_of_eq_some h calls
    adds := fun c => by
      obtain ⟨es', hes', hcall⟩ := exists_call_eq_append ((start id lang fileName).append es) c
      refine ⟨es', hcall, hes', fun e he => ?_⟩
      rw [append_append]
      exact (entry?_eq_some_iff (takes_append_iff.2 ⟨hes, hes'⟩).nodup).2
        ⟨List.mem_append_right es he, rfl⟩
    set_unset := fun e h => call_set_of_eq_none h
    set_set := fun e old h => call_set_of_eq_some h
    servesLine_iff := fun value b' fault? => addServesLine_eq_iff
    build_iff := exists_build_iff
    makes := fun m h => makes_of_build h }

/-- The line fails at its unit, and its count stays. -/
example : ((start "Chili" "en" "Chili.en.recipe").run
    [.set (.servingsUnit "cups"), .servesLine "4 bowls 2"]).entries.map Entry.field =
      [.servingsUnit, .serves] := by
  decide +kernel

end Builder
end RecipeBook
