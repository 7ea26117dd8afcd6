import Mathlib.Data.List.Forall2
import RecipeBook.Proofs.Document.Notes
import RecipeBook.Proofs.Words.Split

/-!
# What a step line says

`Says serves line a` reads a step line off its beginning, without an order in which markers are
tried: it adds an ingredient, a name, the mark of an independent step, or instructions. A line whose
marker has nothing valid behind it says nothing. `addStepLine` takes exactly the lines that say
something, and adds what they say (`addStepLine_eq_ok_iff`), so the step of some lines is
`Step.ofAdditions` of what each of them says (`addStepLines_eq_ok_iff`).
-/

namespace RecipeBook

/-- What one line adds to a step. -/
inductive Addition
  | ingredient (i : Ingredient)
  | internal (name : String)
  | independent
  | hidden (name : String)
  | yields (name : String)
  | instructions (parts : List InstructionPart)

namespace Addition

def ingredient? : Addition → Option Ingredient
  | ingredient i => some i
  | _ => none

def internal? : Addition → Option String
  | internal name => some name
  | _ => none

def hidden? : Addition → Option String
  | hidden name => some name
  | _ => none

def yields? : Addition → Option String
  | yields name => some name
  | _ => none

def isIndependent : Addition → Bool
  | independent => true
  | _ => false

def parts : Addition → List InstructionPart
  | instructions parts => parts
  | _ => []

end Addition

namespace Step

/-- The step for `serves` servings to which some lines add something, in their order. -/
def ofAdditions (serves : Nat) (as : List Addition) : Step where
  serves
  instructions := as.flatMap Addition.parts
  ingredients := as.filterMap Addition.ingredient?
  internal := as.filterMap Addition.internal?
  hidden := as.filterMap Addition.hidden?
  yields := as.filterMap Addition.yields?
  independent := as.any Addition.isIndependent

/-- The step with one more addition. -/
def plus (s : Step) : Addition → Step
  | .ingredient i => { s with ingredients := s.ingredients ++ [i] }
  | .internal name => { s with internal := s.internal ++ [name] }
  | .independent => { s with independent := true }
  | .hidden name => { s with hidden := s.hidden ++ [name] }
  | .yields name => { s with yields := s.yields ++ [name] }
  | .instructions parts => { s with instructions := s.instructions ++ parts }

theorem ofAdditions_nil (serves : Nat) : ofAdditions serves [] = .empty serves := rfl

theorem serves_plus (s : Step) (a : Addition) : (s.plus a).serves = s.serves := by
  cases a <;> rfl

theorem ofAdditions_concat (serves : Nat) (as : List Addition) (a : Addition) :
    ofAdditions serves (as ++ [a]) = (ofAdditions serves as).plus a := by
  cases a <;>
    simp [ofAdditions, plus, Addition.parts, Addition.ingredient?, Addition.internal?,
      Addition.hidden?, Addition.yields?, Addition.isIndependent]

theorem foldl_plus_ofAdditions (serves : Nat) (as bs : List Addition) :
    bs.foldl plus (ofAdditions serves as) = ofAdditions serves (as ++ bs) := by
  induction bs generalizing as with
  | nil => rw [List.append_nil, List.foldl_nil]
  | cons b bs ih =>
    rw [List.foldl_cons, ← ofAdditions_concat, ih, List.append_assoc, List.singleton_append]

end Step

namespace Text

theorem dropStart?_eq_some_iff {start s rest : List Char} :
    dropStart? start s = some rest ↔ s = start ++ rest := by
  induction start generalizing s with
  | nil => simp [dropStart?]
  | cons b bs ih =>
    cases s with
    | nil => simp [dropStart?]
    | cons c cs =>
      by_cases h : b = c
      · simp [dropStart?, h, ih]
      · simp [dropStart?, h, Ne.symm h]

theorem dropStart?_eq_none_iff {start s : List Char} :
    dropStart? start s = none ↔ ∀ rest, s ≠ start ++ rest := by
  simp only [Option.eq_none_iff_forall_ne_some, ne_eq, dropStart?_eq_some_iff]

end Text

namespace Document

/-- The markers that take what is behind a space. -/
def markers : List (List Char) := [['-'], ['='], ['@'], ['-', '>']]

/-- The line is neither a marker, nor does it begin with one and a space, nor with `@nodep`. -/
def IsPlain (line : List Char) : Prop :=
  (∀ m ∈ markers, line ≠ m ∧ ∀ rest, line ≠ m ++ ' ' :: rest) ∧
    ∀ rest, line ≠ "@nodep".toList ++ rest

/-- A line, less the blank characters at its end, adds something to a step for `serves` servings. -/
inductive Says (serves : Nat) : List Char → Addition → Prop
  | ingredient {rest : List Char} {i : Ingredient} (h : Ingredient.read serves (.ofList rest) = .ok i) :
    Says serves ('-' :: ' ' :: rest) (.ingredient i)
  | internal {rest : List Char} (h : Text.trim rest ≠ []) :
    Says serves ('=' :: ' ' :: rest) (.internal (.ofList (Text.trim rest)))
  | independent {rest : List Char} : Says serves ("@nodep".toList ++ rest) .independent
  | hidden {rest : List Char} (h : Text.trim rest ≠ []) :
    Says serves ('@' :: ' ' :: rest) (.hidden (.ofList (Text.trim rest)))
  | yields {rest : List Char} (h : Text.trim rest ≠ []) :
    Says serves ('-' :: '>' :: ' ' :: rest) (.yields (lowered (.ofList (Text.trim rest))))
  | instructions {line : List Char} {parts : List InstructionPart} (hplain : IsPlain line)
    (h : (Text.words line).mapM (InstructionPart.ofToken serves) = .ok parts) :
    Says serves line (.instructions parts)

variable {serves : Nat} {line rest : List Char} {a : Addition} {s s' : Step}

theorem marked?_eq_some_iff {m : List Char} :
    marked? m line = some rest ↔ line = m ∧ rest = [] ∨ line = m ++ ' ' :: rest := by
  rw [marked?]
  cases h : Text.dropStart? m line with
  | none =>
    have hne := Text.dropStart?_eq_none_iff.1 h
    have hm : line ≠ m := fun he => hne [] (by rw [he, List.append_nil])
    simp [hm, hne]
  | some tail =>
    obtain rfl := Text.dropStart?_eq_some_iff.1 h
    rcases tail with _ | ⟨c, tail⟩
    · simp [eq_comm]
    · by_cases hc : c = ' '
      · simp [hc]
      · simp [hc]

theorem marked?_eq_none_iff {m : List Char} :
    marked? m line = none ↔ line ≠ m ∧ ∀ rest, line ≠ m ++ ' ' :: rest := by
  simp only [Option.eq_none_iff_forall_ne_some, ne_eq, marked?_eq_some_iff]
  constructor
  · intro h
    exact ⟨fun he => h [] (.inl ⟨he, rfl⟩), fun rest he => h rest (.inr he)⟩
  · rintro ⟨hne, hnot⟩ rest (⟨he, -⟩ | he)
    · exact hne he
    · exact hnot rest he

theorem nameOn_eq_ok_iff {kind : NameLine} {name : String} : nameOn kind rest = .ok name ↔
    Text.trim rest ≠ [] ∧ .ofList (Text.trim rest) = name := by
  rw [nameOn]
  split
  · next h => simp [h, fail]
  · next h => simp [h]

theorem read_ne_ok_of_nil {i : Ingredient} : Ingredient.read serves (.ofList []) ≠ .ok i := by
  have hwords : Words.ofLine (.ofList []) = .ok [] := by
    rw [Words.ofLine, Words.split, String.toList_ofList, Words.splitFrom_nil]
    rfl
  intro h
  obtain ⟨parts, hparts, hi⟩ := bind_eq_ok.1 h
  obtain rfl : [] = parts := Except.ok.inj (hwords.symm.trans hparts)
  cases hi

/-- A line that is taken says what it adds. -/
theorem says_of_addStepLine (h : addStepLine s line = .ok s') :
    ∃ a, Says s.serves line a ∧ s.plus a = s' := by
  rw [addStepLine] at h
  split at h
  · next rest hdash =>
    obtain ⟨i, hread, hs⟩ := bind_eq_ok.1 h
    rcases marked?_eq_some_iff.1 hdash with ⟨-, rfl⟩ | rfl
    · exact absurd hread read_ne_ok_of_nil
    · exact ⟨.ingredient i, .ingredient hread, Except.ok.inj hs⟩
  next hdash =>
  split at h
  · next rest hequal =>
    obtain ⟨name, hname, hs⟩ := bind_eq_ok.1 h
    obtain ⟨htrim, rfl⟩ := nameOn_eq_ok_iff.1 hname
    rcases marked?_eq_some_iff.1 hequal with ⟨-, rfl⟩ | rfl
    · exact absurd rfl htrim
    · exact ⟨_, .internal htrim, Except.ok.inj hs⟩
  next hequal =>
  split at h
  · next hnodep =>
    obtain ⟨rest, hrest⟩ := Option.isSome_iff_exists.1 hnodep
    obtain rfl := Text.dropStart?_eq_some_iff.1 hrest
    exact ⟨.independent, .independent, Except.ok.inj h⟩
  next hnodep =>
  split at h
  · next rest hat =>
    obtain ⟨name, hname, hs⟩ := bind_eq_ok.1 h
    obtain ⟨htrim, rfl⟩ := nameOn_eq_ok_iff.1 hname
    rcases marked?_eq_some_iff.1 hat with ⟨-, rfl⟩ | rfl
    · exact absurd rfl htrim
    · exact ⟨_, .hidden htrim, Except.ok.inj hs⟩
  next hat =>
  split at h
  · next rest harrow =>
    obtain ⟨name, hname, hs⟩ := bind_eq_ok.1 h
    obtain ⟨htrim, rfl⟩ := nameOn_eq_ok_iff.1 hname
    rcases marked?_eq_some_iff.1 harrow with ⟨-, rfl⟩ | rfl
    · exact absurd rfl htrim
    · exact ⟨_, .yields htrim, Except.ok.inj hs⟩
  next harrow =>
  obtain ⟨parts, hparts, hs⟩ := bind_eq_ok.1 h
  have hplain : IsPlain line := by
    refine ⟨fun m hm => marked?_eq_none_iff.1 ?_, ?_⟩
    · simp only [markers, List.mem_cons, List.not_mem_nil, or_false] at hm
      rcases hm with rfl | rfl | rfl | rfl
      exacts [hdash, hequal, hat, harrow]
    · rwa [Option.not_isSome_iff_eq_none, Text.dropStart?_eq_none_iff] at hnodep
  exact ⟨.instructions parts, .instructions hplain hparts, Except.ok.inj hs⟩

/-- A line that says something is taken. -/
theorem Says.addStepLine (h : Says s.serves line a) : addStepLine s line = .ok (s.plus a) := by
  cases h with
  | ingredient h =>
    simp only [Document.addStepLine, marked?, Text.dropStart?, if_true]
    exact bind_eq_ok.2 ⟨_, h, rfl⟩
  | internal h =>
    simp only [Document.addStepLine, marked?, Text.dropStart?, if_true]
    exact bind_eq_ok.2 ⟨_, nameOn_eq_ok_iff.2 ⟨h, rfl⟩, rfl⟩
  | independent => rfl
  | hidden h =>
    simp only [Document.addStepLine, marked?, Text.dropStart?, if_true]
    exact bind_eq_ok.2 ⟨_, nameOn_eq_ok_iff.2 ⟨h, rfl⟩, rfl⟩
  | yields h =>
    simp only [Document.addStepLine, marked?, Text.dropStart?, if_true]
    exact bind_eq_ok.2 ⟨_, nameOn_eq_ok_iff.2 ⟨h, rfl⟩, rfl⟩
  | instructions hplain h =>
    have hnone : ∀ m ∈ markers, marked? m line = none := fun m hm =>
      marked?_eq_none_iff.2 (hplain.1 m hm)
    have hnodep : Text.dropStart? "@nodep".toList line = none :=
      Text.dropStart?_eq_none_iff.2 hplain.2
    simp only [markers, List.forall_mem_cons] at hnone
    obtain ⟨hdash, hequal, hat, harrow, -⟩ := hnone
    simp only [Document.addStepLine, hdash, hequal, hnodep, hat, harrow]
    exact bind_eq_ok.2 ⟨_, h, rfl⟩

theorem addStepLine_eq_ok_iff :
    addStepLine s line = .ok s' ↔ ∃ a, Says s.serves line a ∧ s.plus a = s' := by
  refine ⟨says_of_addStepLine, ?_⟩
  rintro ⟨a, ha, rfl⟩
  exact ha.addStepLine

/-! ### Runs of lines -/

/-- The line adds something to a step for `serves` servings. -/
def Line.IsValid (serves : Nat) (l : Line) : Prop := ∃ a, Says serves (Text.trimEnd l.text) a

/-- The step has what the lines add, one after the other, and nothing else. -/
def Describes (serves : Nat) (run : List Line) (step : Step) : Prop :=
  ∃ as, List.Forall₂ (fun l a => Says serves (Text.trimEnd l.text) a) run as ∧
    step = .ofAdditions serves as

variable {run us ws ls : List Line} {l : Line} {e : LoadError}

theorem addStepLines_cons :
    addStepLines s (l :: ls) =
      (noted (.line l.index) (addStepLine s (Text.trimEnd l.text)) >>= fun s => addStepLines s ls) :=
  rfl

theorem addStepLines_eq_ok_iff : addStepLines s run = .ok s' ↔
    ∃ as, List.Forall₂ (fun l a => Says s.serves (Text.trimEnd l.text) a) run as ∧
      as.foldl Step.plus s = s' := by
  induction run generalizing s with
  | nil => simp [addStepLines]
  | cons l run ih =>
    rw [addStepLines_cons, bind_eq_ok]
    simp only [noted_eq_ok, addStepLine_eq_ok_iff, ih]
    constructor
    · rintro ⟨_, ⟨a, ha, rfl⟩, as, has, rfl⟩
      rw [Step.serves_plus] at has
      exact ⟨a :: as, .cons ha has, rfl⟩
    · rintro ⟨_, _ | ⟨ha, has⟩, rfl⟩
      refine ⟨_, ⟨_, ha, rfl⟩, _, ?_, rfl⟩
      rwa [Step.serves_plus]

theorem addStepLines_empty_eq_ok_iff {step : Step} :
    addStepLines (.empty serves) run = .ok step ↔ Describes serves run step := by
  rw [addStepLines_eq_ok_iff, Describes, ← Step.ofAdditions_nil]
  simp only [Step.foldl_plus_ofAdditions, List.nil_append, eq_comm (a := step)]
  rfl

theorem serves_of_addStepLines (h : addStepLines s run = .ok s') : s'.serves = s.serves := by
  obtain ⟨as, -, rfl⟩ := addStepLines_eq_ok_iff.1 h
  clear h
  induction as generalizing s with
  | nil => rfl
  | cons a as ih => rw [List.foldl_cons, ih, Step.serves_plus]

/-- The first line that is not taken decides on the error, whatever comes after it. -/
theorem addStepLines_append_of_error (hus : addStepLines s us = .ok s')
    (hl : noted (.line l.index) (addStepLine s' (Text.trimEnd l.text)) = .error e) (ws : List Line) :
    addStepLines s (us ++ l :: ws) = .error e := by
  induction us generalizing s with
  | nil =>
    obtain rfl : s = s' := Except.ok.inj hus
    rw [List.nil_append, addStepLines_cons, hl]
    rfl
  | cons u us ih =>
    rw [addStepLines_cons] at hus
    obtain ⟨s₁, hu, hus⟩ := bind_eq_ok.1 hus
    rw [List.cons_append, addStepLines_cons, hu]
    exact ih hus

theorem exists_of_addStepLines_eq_error (h : addStepLines s ls = .error e) :
    ∃ us l ws s', ls = us ++ l :: ws ∧ addStepLines s us = .ok s' ∧
      noted (.line l.index) (addStepLine s' (Text.trimEnd l.text)) = .error e := by
  induction ls generalizing s with
  | nil => cases h
  | cons l ls ih =>
    rw [addStepLines_cons] at h
    cases hl : noted (.line l.index) (addStepLine s (Text.trimEnd l.text)) with
    | error e' =>
      rw [hl] at h
      obtain rfl : e' = e := Except.error.inj h
      exact ⟨[], l, ls, s, rfl, rfl, hl⟩
    | ok s₁ =>
      rw [hl] at h
      obtain ⟨us, l', ws, s', rfl, hus, hl'⟩ := ih h
      refine ⟨l :: us, l', ws, s', rfl, ?_, hl'⟩
      rw [addStepLines_cons, hl]
      exact hus

/-- A line that is not taken is not valid. -/
theorem not_isValid_of_error
    (h : noted (.line l.index) (addStepLine s (Text.trimEnd l.text)) = .error e) :
    ¬ l.IsValid s.serves := by
  rintro ⟨a, ha⟩
  rw [ha.addStepLine] at h
  cases h

end Document
end RecipeBook
