import RecipeBook.Proofs.Boundary
import RecipeBook.Proofs.Document.Notes

/-!
# Header lines and body lines

A document is cut at its first blank line: `headerLines` are those before it, and `bodyLines` those
from it on. Reading the header comes to that line (`parts_eq`), as no line that continues another is
blank. Where a header fails, it has been read up to a line, whatever comes after it
(`exists_of_readHeader_eq_error`).
-/

namespace RecipeBook.Document

/-- The lines before the first blank one. -/
def headerOf (ls : List Line) : List Line := ls.takeWhile fun l => !l.isBlank

/-- The lines from the first blank one on. -/
def bodyOf (ls : List Line) : List Line := ls.dropWhile fun l => !l.isBlank

def headerLines (text : String) : List Line := headerOf (numbered text.toList)

def bodyLines (text : String) : List Line := bodyOf (numbered text.toList)

/-- The header that some lines say. -/
def readMetadata (source : Source) (ls : List Line) : Except LoadError Metadata := do
  let (b, _) ← readHeader (.start source.id source.lang source.fileName) ls
  b.build

/-- The recipe that the lines of a document make. -/
def readLines (source : Source) (ls : List Line) : Except LoadError Recipe := do
  let metadata ← readMetadata source (headerOf ls)
  let drafts ← readBody metadata.serves (bodyOf ls)
  Recipe.assemble metadata drafts

variable {b b' : Builder} {command : String} {l : Line} {ls hs rest : List Line} {e : LoadError}

theorem Line.not_isContinuation_of_isBlank (h : l.isBlank) : l.isContinuation = false := by
  rw [isContinuation, h, Bool.not_true, Bool.and_false]

/-! ### Continuation lines -/

/-- A command takes the lines in front of the first that continues nothing, or no lines. -/
theorem continuationsOf_cases (command : String) :
    (∀ ls, continuationsOf command ls = ls.takeWhile Line.isContinuation) ∨
      ∀ ls, continuationsOf command ls = [] := by
  cases hc : Command.ofLabel? command with
  | none => exact .inr fun ls => by rw [continuationsOf, hc]
  | some c =>
    by_cases h : c.isContinued
    · exact .inl fun ls => by simp only [continuationsOf, hc, if_pos h]
    · exact .inr fun ls => by simp only [continuationsOf, hc, if_neg h]

theorem isBlank_of_mem_continuationsOf (h : l ∈ continuationsOf command ls) : l.isBlank = false := by
  cases hl : l.isBlank with
  | false => rfl
  | true =>
    rcases continuationsOf_cases command with hc | hc
    · rw [hc] at h
      have := List.mem_takeWhile_imp h
      rw [Line.not_isContinuation_of_isBlank hl] at this
      cases this
    · rw [hc] at h
      cases h

theorem continuationsOf_append (hrest : ∀ x ∈ rest.head?, x.isContinuation = false)
    (hs : List Line) : continuationsOf command (hs ++ rest) = continuationsOf command hs := by
  rcases continuationsOf_cases command with h | h
  · rw [h, h, takeWhile_append_of_head? hrest]
  · rw [h, h]

/-- The lines behind those that continue a command can be any, as long as they begin alike. -/
theorem exists_continuationsOf (command : String) (ls : List Line) :
    ∃ rest, ls = continuationsOf command ls ++ rest ∧
      ∀ rest', (∀ x ∈ rest'.head?, x ∈ rest.head?) →
        continuationsOf command (continuationsOf command ls ++ rest') = continuationsOf command ls := by
  rcases continuationsOf_cases command with h | h
  · refine ⟨ls.dropWhile Line.isContinuation, ?_, fun rest' hrest => ?_⟩
    · rw [h, List.takeWhile_append_dropWhile]
    · rw [h, h]
      exact (takeWhile_eq_of_append (fun x hx => List.mem_takeWhile_imp hx) fun x hx =>
        head?_dropWhile_eq_false _ ls x (hrest x hx)).1
  · exact ⟨ls, by rw [h, List.nil_append], fun rest' _ => by rw [h, h]⟩

/-! ### Reading header lines -/

theorem readHeader_cons (hl : l.isBlank = false) (rest : List Line) :
    readHeader b (l :: rest) =
      (applyLine b l (continuationsOf (commandOf l.text).1 rest) >>= fun b =>
        readHeader b (rest.drop (continuationsOf (commandOf l.text).1 rest).length)) := by
  rw [readHeader, if_neg (by simp [hl])]
  simp only
  cases applyLine b l (continuationsOf (commandOf l.text).1 rest) <;> rfl

theorem readHeader_of_head? (h : ∀ l ∈ ls.head?, l.isBlank) : readHeader b ls = .ok (b, ls) := by
  cases ls with
  | nil => rw [readHeader]
  | cons l ls => rw [readHeader, if_pos (h l rfl)]

/-- The header is read up to the first blank line. -/
theorem readHeader_append (hhs : ∀ l ∈ hs, l.isBlank = false) (hrest : ∀ l ∈ rest.head?, l.isBlank) :
    readHeader b (hs ++ rest) = (readHeader b hs).map fun p => (p.1, rest) := by
  have hstop : ∀ x ∈ rest.head?, x.isContinuation = false := fun x hx =>
    Line.not_isContinuation_of_isBlank (hrest x hx)
  fun_induction readHeader b hs with
  | case1 b => exact readHeader_of_head? hrest
  | case2 b l hs hblank => simp [hhs l List.mem_cons_self] at hblank
  | case3 b l hs hblank continuations e happly =>
    rw [List.cons_append, readHeader_cons (hhs l List.mem_cons_self), continuationsOf_append hstop,
      happly]
    rfl
  | case4 b l hs hblank continuations b' happly ih =>
    have hlen := length_continuationsOf_le (commandOf l.text).1 hs
    rw [List.cons_append, readHeader_cons (hhs l List.mem_cons_self), continuationsOf_append hstop,
      happly, List.drop_append_of_le_length hlen]
    exact ih fun x hx => hhs x (List.mem_cons_of_mem _ (List.mem_of_mem_drop hx))

/-- If a header fails, it is at a line to which it comes whatever is there behind it. -/
theorem exists_of_readHeader_eq_error (h : readHeader b ls = .error e) :
    ∃ xs l ys b', ls = xs ++ l :: ys ∧ (∀ x ∈ xs ++ [l], x.isBlank = false) ∧
      applyLine b' l (continuationsOf (commandOf l.text).1 ys) = .error e ∧
      (∃ b'', readHeader b xs = .ok (b'', [])) ∧
      ∀ zs, readHeader b (xs ++ l :: zs) = readHeader b' (l :: zs) := by
  fun_induction readHeader b ls with
  | case1 => cases h
  | case2 => cases h
  | case3 b l rest hblank continuations e' happly =>
    obtain rfl : e' = e := Except.error.inj h
    exact ⟨[], l, rest, b, rfl, by simpa using hblank, happly, ⟨b, by rw [readHeader]⟩, fun zs => rfl⟩
  | case4 b l rest hblank continuations b₁ happly ih =>
    have hl : l.isBlank = false := by simpa using hblank
    -- the failing line is behind the lines that continue `l`, which stay when what follows changes
    obtain ⟨tail, hrest, hsame⟩ := exists_continuationsOf (commandOf l.text).1 rest
    have hdrop : rest.drop continuations.length = tail := by
      have := congrArg (List.drop continuations.length) hrest
      rwa [List.drop_left] at this
    rw [hdrop] at ih h
    obtain ⟨xs, l', ys, b', rfl, hxs, hl', ⟨b'', hb''⟩, hzs⟩ := ih h
    -- what continues the first line is the same, and the reading goes on behind it
    have hread : ∀ tail', (∀ x ∈ tail'.head?, x ∈ (xs ++ l' :: ys).head?) →
        readHeader b (l :: (continuations ++ tail')) = readHeader b₁ tail' := by
      intro tail' htail'
      rw [readHeader_cons hl, hsame tail' htail', happly, List.drop_left]
      rfl
    refine ⟨l :: (continuations ++ xs), l', ys, b', ?_, ?_, hl', ⟨b'', ?_⟩, fun zs => ?_⟩
    · rw [List.cons_append, List.append_assoc, ← hrest]
    · intro x hx
      simp only [List.cons_append, List.append_assoc, List.mem_cons, List.mem_append] at hx hxs
      rcases hx with rfl | hx | hx
      · exact hl
      · exact isBlank_of_mem_continuationsOf hx
      · exact hxs x hx
    · rw [hread xs (by cases xs <;> simp), hb'']
    · rw [List.cons_append, List.append_assoc, hread _ (by cases xs <;> simp), hzs]

/-! ### Header and body of a document -/

theorem headerOf_append_bodyOf (ls : List Line) : headerOf ls ++ bodyOf ls = ls :=
  List.takeWhile_append_dropWhile

theorem isBlank_of_mem_headerOf (h : l ∈ headerOf ls) : l.isBlank = false := by
  simpa using List.mem_takeWhile_imp h

theorem isBlank_of_head?_bodyOf (ls : List Line) : ∀ l ∈ (bodyOf ls).head?, l.isBlank :=
  fun l hl => by simpa using head?_dropWhile_eq_false _ _ l hl

/-- Lines are cut between lines that are not blank and a blank one. -/
theorem cut_append (hhs : ∀ l ∈ hs, l.isBlank = false) (hrest : ∀ l ∈ rest.head?, l.isBlank) :
    headerOf (hs ++ rest) = hs ∧ bodyOf (hs ++ rest) = rest :=
  takeWhile_eq_of_append (fun l hl => by rw [hhs l hl]; rfl) fun l hl => by rw [hrest l hl]; rfl

theorem parts_eq (source : Source) (text : String) : parts source text =
    (readMetadata source (headerLines text) >>= fun metadata =>
      readBody metadata.serves (bodyLines text) >>= fun drafts => .ok (metadata, drafts)) := by
  have hlines : numbered text.toList = headerLines text ++ bodyLines text :=
    (headerOf_append_bodyOf _).symm
  have hheader : ∀ l ∈ headerLines text, l.isBlank = false := fun l hl => isBlank_of_mem_headerOf hl
  have hbody : ∀ l ∈ (bodyLines text).head?, l.isBlank := isBlank_of_head?_bodyOf _
  rw [parts, hlines, readHeader_append hheader hbody, readMetadata]
  cases readHeader (.start source.id source.lang source.fileName) (headerLines text) with
  | error e => rfl
  | ok p => rfl

variable {source : Source} {text : String} {metadata : Metadata}

theorem parts_of_readMetadata (h : readMetadata source (headerLines text) = .ok metadata) :
    parts source text =
      (readBody metadata.serves (bodyLines text) >>= fun drafts => .ok (metadata, drafts)) := by
  rw [parts_eq, h]
  rfl

theorem parts_eq_ok_iff (h : readMetadata source (headerLines text) = .ok metadata) {m : Metadata}
    {drafts : List SectionDraft} : parts source text = .ok (m, drafts) ↔
      m = metadata ∧ readBody metadata.serves (bodyLines text) = .ok drafts := by
  rw [parts_of_readMetadata h, bind_eq_ok]
  constructor
  · rintro ⟨_, hdrafts, hok⟩
    cases hok
    exact ⟨rfl, hdrafts⟩
  · rintro ⟨rfl, hdrafts⟩
    exact ⟨drafts, hdrafts, rfl⟩

theorem read_eq_readLines (source : Source) (text : String) :
    read source text = readLines source (numbered text.toList) := by
  rw [read, parts_eq, readLines]
  show _ = readMetadata source (headerLines text) >>= _
  cases readMetadata source (headerLines text) with
  | error e => rfl
  | ok metadata =>
    show ((readBody metadata.serves (bodyLines text) >>= fun drafts => .ok (metadata, drafts)) >>=
      fun p => Recipe.assemble p.1 p.2) = readBody metadata.serves (bodyLines text) >>= _
    cases readBody metadata.serves (bodyLines text) <;> rfl

end RecipeBook.Document
