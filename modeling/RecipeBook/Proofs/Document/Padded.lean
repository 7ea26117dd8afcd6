import RecipeBook.Proofs.Document.Renumbered
import RecipeBook.Proofs.Paired
import RecipeBook.Proofs.Text.Pieces

/-!
# Blank characters at the ends of lines

A document is read alike whatever blank characters stand at the ends of its lines (`read_padded`), be
they spaces or the carriage returns of another kind of line end. Texts are trimmed in many places, and
in others the line is looked at as it is. What the reader makes of a line is collected in
`Line.ReadsAs`: padding does not change it (`Line.readsAs_of_pads`), and lines that agree in it are
read alike. The one exception is a hash that stands alone, which a space turns into a heading.
-/

namespace RecipeBook

variable {c : Char} {s line line' blanks rest rest' text text' : List Char}

namespace Text

/-! ### Padded texts -/

/-- Blank characters that can stand behind the line and leave it what it is. -/
structure IsPadding (line blanks : List Char) : Prop where
  isBlankText : isBlankText blanks
  not_heading : line = ['#'] → blanks.head? ≠ some ' '

def Pads (line line' : List Char) : Prop := ∃ blanks, IsPadding line blanks ∧ line' = line ++ blanks

/-- The carriage return that a line feed may have in front of it. -/
def IsReturn (ending : List Char) : Prop := ending = [] ∨ ending = ['\r']

/-- The text with some padding in front of its line ends, with carriage return or without, and at its
end if a line stands there. -/
inductive IsPadded : List Char → List Char → Prop
  | nil : IsPadded [] []
  | last {line blanks : List Char} (hline : line ≠ []) (hfeed : '\n' ∉ line ++ blanks)
      (h : IsPadding line blanks) : IsPadded line (line ++ blanks)
  | line {line blanks ending rest rest' : List Char} (hfeed : '\n' ∉ line ++ blanks)
      (hending : IsReturn ending) (h : IsPadding line blanks) (hrest : IsPadded rest rest') :
      IsPadded (line ++ ending ++ '\n' :: rest) (line ++ blanks ++ ending ++ '\n' :: rest')

instance (ending : List Char) : Decidable (IsReturn ending) :=
  inferInstanceAs (Decidable (ending = [] ∨ ending = ['\r']))

instance (line blanks : List Char) : Decidable (IsPadding line blanks) :=
  decidable_of_iff (isBlankText blanks ∧ (line = ['#'] → blanks.head? ≠ some ' '))
    ⟨fun h => ⟨h.1, h.2⟩, fun h => ⟨h.isBlankText, h.not_heading⟩⟩

theorem isPadding_nil (line : List Char) : IsPadding line [] := ⟨rfl, fun _ h => nomatch h⟩

theorem IsPadding.isBlank (h : IsPadding line blanks) : ∀ c ∈ blanks, isBlank c :=
  List.all_eq_true.1 h.isBlankText

theorem Pads.refl (line : List Char) : Pads line line :=
  ⟨[], isPadding_nil line, (List.append_nil line).symm⟩

theorem isBlankText_append (h : ∀ c ∈ blanks, isBlank c) (s : List Char) :
    isBlankText (s ++ blanks) = isBlankText s := by
  rw [isBlankText, isBlankText, List.all_append, List.all_eq_true.2 h, Bool.and_true]

theorem trimEnd_append (h : ∀ c ∈ blanks, isBlank c) (s : List Char) :
    trimEnd (s ++ blanks) = trimEnd s := by
  have hreverse : ∀ c ∈ blanks.reverse, isBlank c := fun c hc => h c (List.mem_reverse.1 hc)
  rw [trimEnd, trimEnd, List.reverse_append, List.dropWhile_append_of_pos hreverse]

theorem trim_append (h : ∀ c ∈ blanks, isBlank c) (s : List Char) : trim (s ++ blanks) = trim s := by
  -- in a blank text, what is trimmed at the start runs on into `blanks`
  by_cases hs : ∀ c ∈ s, isBlank c
  · have hstart : trimStart (s ++ blanks) = trimStart s := by
      rw [trimStart, trimStart, List.dropWhile_append_of_pos hs, List.dropWhile_eq_nil_iff.2 h,
        List.dropWhile_eq_nil_iff.2 hs]
    rw [trim, trim, hstart]
  · have hstart : trimStart (s ++ blanks) = trimStart s ++ blanks := by
      have hne : s.dropWhile isBlank ≠ [] := fun hnil => hs (List.dropWhile_eq_nil_iff.1 hnil)
      rw [trimStart, trimStart, List.dropWhile_append, if_neg (by simpa using hne)]
    rw [trim, trim, hstart, trimEnd_append h]

/-- Lines that are all ended, each with its own padding. -/
theorem isPadded_flatMap (ending : List Char) (hending : IsReturn ending)
    (rows : List (List Char × List Char))
    (h : ∀ row ∈ rows, '\n' ∉ row.1 ++ row.2 ∧ IsPadding row.1 row.2) :
    IsPadded (rows.flatMap fun row => row.1 ++ ending ++ ['\n'])
      (rows.flatMap fun row => row.1 ++ row.2 ++ ending ++ ['\n']) := by
  induction rows with
  | nil => exact .nil
  | cons row rows ih =>
    obtain ⟨⟨hfeed, hpadding⟩, hrows⟩ := List.forall_mem_cons.1 h
    rw [List.flatMap_cons, List.flatMap_cons, List.append_assoc _ ['\n'], List.append_assoc _ ['\n']]
    exact .line hfeed hending hpadding (ih hrows)

/-! ### Padded lines of a text -/

theorem lines_append_cons (hline : '\n' ∉ line) (rest : List Char) :
    lines (line ++ '\n' :: rest) = dropReturn line :: lines rest := by
  obtain ⟨piece, pieces, hpieces⟩ := List.exists_cons_of_ne_nil (splitOn_ne_nil '\n' rest)
  rw [lines, lines, splitOn_append_cons hline, hpieces, lines.ended]
  exact fun h => nomatch h

theorem lines_of_not_mem (hne : line ≠ []) (hline : '\n' ∉ line) : lines line = [line] := by
  rw [lines, splitOn_of_not_mem hline, lines.ended, if_neg hne]

theorem dropReturn_concat (s : List Char) (c : Char) :
    dropReturn (s ++ [c]) = if c = '\r' then s else s ++ [c] := by
  have hreverse : (s ++ [c]).reverse = c :: s.reverse := List.reverse_concat
  rw [dropReturn, dropEnd?, hreverse]
  by_cases hc : c = '\r'
  · rw [if_pos hc, hc]
    show (some s.reverse.reverse).getD _ = s
    rw [Option.getD_some, List.reverse_reverse]
  · have hnone : dropStart? ['\r'].reverse (c :: s.reverse) = none := if_neg (Ne.symm hc)
    rw [if_neg hc, hnone]
    rfl

/-- A carriage return goes with the line feed behind it. -/
theorem exists_eq_dropReturn_append (s : List Char) :
    ∃ ending, s = dropReturn s ++ ending ∧ IsReturn ending := by
  rcases List.eq_nil_or_concat s with rfl | ⟨s, c, rfl⟩
  · exact ⟨[], rfl, .inl rfl⟩
  · rw [List.concat_eq_append, dropReturn_concat]
    by_cases hc : c = '\r'
    · rw [if_pos hc, hc]
      exact ⟨['\r'], rfl, .inr rfl⟩
    · rw [if_neg hc]
      exact ⟨[], (List.append_nil _).symm, .inl rfl⟩

theorem IsPadding.beginning {blanks' : List Char} (h : IsPadding line blanks)
    (hbegins : blanks' <+: blanks) : IsPadding line blanks' where
  isBlankText := List.all_eq_true.2 fun c hc => h.isBlank c (hbegins.subset hc)
  not_heading hline hspace := by
    obtain ⟨rest, rfl⟩ := hbegins
    refine h.not_heading hline ?_
    rw [List.head?_append, hspace]
    rfl

/-- Of a padded line, no more than one carriage return goes with the line feed. -/
theorem pads_dropReturn (h : IsPadding line blanks) :
    Pads (dropReturn line) (dropReturn (line ++ blanks)) := by
  rcases List.eq_nil_or_concat blanks with rfl | ⟨front, c, rfl⟩
  · rw [List.append_nil]
    exact Pads.refl _
  · -- what stays of the padding is `kept`, behind the carriage return of the line if there is one
    rw [List.concat_eq_append] at h
    obtain ⟨ending, hending, hreturn⟩ := exists_eq_dropReturn_append line
    obtain ⟨kept, hkept, hbegins⟩ : ∃ kept, dropReturn (line ++ (front ++ [c])) = line ++ kept ∧
        kept <+: front ++ [c] := by
      rw [← List.append_assoc, dropReturn_concat]
      split
      · exact ⟨front, rfl, List.prefix_append front [c]⟩
      · exact ⟨front ++ [c], List.append_assoc .., List.prefix_rfl⟩
    have hpadding := h.beginning hbegins
    have hblank : isBlank '\r' := by decide
    rw [List.concat_eq_append, hkept]
    refine ⟨ending ++ kept, ⟨List.all_eq_true.2 fun d hd => ?_, fun hhash => ?_⟩, ?_⟩
    · rcases List.mem_append.1 hd with hd | hd
      · rcases hreturn with rfl | rfl
        · exact absurd hd List.not_mem_nil
        · rw [List.mem_singleton.1 hd]; exact hblank
      · exact hpadding.isBlank d hd
    · rcases hreturn with rfl | rfl
      · rw [List.append_nil] at hending
        exact hpadding.not_heading (hending.trans hhash)
      · exact fun hspace => absurd (Option.some.inj hspace) (by decide)
    · rw [← List.append_assoc, ← hending]

theorem pads_lines (h : IsPadded text text') : List.Forall₂ Pads (lines text) (lines text') := by
  induction h with
  | nil => exact .nil
  | @last line blanks hline hfeed h =>
    have hne : line ++ blanks ≠ [] := fun hnil => hline (List.append_eq_nil_iff.1 hnil).1
    have hfeed' : '\n' ∉ line := fun hmem => hfeed (List.mem_append_left blanks hmem)
    rw [lines_of_not_mem hline hfeed', lines_of_not_mem hne hfeed]
    exact .cons ⟨blanks, h, rfl⟩ .nil
  | @line line blanks ending rest rest' hfeed hending h _ ih =>
    have hfeed' : '\n' ∉ line := fun hmem => hfeed (List.mem_append_left blanks hmem)
    have hends : '\n' ∉ ending := by rcases hending with rfl | rfl <;> decide
    rw [lines_append_cons (List.not_mem_append hfeed' hends),
      lines_append_cons (List.not_mem_append hfeed hends)]
    refine .cons ?_ ih
    rcases hending with rfl | rfl
    · rw [List.append_nil, List.append_nil]
      exact pads_dropReturn h
    · rw [dropReturn_concat, dropReturn_concat, if_pos rfl, if_pos rfl]
      exact ⟨blanks, h, rfl⟩

/-! ### Beginnings of padded lines -/

/-- In a line that is long enough, a beginning is found whatever is behind the line. -/
theorem dropStart?_append {start : List Char} (h : start.length ≤ line.length) (blanks : List Char) :
    dropStart? start (line ++ blanks) = (dropStart? start line).map (· ++ blanks) := by
  induction start generalizing line with
  | nil => simp [dropStart?]
  | cons b start ih =>
    cases line with
    | nil => exact absurd h (Nat.not_succ_le_zero _)
    | cons c line =>
      rw [List.cons_append, dropStart?, dropStart?]
      split
      · exact ih (Nat.le_of_succ_le_succ h)
      · rfl

theorem map_trim_dropStart?_hash (h : IsPadding line blanks) :
    (dropStart? ['#', ' '] (line ++ blanks)).map trim = (dropStart? ['#', ' '] line).map trim := by
  have hhash : isBlank '#' = false := by decide
  -- a beginning of two characters can reach into the padding of shorter lines only
  rcases line with _ | ⟨c, _ | ⟨d, line⟩⟩
  · cases hdrop : dropStart? ['#', ' '] ([] ++ blanks) with
    | none => rfl
    | some rest =>
      have hblanks : blanks = '#' :: ' ' :: rest := dropStart?_eq_some_iff.1 hdrop
      have hblank := h.isBlank '#' (hblanks ▸ List.mem_cons_self)
      rw [hhash] at hblank
      cases hblank
  · cases hdrop : dropStart? ['#', ' '] ([c] ++ blanks) with
    | none =>
      by_cases hc : '#' = c <;> simp [dropStart?, hc]
    | some rest =>
      obtain ⟨rfl, hblanks⟩ := List.cons.inj (dropStart?_eq_some_iff.1 hdrop)
      exact absurd (congrArg List.head? hblanks) (h.not_heading rfl)
  · have hlength : ['#', ' '].length ≤ (c :: d :: line).length := Nat.le_add_left 2 line.length
    rw [dropStart?_append hlength, Option.map_map]
    exact Option.map_congr fun rest _ => trim_append h.isBlank rest

theorem isSome_dropStart?_spaces (hblank : isBlankText line = false) (blanks : List Char) :
    (dropStart? [' ', ' '] (line ++ blanks)).isSome = (dropStart? [' ', ' '] line).isSome := by
  rcases line with _ | ⟨c, _ | ⟨d, line⟩⟩
  · cases hblank
  · by_cases hc : ' ' = c
    · subst hc
      cases hblank
    · simp [dropStart?, hc]
  · have hlength : [' ', ' '].length ≤ (c :: d :: line).length := Nat.le_add_left 2 line.length
    rw [dropStart?_append hlength, Option.isSome_map]

end Text

/-! ### Lines that are read alike -/

namespace Document

/-- The lines agree in what is asked of them while they are read. -/
structure Line.ReadsAs (l l' : Line) : Prop where
  index : l'.index = l.index
  isBlank : l'.isBlank = l.isBlank
  isContinuation : l'.isContinuation = l.isContinuation
  heading : l'.heading?.map Text.trim = l.heading?.map Text.trim
  trim : Text.trim l'.text = Text.trim l.text
  trimEnd : Text.trimEnd l'.text = Text.trimEnd l.text

theorem Line.readsAs_of_pads {l l' : Line} (hindex : l'.index = l.index)
    (h : Text.Pads l.text l'.text) : l.ReadsAs l' := by
  obtain ⟨blanks, hpadding, htext⟩ := h
  have hblank : l'.isBlank = l.isBlank := by
    rw [isBlank, isBlank, htext, Text.isBlankText_append hpadding.isBlank]
  refine ⟨hindex, hblank, ?_, ?_, ?_, ?_⟩
  · rw [isContinuation, isContinuation, hblank]
    cases hl : l.isBlank with
    | true => rw [Bool.not_true, Bool.and_false, Bool.and_false]
    | false => rw [htext, Text.isSome_dropStart?_spaces hl]
  · rw [heading?, heading?, htext, Text.map_trim_dropStart?_hash hpadding]
  · rw [htext, Text.trim_append hpadding.isBlank]
  · rw [htext, Text.trimEnd_append hpadding.isBlank]

abbrev ReadAlike (ls ls' : List Line) : Prop := List.Forall₂ Line.ReadsAs ls ls'

variable {l l' : Line} {ls ls' : List Line} {source : Source} {serves : Nat}

theorem Line.ReadsAs.inStep_eq (h : l.ReadsAs l') : l'.inStep = l.inStep := by
  have hheading : l'.heading?.isNone = l.heading?.isNone := by
    rw [← Option.isNone_map, h.heading, Option.isNone_map]
  rw [inStep, inStep, h.isBlank, hheading]

theorem Line.ReadsAs.commandOf_eq (h : l.ReadsAs l') : commandOf l'.text = commandOf l.text := by
  rw [commandOf, commandOf, h.trimEnd]

theorem readAlike_numberedFrom {texts texts' : List (List Char)} (first : Nat)
    (h : List.Forall₂ Text.Pads texts texts') :
    ReadAlike (numberedFrom first texts) (numberedFrom first texts') := by
  induction h generalizing first with
  | nil => exact .nil
  | @cons line line' _ _ hline _ ih =>
    have hfirst : Line.ReadsAs ⟨first, line⟩ ⟨first, line'⟩ := Line.readsAs_of_pads rfl hline
    exact .cons hfirst (ih (first + 1))

/-! ### Header lines -/

theorem continuationsOf_of_readAlike (h : ReadAlike ls ls') (command : String) :
    ReadAlike (continuationsOf command ls) (continuationsOf command ls') := by
  rcases continuationsOf_cases command with hc | hc
  · rw [hc, hc]
    exact forall₂_takeWhile h fun _ _ hl => hl.isContinuation
  · rw [hc, hc]
    exact .nil

theorem continuedText_of_readAlike (h : ReadAlike ls ls') (value : String) :
    continuedText value ls' = continuedText value ls := by
  have htexts : ls'.map (fun l => Text.trim l.text) = ls.map fun l => Text.trim l.text :=
    map_eq_map_of_forall₂ h fun _ _ hl => hl.trim
  have hfold : ∀ (text : List Char) (ls : List Line),
      ls.foldl (fun text l => appendPiece text (Text.trim l.text)) text =
        (ls.map fun l => Text.trim l.text).foldl appendPiece text :=
    fun text ls => List.foldl_map.symm
  rw [continuedText, continuedText, hfold, hfold, htexts]

theorem applyLine_of_readAlike (h : ReadAlike ls ls') (b : Builder) (hl : l.ReadsAs l') :
    applyLine b l' ls' = applyLine b l ls := by
  have hcommand : ∀ c value, applyCommand b c value ls' = applyCommand b c value ls := by
    intro c value
    cases c with
    | desc => rw [applyCommand, applyCommand, continuedText_of_readAlike h]
    | note => rw [applyCommand, applyCommand, continuedText_of_readAlike h]
    | _ => rfl
  rw [applyLine, applyLine, hl.commandOf_eq, hl.index]
  simp only [hcommand]

/-- A line with what continues it says the same, and as many lines are read with it. -/
theorem readHeader_cons_of_readAlike (h : ReadAlike ls ls') (b : Builder) (hl : l.ReadsAs l')
    (hblank : l.isBlank = false) : readHeader b (l' :: ls') =
      (applyLine b l (continuationsOf (commandOf l.text).1 ls) >>= fun b =>
        readHeader b (ls'.drop (continuationsOf (commandOf l.text).1 ls).length)) := by
  have hcontinuations := continuationsOf_of_readAlike h (commandOf l.text).1
  rw [readHeader_cons (hl.isBlank.trans hblank), hl.commandOf_eq,
    applyLine_of_readAlike hcontinuations b hl, hcontinuations.length_eq]

/-- The header is the same, whatever is given back of the lines behind it. -/
theorem map_fst_readHeader_of_readAlike (b : Builder) (ls : List Line) : ∀ ls', ReadAlike ls ls' →
    (readHeader b ls').map Prod.fst = (readHeader b ls).map Prod.fst := by
  -- the recursion of the reader on `ls`; as many lines are taken of `ls'` in each round
  fun_induction readHeader b ls with
  | case1 b =>
    rintro _ ⟨⟩
    rw [readHeader]
  | case2 b l rest hblank =>
    rintro _ (_ | @⟨_, l', _, rest', hl, -⟩)
    have hstop : ∀ x ∈ (l' :: rest').head?, x.isBlank := by
      intro x hx
      obtain rfl : l' = x := Option.some.inj hx
      rw [hl.isBlank, hblank]
    rw [readHeader_of_head? hstop]
    rfl
  | case3 b l rest hblank continuations e happly =>
    rintro _ (_ | ⟨hl, hrest⟩)
    rw [readHeader_cons_of_readAlike hrest b hl (by simpa using hblank), happly]
    rfl
  | case4 b l rest hblank continuations b' happly ih =>
    rintro _ (_ | ⟨hl, hrest⟩)
    rw [readHeader_cons_of_readAlike hrest b hl (by simpa using hblank), happly]
    exact ih _ (List.forall₂_drop _ hrest)

theorem readMetadata_of_readAlike (h : ReadAlike ls ls') :
    readMetadata source ls' = readMetadata source ls := by
  have hmetadata : ∀ ls, readMetadata source ls =
      ((readHeader (.start source.id source.lang source.fileName) ls).map Prod.fst >>= Builder.build) := by
    intro ls
    rw [readMetadata]
    cases readHeader (.start source.id source.lang source.fileName) ls <;> rfl
  rw [hmetadata, hmetadata, map_fst_readHeader_of_readAlike _ ls ls' h]

/-! ### Body lines -/

theorem addStepLines_of_readAlike (h : ReadAlike ls ls') (s : Step) :
    addStepLines s ls' = addStepLines s ls := by
  induction h generalizing s with
  | nil => rfl
  | cons hl _ ih =>
    rw [addStepLines_cons, addStepLines_cons, hl.index, hl.trimEnd]
    simp only [ih]

/-- A run of step lines makes the same step, and the rest is read behind it. -/
theorem readBodyFrom_cons_of_readAlike (h : ReadAlike ls ls') (done : List SectionDraft)
    (current : SectionDraft) (hl : l.ReadsAs l') (hstep : l.inStep) :
    readBodyFrom serves done current (l' :: ls') =
      (noted (.step ⟨current.steps.length, done.length⟩)
          (addStepLines (.empty serves) (l :: ls.takeWhile Line.inStep)) >>= fun step =>
        readBodyFrom serves done { current with steps := current.steps ++ [step] }
          (ls'.dropWhile Line.inStep)) := by
  have hrun : ReadAlike (l :: ls.takeWhile Line.inStep) (l' :: ls'.takeWhile Line.inStep) :=
    .cons hl (forall₂_takeWhile h fun _ _ hl => hl.inStep_eq)
  rw [readBodyFrom_of_inStep (hl.inStep_eq.trans hstep), addStepLines_of_readAlike hrun]

theorem readBodyFrom_of_readAlike (serves : Nat) (done : List SectionDraft) (current : SectionDraft)
    (ls : List Line) : ∀ ls', ReadAlike ls ls' →
      readBodyFrom serves done current ls' = readBodyFrom serves done current ls := by
  fun_induction readBodyFrom serves done current ls with
  | case1 done current =>
    rintro _ ⟨⟩
    rw [readBodyFrom]
  | case2 done current l rest hblank ih =>
    rintro _ (_ | ⟨hl, hrest⟩)
    rw [readBodyFrom_of_isBlank (hl.isBlank.trans hblank), ih _ hrest]
  | case3 done current l rest hblank text htext ih =>
    rintro _ (_ | ⟨hl, hrest⟩)
    have hheading := hl.heading
    rw [htext, Option.map_some, Option.map_eq_some_iff] at hheading
    obtain ⟨text', htext', htrim⟩ := hheading
    rw [readBodyFrom_of_heading? htext', htrim, ih _ hrest]
  | case4 done current l rest hblank hheading place e hrun =>
    rintro _ (_ | ⟨hl, hrest⟩)
    have hstep : l.inStep := Line.inStep_iff.2 ⟨by simpa using hblank, hheading⟩
    rw [readBodyFrom_cons_of_readAlike hrest done current hl hstep, hrun]
    rfl
  | case5 done current l rest hblank hheading place step hrun ih =>
    rintro _ (_ | ⟨hl, hrest⟩)
    have hstep : l.inStep := Line.inStep_iff.2 ⟨by simpa using hblank, hheading⟩
    rw [readBodyFrom_cons_of_readAlike hrest done current hl hstep, hrun]
    exact ih _ (forall₂_dropWhile hrest fun _ _ hl => hl.inStep_eq)

/-! ### Documents -/

theorem readLines_of_readAlike (h : ReadAlike ls ls') : readLines source ls' = readLines source ls := by
  have hblank : ∀ l l' : Line, l.ReadsAs l' → (!l'.isBlank) = !l.isBlank :=
    fun l l' hl => congrArg (! ·) hl.isBlank
  have hheader : ReadAlike (headerOf ls) (headerOf ls') := forall₂_takeWhile h hblank
  have hbody : ReadAlike (bodyOf ls) (bodyOf ls') := forall₂_dropWhile h hblank
  rw [readLines, readLines, readMetadata_of_readAlike hheader]
  simp only [readBody, readBodyFrom_of_readAlike _ _ _ _ _ hbody]

/-- Padding makes no difference to what a document is read as. -/
theorem read_padded {text text' : String} (source : Source)
    (h : Text.IsPadded text.toList text'.toList) : read source text' = read source text := by
  rw [read_eq_readLines, read_eq_readLines, numbered_eq, numbered_eq]
  exact readLines_of_readAlike (readAlike_numberedFrom 0 (Text.pads_lines h))

def stewSource : Source := ⟨"stew", "en", "stew.en.recipe"⟩

def stewText : String :=
  "name Stew\r\nserves 1\r\n\r\n# Pot\r\n- 2 beans\r\n#\r\nCook.\r\n"

def paddedStewText : String :=
  "name Stew \r\nserves 1\t\r\n  \r\n# Pot \r\n- 2 beans \r\n#\t\r\nCook. \r\n"

/-- Blank characters in front of line ends with carriage returns, in a stew of one step. -/
theorem read_paddedStewText : Text.IsPadded stewText.toList paddedStewText.toList ∧
    read stewSource paddedStewText = read stewSource stewText ∧
    ((read stewSource stewText).toOption.map fun r => (r.sections.map Section.heading,
      r.steps.map fun s => s.ingredients.map Ingredient.name)) = some ([some "Pot"], [["beans"]]) := by
  have hpadded : Text.IsPadded stewText.toList paddedStewText.toList :=
    Text.isPadded_flatMap ['\r'] (by decide) [("name Stew".toList, [' ']),
      ("serves 1".toList, ['\t']), ([], [' ', ' ']), ("# Pot".toList, [' ']),
      ("- 2 beans".toList, [' ']), (['#'], ['\t']), ("Cook.".toList, [' '])] (by decide +kernel)
  exact ⟨hpadded, read_padded stewSource hpadded, by decide +kernel⟩

/-- A space makes a heading of a hash that stands alone. -/
example : ((read stewSource "name Stew\nserves 1\n\n#\n").toOption.map fun r =>
      r.sections.map Section.heading) = some [none] ∧
    ((read stewSource "name Stew\nserves 1\n\n# \n").toOption.map fun r =>
      r.sections.map Section.heading) = some [some ""] := by
  decide +kernel

end Document
end RecipeBook
