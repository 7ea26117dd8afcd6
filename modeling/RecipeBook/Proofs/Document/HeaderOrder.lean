import Mathlib.Data.List.Perm.Basic
import RecipeBook.Proofs.Document.Renumbered
import RecipeBook.Proofs.Metadata.Calls
import RecipeBook.Proofs.Text.Trimmed

/-!
# The order of a header's lines

Header lines fall into paragraphs: a command line and the lines that continue its value. Each
paragraph of a header means some entries (`Paragraph.Gives`), whatever comes before it, and a header
is read if no two of all these entries are for one field (`readMetadata_eq_ok_iff`). That does not
depend on the order of the paragraphs. No paragraph takes a line of another one, in any order, as
a line with a command continues nothing (`paragraphs_flatMap`).
-/

namespace RecipeBook

namespace Document

/-- A command line and the lines that continue its value. -/
structure Paragraph where
  line : Line
  continuations : List Line
  deriving DecidableEq

namespace Paragraph

def lines (p : Paragraph) : List Line := p.line :: p.continuations

def command (p : Paragraph) : String := (commandOf p.line.text).1

def value (p : Paragraph) : String := (commandOf p.line.text).2

/-- The trimmed pieces of the value, with one space between two of them. A value that is blank in the
command line is no piece. -/
def text (p : Paragraph) : String :=
  .ofList (List.intercalate [' ']
    ([Text.trim p.value.toList].filter (· ≠ []) ++ p.continuations.map fun l => Text.trim l.text))

/-- The paragraph goes as far as its command takes lines. -/
structure IsWhole (p : Paragraph) : Prop where
  line : p.line.isContinuation = false
  continuations : continuationsOf p.command p.continuations = p.continuations

end Paragraph

/-- The paragraphs of header lines. -/
def paragraphs : List Line → List Paragraph
  | [] => []
  | l :: rest =>
    ⟨l, continuationsOf (commandOf l.text).1 rest⟩ ::
      paragraphs (rest.drop (continuationsOf (commandOf l.text).1 rest).length)
termination_by ls => ls.length
decreasing_by simp only [List.length_drop, List.length_cons]; omega

/-- The entries that a command means. -/
inductive Means (value : String) (continuations : List Line) : Command → List Entry → Prop
  | name {text : String} (h : requiredValue .name value = .ok text) :
      Means value continuations .name [.name text]
  | serves {es : List Entry} (h : ServesLine.read value = ⟨es, none⟩) :
      Means value continuations .serves es
  | desc : Means value continuations .desc [.description (continuedText value continuations)]
  | note : Means value continuations .note [.note (continuedText value continuations)]
  | tags : Means value continuations .tags [.tags (splitList value)]
  | related : Means value continuations .related [.related ((splitList value).map normalizeId)]
  | attrib {text : String} (h : requiredValue .attrib value = .ok text) :
      Means value continuations .attrib [.attribution text]
  | hide : Means value continuations .hide [.hideFromAll true]
  | version {n : Nat} (h : readVersion value = .ok n) :
      Means value continuations .version [.schemaVersion n]

/-- The paragraph has a command, and gives the entries that it means. -/
def Paragraph.Gives (p : Paragraph) (es : List Entry) : Prop :=
  ∃ c, Command.ofLabel? p.command = some c ∧ Means p.value p.continuations c es

end Document

/-- The command that sets the field. -/
def Field.command : Field → Document.Command
  | name => .name
  | serves => .serves
  | servingsUnit => .serves
  | servingsIncrement => .serves
  | description => .desc
  | note => .note
  | tags => .tags
  | related => .related
  | attribution => .attrib
  | hideFromAll => .hide
  | schemaVersion => .version

namespace Document

variable {b b' : Builder} {c : Command} {value : String} {continuations ls ls' : List Line} {l : Line}
  {p : Paragraph} {ps : List Paragraph} {es : List Entry} {ess : List (List Entry)} {e : Entry}

/-! ### Commands and fields -/

theorem Command.label_of_ofLabel? {s : String} (h : ofLabel? s = some c) : c.label = s := by
  rw [ofLabel?] at h
  simpa using List.find?_some h

theorem Command.ofLabel?_label (c : Command) : ofLabel? c.label = some c := by
  cases c <;> rfl

/-- The field that a command sets whatever its value is. -/
def Command.field : Command → Field
  | name => .name
  | serves => .serves
  | desc => .description
  | note => .note
  | tags => .tags
  | related => .related
  | attrib => .attribution
  | hide => .hideFromAll
  | version => .schemaVersion

/-- A command sets no field of another command. -/
theorem Means.command_field (h : Means value continuations c es) (he : e ∈ es) : e.field.command = c := by
  cases h with
  | serves h =>
    have hprefix := ServesLine.fields_read_prefix value
    rw [h] at hprefix
    have hfield := hprefix.subset (List.mem_map_of_mem he)
    simp only [List.mem_cons, List.not_mem_nil, or_false] at hfield
    rcases hfield with hfield | hfield | hfield <;> rw [hfield] <;> rfl
  | _ =>
    obtain rfl := List.mem_singleton.1 he
    rfl

theorem Means.exists_field (h : Means value continuations c es) : ∃ e ∈ es, e.field = c.field := by
  cases h with
  | serves h =>
    rcases ServesLine.uncounted_or_counted value with ⟨fault, hnone⟩ | ⟨count, n, rest, hcount⟩
    · rw [ServesLine.read_of_uncounted hnone] at h
      cases h
    · obtain ⟨more, fault?, hread⟩ := hcount.exists_read
      rw [hread] at h
      obtain ⟨rfl, -⟩ := ServesLine.mk.inj h
      exact ⟨_, List.mem_cons_self, rfl⟩
  | _ => exact ⟨_, List.mem_singleton_self _, rfl⟩

/-! ### Lines and paragraphs -/

theorem applyCommand_eq_ok_iff : applyCommand b c value continuations = .ok b' ↔
    ∃ es, Means value continuations c es ∧ b.Takes es ∧ b' = b.append es := by
  constructor
  · intro h
    cases c with
    | name =>
      obtain ⟨text, htext, hadd⟩ := bind_eq_ok.1 h
      exact ⟨_, .name htext, Builder.add_eq_ok_iff.1 hadd⟩
    | serves =>
      rw [applyCommand] at h
      split at h
      · next hadd =>
        obtain rfl := Except.ok.inj h
        obtain ⟨es, hread, hes⟩ := Builder.addServesLine_eq_ok_iff.1 hadd
        exact ⟨es, .serves hread, hes⟩
      · cases h
    | desc => exact ⟨_, .desc, Builder.add_eq_ok_iff.1 h⟩
    | note => exact ⟨_, .note, Builder.add_eq_ok_iff.1 h⟩
    | tags => exact ⟨_, .tags, Builder.add_eq_ok_iff.1 h⟩
    | related => exact ⟨_, .related, Builder.add_eq_ok_iff.1 h⟩
    | attrib =>
      obtain ⟨text, htext, hadd⟩ := bind_eq_ok.1 h
      exact ⟨_, .attrib htext, Builder.add_eq_ok_iff.1 hadd⟩
    | hide => exact ⟨_, .hide, Builder.add_eq_ok_iff.1 h⟩
    | version =>
      obtain ⟨n, hn, hadd⟩ := bind_eq_ok.1 h
      exact ⟨_, .version hn, Builder.add_eq_ok_iff.1 hadd⟩
  · rintro ⟨es, h, hadd⟩
    cases h with
    | name htext => exact bind_eq_ok.2 ⟨_, htext, Builder.add_eq_ok_iff.2 hadd⟩
    | serves hread => rw [applyCommand, Builder.addServesLine_eq_ok_iff.2 ⟨es, hread, hadd⟩]
    | attrib htext => exact bind_eq_ok.2 ⟨_, htext, Builder.add_eq_ok_iff.2 hadd⟩
    | version hn => exact bind_eq_ok.2 ⟨_, hn, Builder.add_eq_ok_iff.2 hadd⟩
    | _ => exact Builder.add_eq_ok_iff.2 hadd

theorem applyLine_eq_ok_iff (p : Paragraph) : applyLine b p.line p.continuations = .ok b' ↔
    ∃ es, p.Gives es ∧ b.Takes es ∧ b' = b.append es := by
  rw [applyLine]
  simp only [noted_eq_ok]
  constructor
  · intro h
    split at h
    · next c hc =>
      obtain ⟨es, hmeans, hes⟩ := applyCommand_eq_ok_iff.1 h
      exact ⟨es, ⟨c, hc, hmeans⟩, hes⟩
    · cases h
  · rintro ⟨es, ⟨c, hc, hmeans⟩, hes⟩
    rw [Paragraph.command] at hc
    rw [hc]
    exact applyCommand_eq_ok_iff.2 ⟨es, hmeans, hes⟩

theorem paragraphs_cons (l : Line) (rest : List Line) : paragraphs (l :: rest) =
    ⟨l, continuationsOf (commandOf l.text).1 rest⟩ ::
      paragraphs (rest.drop (continuationsOf (commandOf l.text).1 rest).length) := by
  rw [paragraphs]

/-- Header lines are read if no two entries that their paragraphs give are for one field. -/
theorem readHeader_eq_ok_iff (hls : ∀ l ∈ ls, l.isBlank = false) {rest : List Line} :
    readHeader b ls = .ok (b', rest) ↔ rest = [] ∧ ∃ ess,
      List.Forall₂ Paragraph.Gives (paragraphs ls) ess ∧ b.Takes ess.flatten ∧
        b' = b.append ess.flatten := by
  fun_induction paragraphs ls generalizing b with
  | case1 =>
    rw [readHeader]
    constructor
    · intro h
      obtain ⟨rfl, rfl⟩ := Prod.mk.inj (Except.ok.inj h)
      exact ⟨rfl, [], .nil, Builder.takes_nil b, (Builder.append_nil b).symm⟩
    · rintro ⟨rfl, ess, hess, -, rfl⟩
      cases hess
      rw [List.flatten_nil, Builder.append_nil]
  | case2 l after ih =>
    have hl : l.isBlank = false := hls l List.mem_cons_self
    have hafter : ∀ x ∈ after.drop (continuationsOf (commandOf l.text).1 after).length,
        x.isBlank = false := fun x hx => hls x (List.mem_cons_of_mem _ (List.mem_of_mem_drop hx))
    rw [readHeader_cons hl, bind_eq_ok]
    constructor
    · rintro ⟨b₁, h, hrest⟩
      obtain ⟨es, hgives, hes, rfl⟩ := (applyLine_eq_ok_iff ⟨l, _⟩).1 h
      obtain ⟨rfl, ess, hess, htakes, rfl⟩ := (ih hafter).1 hrest
      refine ⟨rfl, es :: ess, .cons hgives hess, ?_, ?_⟩
      · exact Builder.takes_append_iff.2 ⟨hes, htakes⟩
      · rw [Builder.append_append, List.flatten_cons]
    · rintro ⟨rfl, ess, hess, htakes, rfl⟩
      cases hess with
      | cons hgives hess =>
        obtain ⟨hes, htakes⟩ := Builder.takes_append_iff.1 htakes
        refine ⟨_, (applyLine_eq_ok_iff ⟨l, _⟩).2 ⟨_, hgives, hes, rfl⟩,
          (ih hafter).2 ⟨rfl, _, hess, htakes, ?_⟩⟩
        rw [Builder.append_append, List.flatten_cons]

theorem readMetadata_eq_ok_iff (hls : ∀ l ∈ ls, l.isBlank = false) {source : Source} {m : Metadata} :
    readMetadata source ls = .ok m ↔ ∃ ess, List.Forall₂ Paragraph.Gives (paragraphs ls) ess ∧
      (ess.flatten.map Entry.field).Nodup ∧
      ((Builder.start source.id source.lang source.fileName).append ess.flatten).build = .ok m := by
  rw [readMetadata, bind_eq_ok]
  constructor
  · rintro ⟨⟨b, rest⟩, hheader, hbuild⟩
    obtain ⟨-, ess, hess, htakes, rfl⟩ := (readHeader_eq_ok_iff hls).1 hheader
    exact ⟨ess, hess, htakes.nodup, hbuild⟩
  · rintro ⟨ess, hess, hnodup, hbuild⟩
    exact ⟨(_, []), (readHeader_eq_ok_iff hls).2
      ⟨rfl, ess, hess, (Builder.takes_start_iff _ _ _).2 hnodup, rfl⟩, hbuild⟩

/-! ### Paragraphs in another order -/

theorem flatMap_lines_paragraphs (ls : List Line) : (paragraphs ls).flatMap Paragraph.lines = ls := by
  fun_induction paragraphs ls with
  | case1 => rfl
  | case2 l rest ih =>
    obtain ⟨tail, hrest, -⟩ := exists_continuationsOf (commandOf l.text).1 rest
    have hdrop := congrArg (List.drop (continuationsOf (commandOf l.text).1 rest).length) hrest
    rw [List.drop_left] at hdrop
    rw [List.flatMap_cons, ih, hdrop, Paragraph.lines, List.cons_append, ← hrest]

theorem continuationsOf_continuationsOf (command : String) (ls : List Line) :
    continuationsOf command (continuationsOf command ls) = continuationsOf command ls := by
  obtain ⟨rest, -, hsame⟩ := exists_continuationsOf command ls
  simpa using hsame [] nofun

/-- What a line begins with is its command, and that is empty if the line begins with a blank. -/
theorem commandOf_of_isBlank {a : Char} {s : List Char} (ha : Text.isBlank a)
    (hs : Text.isBlankText (a :: s) = false) : (commandOf (a :: s)).1 = "" := by
  have hprefix : Text.trimEnd (a :: s) <+: a :: s := List.rdropWhile_prefix Text.isBlank _
  have hne : Text.trimEnd (a :: s) ≠ [] := by
    intro hnil
    have hall := List.rdropWhile_eq_nil_iff.1 hnil
    rw [Text.isBlankText, List.all_eq_true.2 hall] at hs
    cases hs
  obtain ⟨d, t, ht⟩ := List.exists_cons_of_ne_nil hne
  rw [ht, List.cons_prefix_cons] at hprefix
  obtain ⟨rfl, -⟩ := hprefix
  rw [commandOf, ht, Text.splitAtFirst, if_pos ha]

/-- A line that continues another one has no command. -/
theorem isContinuation_eq_false_of_ofLabel? (h : Command.ofLabel? (commandOf l.text).1 = some c) :
    l.isContinuation = false := by
  cases hl : l.isContinuation with
  | false => rfl
  | true =>
    obtain ⟨hspaces, hblank⟩ := Bool.and_eq_true_iff.1 hl
    rw [Bool.not_eq_true'] at hblank
    obtain ⟨rest, hrest⟩ := Option.isSome_iff_exists.1 hspaces
    have htext : l.text = ' ' :: ' ' :: rest := Text.dropStart?_eq_some_iff.1 hrest
    rw [Line.isBlank, htext] at hblank
    rw [htext, commandOf_of_isBlank (by decide) hblank] at h
    cases h

theorem isWhole_of_mem_paragraphs (hess : List.Forall₂ Paragraph.Gives (paragraphs ls) ess) :
    ∀ p ∈ paragraphs ls, p.IsWhole := by
  have hcontinuations : ∀ ls, ∀ p ∈ paragraphs ls,
      continuationsOf p.command p.continuations = p.continuations := by
    intro ls
    fun_induction paragraphs ls with
    | case1 => nofun
    | case2 l rest ih => exact List.forall_mem_cons.2 ⟨continuationsOf_continuationsOf _ _, ih⟩
  intro p hp
  have hline := forall_mem_of_forall₂ hess (fun p es hgives => by
    obtain ⟨c, hc, -⟩ := hgives
    exact isContinuation_eq_false_of_ofLabel? hc) p hp
  exact ⟨hline, hcontinuations ls p hp⟩

/-- Paragraphs that are whole stay the same wherever they stand. -/
theorem paragraphs_flatMap (h : ∀ p ∈ ps, p.IsWhole) : paragraphs (ps.flatMap Paragraph.lines) = ps := by
  induction ps with
  | nil => rw [List.flatMap_nil, paragraphs]
  | cons p ps ih =>
    obtain ⟨hp, hps⟩ := List.forall_mem_cons.1 h
    have hnext : ∀ x ∈ (ps.flatMap Paragraph.lines).head?, x.isContinuation = false := by
      cases ps with
      | nil => nofun
      | cons q qs =>
        intro x hx
        obtain rfl : q.line = x := Option.some.inj hx
        exact (hps q List.mem_cons_self).line
    have htake : continuationsOf (commandOf p.line.text).1
        (p.continuations ++ ps.flatMap Paragraph.lines) = p.continuations := by
      rw [continuationsOf_append hnext]
      exact hp.continuations
    rw [List.flatMap_cons, Paragraph.lines, List.cons_append, paragraphs_cons, htake, List.drop_left,
      ih hps]

/-- Lines are read alike under other numbers. -/
theorem readMetadata_of_texts {source : Source} {m : Metadata} (h : ls'.map Line.text = ls.map Line.text)
    (hread : readMetadata source ls = .ok m) : readMetadata source ls' = .ok m := by
  have hmap : ∀ ls : List Line, ls.map (Line.renumbered fun _ => 0) = (ls.map Line.text).map (Line.mk 0) :=
    fun ls => by rw [List.map_map]; rfl
  have hzero : ls'.map (Line.renumbered fun _ => 0) = ls.map (Line.renumbered fun _ => 0) := by
    rw [hmap, hmap, h]
  have hresult := readMetadata_renumbered (f := fun _ => 0) source ls'
  rw [hzero, readMetadata_renumbered, hread, renumberedResult_ok] at hresult
  cases hread' : readMetadata source ls' with
  | ok m' => rw [hread', renumberedResult_ok] at hresult; exact hresult.symm
  | error e => rw [hread'] at hresult; cases hresult

theorem readMetadata_of_perm (hls : ∀ l ∈ ls, l.isBlank = false) {source : Source} {m : Metadata}
    (hread : readMetadata source ls = .ok m) (hps : ps.Perm (paragraphs ls)) :
    readMetadata source (ps.flatMap Paragraph.lines) = .ok m := by
  obtain ⟨ess, hess, hnodup, hbuild⟩ := (readMetadata_eq_ok_iff hls).1 hread
  have hblank : ∀ l ∈ ps.flatMap Paragraph.lines, l.isBlank = false := by
    intro l hl
    refine hls l ?_
    rw [← flatMap_lines_paragraphs ls]
    exact (hps.flatMap_right _).subset hl
  have hwhole : ∀ p ∈ ps, p.IsWhole := fun p hp => isWhole_of_mem_paragraphs hess p (hps.subset hp)
  obtain ⟨ess', hess', hperm⟩ := List.perm_comp_forall₂ hps hess
  have hflat : ess'.flatten.Perm ess.flatten := hperm.flatten
  have hnodup' := (hflat.map Entry.field).nodup_iff.2 hnodup
  refine (readMetadata_eq_ok_iff hblank).2 ⟨ess', ?_, hnodup', ?_⟩
  · rwa [paragraphs_flatMap hwhole]
  · rwa [Builder.build_append_of_perm hflat hnodup']

/-! ### The text of a paragraph -/

theorem trim_ne_nil {s : List Char} (h : Text.isBlankText s = false) : Text.trim s ≠ [] := by
  intro hnil
  rw [Text.trim_eq_rdropWhile, List.rdropWhile_eq_nil_iff] at hnil
  have hhead := head?_dropWhile_eq_false Text.isBlank s
  cases hdrop : s.dropWhile Text.isBlank with
  | nil =>
    rw [Text.isBlankText, List.all_eq_true.2 (List.dropWhile_eq_nil_iff.1 hdrop)] at h
    cases h
  | cons a t =>
    rw [hdrop] at hnil hhead
    exact Bool.false_ne_true ((hhead a rfl).symm.trans (hnil a List.mem_cons_self))

theorem foldl_appendPiece {pieces : List (List Char)} (h : ∀ piece ∈ pieces, piece ≠ [])
    (text : List Char) : pieces.foldl appendPiece text =
      List.intercalate [' '] ([text].filter (· ≠ []) ++ pieces) := by
  induction pieces generalizing text with
  | nil => by_cases htext : text = [] <;> simp [htext]
  | cons piece pieces ih =>
    obtain ⟨hpiece, hpieces⟩ := List.forall_mem_cons.1 h
    rw [List.foldl_cons, ih hpieces]
    by_cases htext : text = []
    · simp [appendPiece, htext, hpiece]
    · have hcut : List.intercalate [' '] ((text ++ ' ' :: piece) :: pieces) =
          List.intercalate [' '] (text :: piece :: pieces) := by
        cases pieces <;> simp [List.intercalate]
      simpa [appendPiece, htext] using hcut

theorem Paragraph.IsWhole.text_eq (h : p.IsWhole) : p.text = continuedText p.value p.continuations := by
  have hpieces : ∀ piece ∈ p.continuations.map fun l => Text.trim l.text, piece ≠ [] := by
    intro piece hpiece
    obtain ⟨l, hl, rfl⟩ := List.mem_map.1 hpiece
    rw [← h.continuations] at hl
    exact trim_ne_nil (isBlank_of_mem_continuationsOf hl)
  rw [text, continuedText, ← foldl_appendPiece hpieces, List.foldl_map]

/-! ### What the paragraphs of a header give -/

theorem exists_means (hess : List.Forall₂ Paragraph.Gives ps ess) (hp : p ∈ ps)
    (hc : p.command = c.label) : ∃ es ∈ ess, Means p.value p.continuations c es := by
  obtain ⟨es, hes, c', hc', hmeans⟩ := exists_mem_of_forall₂ hess hp
  rw [hc, Command.ofLabel?_label] at hc'
  obtain rfl := Option.some.inj hc'
  exact ⟨es, hes, hmeans⟩

/-- Paragraphs with one command would both give an entry for its field. -/
theorem nodup_commands (hess : List.Forall₂ Paragraph.Gives ps ess)
    (hnodup : (ess.flatten.map Entry.field).Nodup) : (ps.map Paragraph.command).Nodup := by
  induction hess with
  | nil => exact List.nodup_nil
  | @cons p es ps ess hgives hess ih =>
    rw [List.flatten_cons, List.map_append, List.nodup_append] at hnodup
    obtain ⟨-, hrest, hne⟩ := hnodup
    refine List.nodup_cons.2 ⟨fun hmem => ?_, ih hrest⟩
    obtain ⟨q, hq, hcommand⟩ := List.mem_map.1 hmem
    obtain ⟨c, hc, hmeans⟩ := hgives
    have hlabel : q.command = c.label := hcommand.trans (Command.label_of_ofLabel? hc).symm
    obtain ⟨es', hes', hmeans'⟩ := exists_means hess hq hlabel
    obtain ⟨e, he, hfield⟩ := hmeans.exists_field
    obtain ⟨e', he', hfield'⟩ := hmeans'.exists_field
    exact hne _ (List.mem_map_of_mem he) _
      (List.mem_map_of_mem (List.mem_flatten.2 ⟨es', hes', he'⟩)) (hfield.trans hfield'.symm)

/-- Where no paragraph has the command of a field, the field is not set. -/
theorem field_ne_of_command_ne (hess : List.Forall₂ Paragraph.Gives ps ess) {f : Field}
    (hps : ∀ p ∈ ps, p.command ≠ f.command.label) : ∀ e ∈ ess.flatten, e.field ≠ f := by
  rintro e he rfl
  obtain ⟨es, hes, he⟩ := List.mem_flatten.1 he
  obtain ⟨p, hp, c, hc, hmeans⟩ := exists_mem_of_forall₂ hess.flip hes
  refine hps p hp ?_
  rw [hmeans.command_field he, Command.label_of_ofLabel? hc]

/-- The header is read from its paragraphs in any order. -/
structure ReadsInAnyOrder (source : Source) (ls : List Line) (m : Metadata) : Prop where
  flatten : (paragraphs ls).flatMap Paragraph.lines = ls
  /-- Any lines with the texts of the reordered ones are read, whatever their numbers are. -/
  permuted : ∀ ps : List Paragraph, ps.Perm (paragraphs ls) → ∀ ls' : List Line,
    ls'.map Line.text = (ps.flatMap Paragraph.lines).map Line.text → readMetadata source ls' = .ok m
  nodup : ((paragraphs ls).map Paragraph.command).Nodup
  description : ∀ p ∈ paragraphs ls, p.command = "desc" → m.description = some p.text
  no_description : (∀ p ∈ paragraphs ls, p.command ≠ "desc") → m.description = none
  note : ∀ p ∈ paragraphs ls, p.command = "note" → m.note = some p.text
  no_note : (∀ p ∈ paragraphs ls, p.command ≠ "note") → m.note = none

theorem readsInAnyOrder_of_readMetadata {source : Source} {ls : List Line} {m : Metadata}
    (hls : ∀ l ∈ ls, l.isBlank = false) (h : readMetadata source ls = .ok m) :
    ReadsInAnyOrder source ls m := by
  obtain ⟨ess, hess, hnodup, hbuild⟩ := (readMetadata_eq_ok_iff hls).1 h
  have hmakes := Builder.makes_of_build hbuild
  -- the entry of a paragraph is the one that is found for its field
  have hset : ∀ es ∈ ess, ∀ e ∈ es, m.Says e := fun es hes e he =>
    hmakes.of_set e.field e ((Builder.entry?_eq_some_iff hnodup).2
      ⟨List.mem_flatten.2 ⟨es, hes, he⟩, rfl⟩)
  have hunset : ∀ f, (∀ p ∈ paragraphs ls, p.command ≠ f.command.label) → m.LeavesOut f :=
    fun f hf => hmakes.of_unset f
      (Builder.entry?_append_eq_none_iff.2 ⟨rfl, field_ne_of_command_ne hess hf⟩)
  have hwhole := isWhole_of_mem_paragraphs hess
  exact {
    flatten := flatMap_lines_paragraphs ls
    permuted := fun ps hps ls' htexts => readMetadata_of_texts htexts (readMetadata_of_perm hls h hps)
    nodup := nodup_commands hess hnodup
    description := fun p hp hc => by
      obtain ⟨es, hes, hmeans⟩ := exists_means hess hp (c := .desc) hc
      cases hmeans
      rw [(hwhole p hp).text_eq]
      exact hset _ hes _ (List.mem_singleton_self _)
    no_description := hunset .description
    note := fun p hp hc => by
      obtain ⟨es, hes, hmeans⟩ := exists_means hess hp (c := .note) hc
      cases hmeans
      rw [(hwhole p hp).text_eq]
      exact hset _ hes _ (List.mem_singleton_self _)
    no_note := hunset .note }

/-- The description begins with a blank piece. -/
def thickSoupText : String := "desc\n  Thick,\n   and hot. \nserves 2 bowls\nname Soup\n"

theorem readsInAnyOrder_thickSoup : ∃ m,
    readMetadata ⟨"soup", "en", "soup.en.recipe"⟩ (headerLines thickSoupText) = .ok m ∧
      m.description = some "Thick, and hot." ∧ m.note = none ∧
      readMetadata ⟨"soup", "en", "soup.en.recipe"⟩
        (headerLines "name Soup\ndesc\n  Thick,\n   and hot. \nserves 2 bowls\n") = .ok m := by
  have hread : (readMetadata ⟨"soup", "en", "soup.en.recipe"⟩
      (headerLines thickSoupText)).toOption.isSome := by decide +kernel
  obtain ⟨m, hm⟩ := Option.isSome_iff_exists.1 hread
  have hm := toOption_eq_some.1 hm
  have hls : ∀ l ∈ headerLines thickSoupText, l.isBlank = false := fun l hl => isBlank_of_mem_headerOf hl
  have h := readsInAnyOrder_of_readMetadata hls hm
  refine ⟨m, hm, ?_, h.no_note ?_, h.permuted
    [⟨⟨4, "name Soup".toList⟩, []⟩,
      ⟨⟨0, "desc".toList⟩, [⟨1, "  Thick,".toList⟩, ⟨2, "   and hot. ".toList⟩]⟩,
      ⟨⟨3, "serves 2 bowls".toList⟩, []⟩] ?_ _ ?_⟩
  · rw [h.description ⟨⟨0, "desc".toList⟩, [⟨1, "  Thick,".toList⟩, ⟨2, "   and hot. ".toList⟩]⟩]
    · decide +kernel
    · decide +kernel
    · decide +kernel
  · decide +kernel
  · decide +kernel
  · decide +kernel

end Document
end RecipeBook
