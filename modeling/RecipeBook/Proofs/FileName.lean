import RecipeBook.FileName
import RecipeBook.Proofs.Text.Pieces
import RecipeBook.Proofs.Text.Utf8
import RecipeBook.Proofs.Url.Percent

/-!
# File names and their parts

Taking a name apart undoes writing its parts with points between them (`FileName.Spells`): what is
between the last two points is the language, what is behind them is the extension, and all else is
the name, whatever points it has. Whether the other parts are there or not, a point leaves an
extension behind it (`FileName.split?_of_point`). The format of a file is told from what is behind the
last point as well, so that every file with a format has the extension that its format was told from
(`FileName.TakenApart`).

On a disk a name is octets, which need not be text. It is taken apart as it is shown, and it is shown
with the extension that it has (`FileName.extension?_shown`).
-/

namespace RecipeBook.FileName

/-- The name `s` is made of the parts and points between them. -/
structure Spells (name : FileName) (s : String) : Prop where
  eq : s = name.rawId ++ "." ++ name.lang ++ "." ++ name.extension
  rawId_ne : name.rawId ≠ ""
  lang_ne : name.lang ≠ ""
  /-- Only the first part may have points. -/
  point_not_mem_lang : '.' ∉ name.lang.toList
  point_not_mem_extension : '.' ∉ name.extension.toList

/-- How the name `s` is taken apart, and how that agrees with its format. -/
structure TakenApart (s : String) : Prop where
  ok_iff : ∀ name, split? s = some (.ok name) ↔ name.Spells s
  none_iff : split? s = none ↔ '.' ∉ s.toList
  error_iff : (∃ e, split? s = some (.error e)) ↔ '.' ∈ s.toList ∧ ∀ name : FileName, ¬ name.Spells s
  /-- The error tells the name and what is behind its last point. -/
  eq_of_error : ∀ e, split? s = some (.error e) → ∃ stem extension,
    s = stem ++ "." ++ extension ∧ '.' ∉ extension.toList ∧ e = .of (.noLanguageTag s extension)
  /-- The extension is the one that the format is told from, and so it is there. -/
  of_format? : ∀ format, format? s = some format → ∃ extension,
    extension? s = some extension ∧ DocumentFormat.ofExtension? extension = some format ∧
      ((∃ rawId lang, split? s = some (.ok ⟨rawId, lang, extension⟩)) ∨
        split? s = some (fail (.noLanguageTag s extension)))

variable {s stem extension : String} {name : FileName} {format : DocumentFormat} {e : LoadError}

/-! ### The last point -/

theorem eq_append_point_iff :
    s = stem ++ "." ++ extension ↔ s.toList = stem.toList ++ '.' :: extension.toList := by
  rw [← String.toList_inj]
  simp

theorem splitAtLast_point_iff : Text.splitAtLast '.' s.toList = some (stem.toList, extension.toList) ↔
    s = stem ++ "." ++ extension ∧ '.' ∉ extension.toList := by
  rw [Text.splitAtLast_eq_some_iff, eq_append_point_iff]

theorem splitAtLast_point (h : '.' ∉ extension.toList) :
    Text.splitAtLast '.' (stem ++ "." ++ extension).toList = some (stem.toList, extension.toList) :=
  splitAtLast_point_iff.2 ⟨rfl, h⟩

theorem point_mem_iff : '.' ∈ s.toList ↔
    ∃ stem extension, s = stem ++ "." ++ extension ∧ '.' ∉ extension.toList := by
  constructor
  · intro h
    have hsome : Text.splitAtLast '.' s.toList ≠ none := fun hnone =>
      Text.splitAtLast_eq_none_iff.1 hnone h
    obtain ⟨⟨stem, extension⟩, hsplit⟩ := Option.ne_none_iff_exists'.1 hsome
    refine ⟨.ofList stem, .ofList extension, splitAtLast_point_iff.1 ?_⟩
    rw [hsplit, String.toList_ofList, String.toList_ofList]
  · rintro ⟨stem, extension, hs, -⟩
    rw [eq_append_point_iff.1 hs]
    exact List.mem_append_right _ List.mem_cons_self

/-- The extension of a file is behind the last point of its name, which is not the first character. -/
theorem extension?_eq_some_iff : extension? s = some extension ↔
    ∃ stem, stem ≠ "" ∧ s = stem ++ "." ++ extension ∧ '.' ∉ extension.toList := by
  rw [extension?]
  constructor
  · intro h
    split at h
    · next c stem after hsplit =>
      obtain rfl := Option.some.inj h
      refine ⟨.ofList (c :: stem), by simp, splitAtLast_point_iff.1 ?_⟩
      rw [hsplit, String.toList_ofList, String.toList_ofList]
    · cases h
  · rintro ⟨stem, hstem, rfl, hpoint⟩
    obtain ⟨c, rest, hcons⟩ := List.exists_cons_of_ne_nil (mt String.toList_eq_nil_iff.1 hstem)
    rw [splitAtLast_point hpoint, hcons]
    simp only [String.ofList_toList]

/-! ### The parts -/

/-- What is behind the last point is the extension of a recipe file, or the error tells it. -/
theorem split?_of_point (hs : s = stem ++ "." ++ extension) (hpoint : '.' ∉ extension.toList) :
    (∃ rawId lang, split? s = some (.ok ⟨rawId, lang, extension⟩)) ∨
      split? s = some (fail (.noLanguageTag s extension)) := by
  rw [split?, splitAtLast_point_iff.2 ⟨hs, hpoint⟩]
  simp only [String.ofList_toList]
  split
  · next rawId lang _ =>
    split
    · exact .inr rfl
    · exact .inl ⟨_, _, rfl⟩
  · exact .inr rfl

theorem split?_eq_none_iff : split? s = none ↔ '.' ∉ s.toList := by
  constructor
  · intro h hmem
    obtain ⟨stem, extension, hs, hpoint⟩ := point_mem_iff.1 hmem
    rcases split?_of_point hs hpoint with ⟨rawId, lang, hok⟩ | herror
    · exact Option.some_ne_none _ (hok.symm.trans h)
    · exact Option.some_ne_none _ (herror.symm.trans h)
  · intro h
    rw [split?, Text.splitAtLast_eq_none_iff.2 h]

theorem split?_eq_ok_iff : split? s = some (.ok name) ↔ name.Spells s := by
  constructor
  · intro h
    rw [split?] at h
    split at h
    · cases h
    · next stem extension hstem =>
      split at h
      · next rawId lang hparts =>
        split at h
        · cases h
        · next hne =>
          obtain rfl := Except.ok.inj (Option.some.inj h)
          obtain ⟨hs, hextension⟩ := Text.splitAtLast_eq_some_iff.1 hstem
          obtain ⟨rfl, hlang⟩ := Text.splitAtLast_eq_some_iff.1 hparts
          rw [not_or] at hne
          refine ⟨eq_append_point_iff.2 (by simpa using hs), ?_, ?_, ?_, ?_⟩
          · simpa using hne.1
          · simpa using hne.2
          · simpa using hlang
          · simpa using hextension
      · cases h
  · intro h
    have hne : ¬ (name.rawId.toList = [] ∨ name.lang.toList = []) := by
      simpa using ⟨h.rawId_ne, h.lang_ne⟩
    rw [split?, h.eq, splitAtLast_point h.point_not_mem_extension]
    simp only [splitAtLast_point h.point_not_mem_lang, if_neg hne, String.ofList_toList]

theorem Spells.mem_of_mem_rawId (h : name.Spells s) {c : Char} (hc : c ∈ name.rawId.toList) :
    c ∈ s.toList := by
  rw [h.eq]
  simp [hc]

/-- Every name with a point is an error if it has not the parts of a recipe file. -/
theorem exists_split?_eq_error_iff : (∃ e, split? s = some (.error e)) ↔
    '.' ∈ s.toList ∧ ∀ name : FileName, ¬ name.Spells s := by
  constructor
  · rintro ⟨e, h⟩
    have hmem : '.' ∈ s.toList := Decidable.byContradiction fun hnot =>
      Option.some_ne_none _ (h.symm.trans (split?_eq_none_iff.2 hnot))
    refine ⟨hmem, fun name hspells => ?_⟩
    rw [split?_eq_ok_iff.2 hspells] at h
    cases h
  · rintro ⟨hmem, hnot⟩
    obtain ⟨stem, extension, hs, hpoint⟩ := point_mem_iff.1 hmem
    rcases split?_of_point hs hpoint with ⟨rawId, lang, hok⟩ | herror
    · exact absurd (split?_eq_ok_iff.1 hok) (hnot _)
    · exact ⟨_, herror⟩

/-- The error tells the name and what is behind its last point. -/
theorem exists_extension_of_split?_eq_error (h : split? s = some (.error e)) :
    ∃ stem extension, s = stem ++ "." ++ extension ∧ '.' ∉ extension.toList ∧
      e = .of (.noLanguageTag s extension) := by
  obtain ⟨stem, extension, hs, hpoint⟩ := point_mem_iff.1 (exists_split?_eq_error_iff.1 ⟨e, h⟩).1
  refine ⟨stem, extension, hs, hpoint, ?_⟩
  rcases split?_of_point hs hpoint with ⟨rawId, lang, hok⟩ | herror
  · cases hok.symm.trans h
  · exact Except.error.inj (Option.some.inj (h.symm.trans herror))

/-! ### The format -/

theorem format?_isSome :
    (format? s).isSome ↔ extension? s ∈ [some "recipe", some "yml", some "yaml"] := by
  rw [format?]
  cases extension? s with
  | none => simp
  | some extension =>
    simp only [Option.bind_some, DocumentFormat.ofExtension?]
    split
    · next h => simp [h]
    · split
      · next h => simp [h]
      · next h => simp_all

/-- A file with a format has the extension that its format was told from, whether or not its name has
the parts of a recipe file. -/
theorem exists_extension_of_format? (h : format? s = some format) : ∃ extension,
    extension? s = some extension ∧ DocumentFormat.ofExtension? extension = some format ∧
      ((∃ rawId lang, split? s = some (.ok ⟨rawId, lang, extension⟩)) ∨
        split? s = some (fail (.noLanguageTag s extension))) := by
  obtain ⟨extension, hextension, hformat⟩ := Option.bind_eq_some_iff.1 h
  obtain ⟨stem, -, hs, hpoint⟩ := extension?_eq_some_iff.1 hextension
  exact ⟨extension, hextension, hformat, split?_of_point hs hpoint⟩

theorem takenApart (s : String) : TakenApart s where
  ok_iff _ := split?_eq_ok_iff
  none_iff := split?_eq_none_iff
  error_iff := exists_split?_eq_error_iff
  eq_of_error _ := exists_extension_of_split?_eq_error
  of_format? _ := exists_extension_of_format?

/-! ### Names of octets -/

/-- The text that a name of octets is shown as. The name itself need not be text. -/
def shown (octets : List UInt8) : String := .ofList (Text.Utf8.lossy octets)

theorem shown_toUTF8 (s : String) : shown s.toUTF8.toList = s := by
  rw [shown, Url.Percent.toList_toUTF8, Text.Utf8.lossy_utf8, String.ofList_toList]

theorem shown_append_point (before after : List UInt8) :
    shown (before ++ 0x2e :: after) = shown before ++ "." ++ shown after := by
  rw [eq_append_point_iff, shown, Text.Utf8.lossy_append_cons (by decide)]
  simp only [shown, String.toList_ofList]
  rfl

theorem shown_ne_empty {octets : List UInt8} (h : octets ≠ []) : shown octets ≠ "" := by
  obtain ⟨b, rest, rfl⟩ := List.exists_cons_of_ne_nil h
  rw [shown, Text.Utf8.lossy]
  simp

/-- A name is shown with the extension that it has, whatever octets are before it. -/
theorem extension?_shown {before : List UInt8} (hbefore : before ≠ [])
    (hpoint : '.' ∉ extension.toList) :
    extension? (shown (before ++ 0x2e :: extension.toUTF8.toList)) = some extension := by
  rw [shown_append_point, shown_toUTF8, extension?_eq_some_iff]
  exact ⟨_, shown_ne_empty hbefore, rfl, hpoint⟩

end RecipeBook.FileName
