import Mathlib.Data.List.Nodup
import RecipeBook.Metadata.Builder

/-!
# What a builder takes

Entries can be added one after another if they are for different fields and none of these is set
(`Builder.Takes`), and then they stand behind those of before (`addAll_eq_ok_iff`). A header is a
function of the entries that are found in the builder, in whatever order they have come
(`build_congr`): it says what these say and has defaults for the rest (`Builder.Makes`).
-/

namespace RecipeBook

/-- `value?` takes the value out of the entries for the field. -/
inductive Entry.Reads : {α : Type} → (Entry → Option α) → Field → Prop
  | name : Reads name? .name
  | serves : Reads serves? .serves
  | servingsUnit : Reads servingsUnit? .servingsUnit
  | servingsIncrement : Reads servingsIncrement? .servingsIncrement
  | description : Reads description? .description
  | note : Reads note? .note
  | tags : Reads tags? .tags
  | related : Reads related? .related
  | attribution : Reads attribution? .attribution
  | hideFromAll : Reads hideFromAll? .hideFromAll
  | schemaVersion : Reads schemaVersion? .schemaVersion

theorem Entry.Reads.isSome_iff {α : Type} {value? : Entry → Option α} {f : Field} (h : Reads value? f)
    (e : Entry) : (value? e).isSome ↔ e.field = f := by
  cases h <;> cases e <;> simp [field, name?, serves?, servingsUnit?, servingsIncrement?, description?,
    note?, tags?, related?, attribution?, hideFromAll?, schemaVersion?]

namespace Metadata

/-- The header has the value that the entry gives. -/
def Says (m : Metadata) : Entry → Prop
  | .name text => m.name = text
  | .serves count => m.serves = count
  | .servingsUnit text => m.servingsUnit = some text
  | .servingsIncrement size => m.servingsIncrement = size
  | .description text => m.description = some text
  | .note text => m.note = some text
  | .tags list => m.tags = list
  | .related list => m.related = list
  | .attribution text => m.attribution = some text
  | .hideFromAll hidden => m.hideFromAll = hidden
  | .schemaVersion version => m.schemaVersion = version

/-- The header has the default for the field, which is one that has a default. -/
def LeavesOut (m : Metadata) : Field → Prop
  | .name => False
  | .serves => False
  | .servingsUnit => m.servingsUnit = none
  | .servingsIncrement => m.servingsIncrement = 1.0
  | .description => m.description = none
  | .note => m.note = none
  | .tags => m.tags = []
  | .related => m.related = []
  | .attribution => m.attribution = none
  | .hideFromAll => m.hideFromAll = false
  | .schemaVersion => m.schemaVersion = 2

end Metadata

namespace Builder

/-- The builder with more entries behind its own. -/
def append (b : Builder) (es : List Entry) : Builder := { b with entries := b.entries ++ es }

/-- The entries are for different fields, and none of these is set. -/
structure Takes (b : Builder) (es : List Entry) : Prop where
  nodup : (es.map Entry.field).Nodup
  unset : ∀ e ∈ es, b.entry? e.field = none

/-- The header says what the builder holds, and nothing else. -/
structure Makes (b : Builder) (m : Metadata) : Prop where
  id_eq : m.id = b.id
  lang_eq : m.lang = b.lang
  fileName_eq : m.fileName = b.fileName
  of_set : ∀ f e, b.entry? f = some e → m.Says e
  of_unset : ∀ f, b.entry? f = none → m.LeavesOut f

variable {b b' : Builder} {e old : Entry} {es es' : List Entry} {f : Field}

/-! ### Entries that are found -/

@[simp] theorem append_nil (b : Builder) : b.append [] = b := by
  rw [append, List.append_nil]

@[simp] theorem append_append (b : Builder) (es es' : List Entry) :
    (b.append es).append es' = b.append (es ++ es') := by
  simp only [append, List.append_assoc]

theorem field_of_entry?_eq_some (h : b.entry? f = some e) : e.field = f := by
  unfold entry? at h
  simpa using List.find?_some h

theorem entry?_append_of_eq_some (h : b.entry? f = some e) (es : List Entry) :
    entry? (b.append es) f = some e := by
  unfold entry? at h
  unfold entry? append
  rw [List.find?_append, h, Option.some_or]

theorem entry?_append_eq_none_iff :
    entry? (b.append es) f = none ↔ b.entry? f = none ∧ ∀ e ∈ es, e.field ≠ f := by
  unfold entry? append
  simp

/-! ### Adding entries -/

theorem add_of_eq_none (h : b.entry? e.field = none) : b.add e = .ok (b.append [e]) := by
  rw [add, h]
  rfl

theorem add_of_eq_some (h : b.entry? e.field = some old) :
    b.add e = fail (.alreadySet e.field old.shown e.shown) := by
  rw [add, h]

theorem addAll_cons_of_eq_none (h : b.entry? e.field = none) (es : List Entry) :
    b.addAll (e :: es) = (b.append [e]).addAll es := by
  rw [addAll, add_of_eq_none h]

theorem addAll_cons_of_eq_some (h : b.entry? e.field = some old) (es : List Entry) :
    b.addAll (e :: es) = (b, some (.of (.alreadySet e.field old.shown e.shown))) := by
  rw [addAll, add_of_eq_some h]
  rfl

theorem takes_nil (b : Builder) : b.Takes [] := ⟨List.nodup_nil, nofun⟩

theorem takes_append_iff : b.Takes (es ++ es') ↔ b.Takes es ∧ (b.append es).Takes es' := by
  constructor
  · rintro ⟨hnodup, hunset⟩
    rw [List.map_append, List.nodup_append] at hnodup
    obtain ⟨hes, hes', hne⟩ := hnodup
    refine ⟨⟨hes, fun e he => hunset e (List.mem_append_left es' he)⟩, hes', fun e he => ?_⟩
    refine entry?_append_eq_none_iff.2 ⟨hunset e (List.mem_append_right es he), fun d hd => ?_⟩
    exact hne _ (List.mem_map_of_mem hd) _ (List.mem_map_of_mem he)
  · rintro ⟨⟨hes, hunset⟩, hes', hunset'⟩
    refine ⟨?_, fun e he => ?_⟩
    · rw [List.map_append, List.nodup_append]
      refine ⟨hes, hes', fun g hg g' hg' => ?_⟩
      obtain ⟨d, hd, rfl⟩ := List.mem_map.1 hg
      obtain ⟨e, he, rfl⟩ := List.mem_map.1 hg'
      exact (entry?_append_eq_none_iff.1 (hunset' e he)).2 d hd
    · rcases List.mem_append.1 he with he | he
      · exact hunset e he
      · exact (entry?_append_eq_none_iff.1 (hunset' e he)).1

theorem takes_singleton_iff : b.Takes [e] ↔ b.entry? e.field = none :=
  ⟨fun h => h.unset e (List.mem_singleton_self e), fun h => ⟨List.nodup_singleton _, by simpa using h⟩⟩

theorem takes_cons_iff : b.Takes (e :: es) ↔ b.entry? e.field = none ∧ (b.append [e]).Takes es := by
  rw [← takes_singleton_iff, ← takes_append_iff, List.singleton_append]

/-- All entries are added exactly if the builder takes them. -/
theorem addAll_eq_ok_iff : b.addAll es = (b', none) ↔ b.Takes es ∧ b' = b.append es := by
  induction es generalizing b with
  | nil => simp [addAll, takes_nil, eq_comm]
  | cons e es ih =>
    rw [takes_cons_iff]
    cases hentry : b.entry? e.field with
    | none => rw [addAll_cons_of_eq_none hentry, ih, append_append, List.singleton_append]; simp
    | some old => rw [addAll_cons_of_eq_some hentry]; simp

/-- After entries that the builder takes, adding goes on as for the builder that has them. -/
theorem addAll_append_of_takes (h : b.Takes es) (es' : List Entry) :
    b.addAll (es ++ es') = (b.append es).addAll es' := by
  induction es generalizing b with
  | nil => rw [List.nil_append, append_nil]
  | cons e es ih =>
    obtain ⟨he, hes⟩ := takes_cons_iff.1 h
    rw [List.cons_append, addAll_cons_of_eq_none he, ih hes, append_append, List.singleton_append]

/-- Some of the entries are added, those from the front, whether there is a fault or not. -/
theorem exists_addAll_eq_append (b : Builder) (es : List Entry) :
    ∃ taken, taken <+: es ∧ b.Takes taken ∧ (b.addAll es).1 = b.append taken := by
  induction es generalizing b with
  | nil => exact ⟨[], List.nil_prefix, takes_nil b, (append_nil b).symm⟩
  | cons e es ih =>
    cases hentry : b.entry? e.field with
    | none =>
      obtain ⟨taken, hprefix, htakes, htaken⟩ := ih (b.append [e])
      rw [addAll_cons_of_eq_none hentry, htaken, append_append, List.singleton_append]
      exact ⟨e :: taken, List.cons_prefix_cons.2 ⟨rfl, hprefix⟩, takes_cons_iff.2 ⟨hentry, htakes⟩, rfl⟩
    | some old =>
      rw [addAll_cons_of_eq_some hentry]
      exact ⟨[], List.nil_prefix, takes_nil b, (append_nil b).symm⟩

/-- An empty builder takes what has no two entries for one field. -/
theorem takes_start_iff (id lang fileName : String) :
    (start id lang fileName).Takes es ↔ (es.map Entry.field).Nodup :=
  ⟨Takes.nodup, fun h => ⟨h, fun _ _ => rfl⟩⟩

theorem add_eq_ok_iff : b.add e = .ok b' ↔ b.Takes [e] ∧ b' = b.append [e] := by
  rw [takes_singleton_iff]
  cases hentry : b.entry? e.field with
  | none => rw [add_of_eq_none hentry]; simp [eq_comm]
  | some old => rw [add_of_eq_some hentry]; simp [fail]

/-- What has no two entries for one field is searched in any order. -/
theorem entry?_eq_some_iff (h : (b.entries.map Entry.field).Nodup) :
    b.entry? f = some e ↔ e ∈ b.entries ∧ e.field = f := by
  constructor
  · exact fun he => ⟨List.mem_of_find?_eq_some he, field_of_entry?_eq_some he⟩
  · rintro ⟨hmem, rfl⟩
    cases hentry : b.entry? e.field with
    | none => simpa using List.find?_eq_none.1 hentry e hmem
    | some d =>
      have hd : d ∈ b.entries := List.mem_of_find?_eq_some hentry
      rw [List.inj_on_of_nodup_map h hd hmem (field_of_entry?_eq_some hentry)]

/-! ### Building -/

/-- A value is read from the one entry for its field. -/
theorem get?_eq_bind {α : Type} {value? : Entry → Option α} (h : Entry.Reads value? f) (b : Builder) :
    b.get? value? = b.entry? f >>= value? := by
  show b.entries.findSome? value? = (b.entries.find? fun e => e.field = f).bind value?
  induction b.entries with
  | nil => rfl
  | cons e es ih =>
    by_cases he : e.field = f
    · obtain ⟨v, hv⟩ := Option.isSome_iff_exists.1 ((h.isSome_iff e).2 he)
      simp [he, hv]
    · have hv : value? e = none := by
        simpa using mt (h.isSome_iff e).1 he
      simp [he, hv, ih]

/-- The header depends on nothing but the entries that are found. -/
theorem build_congr (hid : b.id = b'.id) (hlang : b.lang = b'.lang) (hfileName : b.fileName = b'.fileName)
    (hentry : ∀ f, b.entry? f = b'.entry? f) : b.build = b'.build := by
  simp only [build, get?_eq_bind .name, get?_eq_bind .serves, get?_eq_bind .servingsUnit,
    get?_eq_bind .servingsIncrement, get?_eq_bind .description, get?_eq_bind .note,
    get?_eq_bind .tags, get?_eq_bind .related, get?_eq_bind .attribution, get?_eq_bind .hideFromAll,
    get?_eq_bind .schemaVersion, hid, hlang, hfileName, hentry]

/-- It makes no difference in which order the entries have come. -/
theorem build_append_of_perm (h : es.Perm es') (hes : (es.map Entry.field).Nodup)
    (id lang fileName : String) :
    ((start id lang fileName).append es).build = ((start id lang fileName).append es').build := by
  have hes' : (es'.map Entry.field).Nodup := (h.map Entry.field).nodup_iff.1 hes
  refine build_congr rfl rfl rfl fun f => Option.ext fun e => ?_
  rw [entry?_eq_some_iff hes, entry?_eq_some_iff hes']
  exact and_congr_left fun _ => h.mem_iff

theorem makes_of_build {m : Metadata} (h : b.build = .ok m) : b.Makes m := by
  simp only [build, get?_eq_bind .name, get?_eq_bind .serves, get?_eq_bind .servingsUnit,
    get?_eq_bind .servingsIncrement, get?_eq_bind .description, get?_eq_bind .note,
    get?_eq_bind .tags, get?_eq_bind .related, get?_eq_bind .attribution, get?_eq_bind .hideFromAll,
    get?_eq_bind .schemaVersion] at h
  split at h
  · cases h
  · cases h
  · next name serves hname hserves =>
    split at h
    · cases h
    · next hversion =>
      obtain rfl := Except.ok.inj h
      refine ⟨rfl, rfl, rfl, fun f e he => ?_, fun f hf => ?_⟩
      · obtain rfl := field_of_entry?_eq_some he
        cases e with
        | name text =>
          rw [Entry.field] at he
          rw [he] at hname
          exact (Option.some.inj hname).symm
        | serves count =>
          rw [Entry.field] at he
          rw [he] at hserves
          exact (Option.some.inj hserves).symm
        | _ =>
          rw [Entry.field] at he
          simp only [Metadata.Says, he]
          rfl
      · cases f with
        | name => rw [hf] at hname; cases hname
        | serves => rw [hf] at hserves; cases hserves
        | _ =>
          simp only [Metadata.LeavesOut, hf]
          rfl

theorem schemaVersion_of_build {m : Metadata} (h : b.build = .ok m) : m.schemaVersion = 2 := by
  rw [build] at h
  split at h
  · cases h
  · cases h
  · simp only at h
    split at h
    · cases h
    · next hversion =>
      obtain rfl := Except.ok.inj h
      exact not_not.1 hversion

theorem get?_eq_none_iff {α : Type} {value? : Entry → Option α} (h : Entry.Reads value? f) :
    b.get? value? = none ↔ b.entry? f = none := by
  rw [get?_eq_bind h]
  cases hentry : b.entry? f with
  | none => exact iff_of_true rfl rfl
  | some e =>
    have hsome := (h.isSome_iff e).2 (field_of_entry?_eq_some hentry)
    exact iff_of_false (Option.isSome_iff_ne_none.1 hsome) nofun

theorem exists_build_iff : (∃ m, b.build = .ok m) ↔ (∃ e, b.entry? .name = some e) ∧
    (∃ e, b.entry? .serves = some e) ∧ ∀ e, b.entry? .schemaVersion = some e → e = .schemaVersion 2 := by
  constructor
  · rintro ⟨m, h⟩
    have hm := makes_of_build h
    refine ⟨Option.ne_none_iff_exists'.1 fun hnone => hm.of_unset _ hnone,
      Option.ne_none_iff_exists'.1 fun hnone => hm.of_unset _ hnone, fun e he => ?_⟩
    have hsays := hm.of_set _ e he
    cases e with
    | schemaVersion version =>
      obtain rfl : version = 2 := hsays.symm.trans (schemaVersion_of_build h)
      rfl
    | _ => cases field_of_entry?_eq_some he
  · rintro ⟨hname, hserves, hversion⟩
    rw [← Option.ne_none_iff_exists', Ne, ← get?_eq_none_iff .name, ← Ne,
      Option.ne_none_iff_exists'] at hname
    rw [← Option.ne_none_iff_exists', Ne, ← get?_eq_none_iff .serves, ← Ne,
      Option.ne_none_iff_exists'] at hserves
    obtain ⟨name, hname⟩ := hname
    obtain ⟨serves, hserves⟩ := hserves
    have hversion : (b.get? Entry.schemaVersion?).getD schemaVersion = schemaVersion := by
      rw [get?_eq_bind .schemaVersion]
      cases hentry : b.entry? .schemaVersion with
      | none => rfl
      | some e => rw [hversion e hentry]; rfl
    simp [build, hname, hserves, hversion]

end Builder
end RecipeBook
