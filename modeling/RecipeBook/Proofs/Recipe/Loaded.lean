import RecipeBook.Legacy.Read
import RecipeBook.Library.Load
import RecipeBook.Proofs.Metadata.Builder
import RecipeBook.Proofs.StepGraph.Acceptance
import RecipeBook.Proofs.Text.Names

/-!
# Recipes that come from a document

`Recipe.IsLoaded` says that a recipe was made of a document of either generation. Every entry that a
header of either gets is sound (`Entry.Sound`): it serves somebody, its tags are in lower case, and its
related recipes are told by their identifiers. What adding such an entry keeps is kept by reading a
whole header (`Document.kept_of_readHeader`), so that the header of a loaded recipe is sound too
(`Recipe.IsLoaded.sound`).
-/

namespace RecipeBook

theorem lowered_of_mem_splitList {s entry : String} (h : entry ∈ splitList s) :
    lowered entry = entry := by
  obtain ⟨text, -, rfl⟩ := List.mem_map.1 (List.mem_filter.1 h).1
  exact lowered_nameKey _

theorem OneOrMany.lowered_of_mem_toTags {tags : OneOrMany} {tag : String} (h : tag ∈ tags.toTags) :
    lowered tag = tag := by
  cases tags with
  | one text => exact lowered_of_mem_splitList h
  | many items =>
    obtain ⟨item, -, rfl⟩ := List.mem_map.1 (List.mem_filter.1 h).1
    simp only [OneOrMany.tagOf, lowered, String.toList_ofList, Text.lower_lower]

/-- What holds of every entry that a document of either generation gives a header. -/
def Entry.Sound : Entry → Prop
  | .serves count => 0 < count
  | .tags list => ∀ tag ∈ list, lowered tag = tag
  | .related list => ∀ id ∈ list, normalizeId id = id
  | _ => True

/-- What holds of every entry that a line of a header gives: its tags and related recipes are those of
a list with commas. -/
def Entry.Written : Entry → Prop
  | .serves count => 0 < count
  | .tags list => ∃ value, splitList value = list
  | .related list => ∃ value, (splitList value).map normalizeId = list
  | _ => True

theorem normalizeId_of_mem_map {names : List String} {id : String} (h : id ∈ names.map normalizeId) :
    normalizeId id = id := by
  obtain ⟨name, -, rfl⟩ := List.mem_map.1 h
  exact normalizeId_normalizeId name

theorem Entry.Written.sound {e : Entry} (h : e.Written) : e.Sound := by
  cases e with
  | serves count => exact h
  | tags list =>
    obtain ⟨value, rfl⟩ := h
    exact fun _ => lowered_of_mem_splitList
  | related list =>
    obtain ⟨value, rfl⟩ := h
    exact fun _ => normalizeId_of_mem_map
  | _ => trivial

structure Metadata.Sound (m : Metadata) : Prop where
  serves_pos : 0 < m.serves
  lowered_of_mem_tags : ∀ tag ∈ m.tags, lowered tag = tag
  normalizeId_of_mem_related : ∀ id ∈ m.related, normalizeId id = id

namespace Builder

/-- Every entry so far satisfies `P`. -/
def Each (P : Entry → Prop) (b : Builder) : Prop := ∀ e ∈ b.entries, P e

/-- Adding an entry that satisfies `P` keeps `Q`. -/
def Keeps (P : Entry → Prop) (Q : Builder → Prop) : Prop :=
  ∀ b e b', Q b → b.add e = .ok b' → P e → Q b'

variable {P : Entry → Prop} {Q : Builder → Prop} {b b' : Builder} {e : Entry} {es : List Entry}

theorem add_eq_ok (h : b.add e = .ok b') : b' = { b with entries := b.entries ++ [e] } :=
  (add_eq_ok_iff.1 h).2

theorem keeps_each (P : Entry → Prop) : Keeps P (Each P) := by
  intro b e b' hb h he
  obtain rfl := add_eq_ok h
  intro e' he'
  rcases List.mem_append.1 he' with he' | he'
  · exact hb e' he'
  · rw [List.mem_singleton.1 he']
    exact he

theorem keeps_id (P : Entry → Prop) (id : String) : Keeps P fun b => b.id = id := by
  intro b e b' hb h _
  obtain rfl := add_eq_ok h
  exact hb

theorem Each.mono {P' : Entry → Prop} (hb : b.Each P) (hP : ∀ e, P e → P' e) : b.Each P' :=
  fun e he => hP e (hb e he)

theorem Each.start (id lang fileName : String) : (start id lang fileName).Each P :=
  fun _ he => absurd he List.not_mem_nil

theorem Keeps.addAll (hQ : Keeps P Q) (hes : ∀ e ∈ es, P e) (hb : Q b) : Q (b.addAll es).1 := by
  induction es generalizing b with
  | nil => exact hb
  | cons e es ih =>
    rw [Builder.addAll]
    split
    · next hadd =>
      exact ih (fun e' he' => hes e' (List.mem_cons_of_mem e he'))
        (hQ b e _ hb hadd (hes e List.mem_cons_self))
    · exact hb

theorem written_ofWords (parts : List String) : ∀ e ∈ (ServesLine.ofWords parts).entries, e.Written := by
  unfold ServesLine.ofWords
  split
  · simp
  · split
    · simp
    · simp
    · next n hn _ =>
      have hpos : 0 < n := Nat.pos_of_ne_zero fun h => hn h
      split
      · simpa [Entry.Written] using hpos
      · simpa [Entry.Written] using hpos
      · split <;> simpa [Entry.Written] using hpos

theorem written_read (value : String) : ∀ e ∈ (ServesLine.read value).entries, e.Written := by
  rw [ServesLine.read]
  split
  · exact written_ofWords _
  · simp

theorem Keeps.addServesLine (hQ : Keeps Entry.Written Q) (hb : Q b) (value : String) :
    Q (b.addServesLine value).1 := by
  have hadd : Q (b.addAll (ServesLine.read value).entries).1 := hQ.addAll (written_read value) hb
  rw [Builder.addServesLine]
  split
  · next h => rwa [h] at hadd
  · next h => rwa [h] at hadd

theorem serves_mem_of_get? {n : Nat} (h : b.get? Entry.serves? = some n) : .serves n ∈ b.entries := by
  obtain ⟨e, he, hvalue⟩ := List.exists_of_findSome?_eq_some h
  cases e with
  | serves count =>
    obtain rfl := Option.some.inj hvalue
    exact he
  | _ => cases hvalue

theorem tags_mem_of_get? {tags : List String} (h : b.get? Entry.tags? = some tags) :
    .tags tags ∈ b.entries := by
  obtain ⟨e, he, hvalue⟩ := List.exists_of_findSome?_eq_some h
  cases e with
  | tags list =>
    obtain rfl := Option.some.inj hvalue
    exact he
  | _ => cases hvalue

theorem related_mem_of_get? {ids : List String} (h : b.get? Entry.related? = some ids) :
    .related ids ∈ b.entries := by
  obtain ⟨e, he, hvalue⟩ := List.exists_of_findSome?_eq_some h
  cases e with
  | related list =>
    obtain rfl := Option.some.inj hvalue
    exact he
  | _ => cases hvalue

/-- What the header takes over from the builder. -/
theorem build_eq_ok {m : Metadata} (h : b.build = .ok m) : m.id = b.id ∧
    b.get? Entry.serves? = some m.serves ∧ m.tags = (b.get? Entry.tags?).getD [] ∧
    m.related = (b.get? Entry.related?).getD [] := by
  rw [build] at h
  split at h
  · cases h
  · cases h
  · next name serves _ hserves =>
    simp only at h
    split at h
    · cases h
    · obtain rfl := Except.ok.inj h
      exact ⟨rfl, hserves, rfl, rfl⟩

theorem Each.build {m : Metadata} (hb : b.Each Entry.Sound) (h : b.build = .ok m) : m.Sound := by
  obtain ⟨-, hserves, htags, hrelated⟩ := build_eq_ok h
  refine ⟨hb _ (serves_mem_of_get? hserves), ?_, ?_⟩
  · rw [htags]
    cases hget : b.get? Entry.tags? with
    | none => simp
    | some tags => exact hb _ (tags_mem_of_get? hget)
  · rw [hrelated]
    cases hget : b.get? Entry.related? with
    | none => simp
    | some ids => exact hb _ (related_mem_of_get? hget)

end Builder

namespace Document

variable {Q : Builder → Prop} {b b' : Builder}

theorem kept_of_applyCommand {c : Command} {value : String} {continuations : List Line}
    (hQ : Builder.Keeps Entry.Written Q) (hb : Q b)
    (h : applyCommand b c value continuations = .ok b') : Q b' := by
  cases c with
  | name =>
    obtain ⟨text, -, hadd⟩ := bind_eq_ok.1 h
    exact hQ _ _ _ hb hadd trivial
  | serves =>
    have hadd := hQ.addServesLine hb value
    rw [applyCommand] at h
    split at h
    · next heq =>
      obtain rfl := Except.ok.inj h
      rwa [heq] at hadd
    · cases h
  | desc => exact hQ _ _ _ hb h trivial
  | note => exact hQ _ _ _ hb h trivial
  | tags => exact hQ _ _ _ hb h ⟨value, rfl⟩
  | related => exact hQ _ _ _ hb h ⟨value, rfl⟩
  | attrib =>
    obtain ⟨text, -, hadd⟩ := bind_eq_ok.1 h
    exact hQ _ _ _ hb hadd trivial
  | hide => exact hQ _ _ _ hb h trivial
  | version =>
    obtain ⟨n, -, hadd⟩ := bind_eq_ok.1 h
    exact hQ _ _ _ hb hadd trivial

theorem kept_of_applyLine {l : Line} {continuations : List Line}
    (hQ : Builder.Keeps Entry.Written Q) (hb : Q b) (h : applyLine b l continuations = .ok b') :
    Q b' := by
  have happly := noted_eq_ok.1 h
  split at happly
  · exact kept_of_applyCommand hQ hb happly
  · cases happly

/-- Reading a header keeps what adding one entry keeps that a line may give. -/
theorem kept_of_readHeader {lines rest : List Line} (hQ : Builder.Keeps Entry.Written Q) (hb : Q b)
    (h : readHeader b lines = .ok (b', rest)) : Q b' := by
  fun_induction readHeader b lines with
  | case1 b =>
    obtain ⟨rfl, -⟩ := Prod.mk.inj (Except.ok.inj h)
    exact hb
  | case2 b l rest _ =>
    obtain ⟨rfl, -⟩ := Prod.mk.inj (Except.ok.inj h)
    exact hb
  | case3 => cases h
  | case4 b l rest _ continuations next happly ih => exact ih (kept_of_applyLine hQ hb happly) h

/-- A document is read as what its header is built to and its body is assembled to. -/
theorem exists_header_of_read {source : Source} {text : String} {r : Recipe}
    (h : read source text = .ok r) : ∃ b rest metadata drafts,
      readHeader (.start source.id source.lang source.fileName) (numbered text.toList) = .ok (b, rest) ∧
      b.build = .ok metadata ∧ Recipe.assemble metadata drafts = .ok r := by
  obtain ⟨⟨metadata, drafts⟩, hparts, hassemble⟩ := bind_eq_ok.1 h
  obtain ⟨⟨b, rest⟩, hheader, hparts⟩ := bind_eq_ok.1 hparts
  obtain ⟨m, hbuild, hparts⟩ := bind_eq_ok.1 hparts
  obtain ⟨ds, -, hparts⟩ := bind_eq_ok.1 hparts
  obtain ⟨rfl, -⟩ := Prod.mk.inj (Except.ok.inj hparts)
  exact ⟨b, rest, m, drafts, hheader, hbuild, hassemble⟩

/-- The header of a document is built of entries that its lines give. -/
theorem exists_builder_of_read {source : Source} {text : String} {r : Recipe}
    (h : read source text = .ok r) : ∃ b metadata drafts, Builder.Each Entry.Written b ∧
      b.id = normalizeId source.id ∧ b.build = .ok metadata ∧
      Recipe.assemble metadata drafts = .ok r := by
  obtain ⟨b, rest, m, drafts, hheader, hbuild, hassemble⟩ := exists_header_of_read h
  have hwritten : b.Each Entry.Written :=
    kept_of_readHeader (Builder.keeps_each _) (.start _ _ _) hheader
  have hid : b.id = (Builder.start source.id source.lang source.fileName).id :=
    kept_of_readHeader (Builder.keeps_id _ _) rfl hheader
  exact ⟨b, m, drafts, hwritten, hid, hbuild, hassemble⟩

end Document

namespace LegacyRecipe

theorem tags_mem_entries {r : LegacyRecipe} {list : List String} :
    .tags list ∈ r.entries ↔ ∃ tags, r.tags = some tags ∧ tags.toTags = list := by
  simp [entries]

theorem related_mem_entries {r : LegacyRecipe} {list : List String} (h : .related list ∈ r.entries) :
    r.related.map normalizeId = list := by
  by_cases hnil : r.related = []
  · simp [entries, hnil] at h
  · have hlist : list = r.related.map normalizeId := by simpa [entries, hnil] using h
    exact hlist.symm

theorem sound_entries {r : LegacyRecipe} (hserves : r.serves ≠ 0) : ∀ e ∈ r.entries, e.Sound := by
  intro e he
  cases e with
  | serves count =>
    obtain rfl : count = r.serves := by simpa [entries] using he
    exact Nat.pos_of_ne_zero hserves
  | tags list =>
    obtain ⟨tags, -, rfl⟩ := tags_mem_entries.1 he
    exact fun _ => OneOrMany.lowered_of_mem_toTags
  | related list =>
    obtain rfl := related_mem_entries he
    exact fun _ => normalizeId_of_mem_map
  | _ => trivial

theorem sound_of_metadata {r : LegacyRecipe} {source : Document.Source} {m : Metadata}
    (hserves : r.serves ≠ 0) (h : r.metadata source = .ok m) :
    m.Sound ∧ m.id = normalizeId source.id := by
  have hsound := (Builder.keeps_each Entry.Sound).addAll (sound_entries hserves)
    (.start source.id source.lang source.fileName)
  have hid := (Builder.keeps_id Entry.Sound (normalizeId source.id)).addAll (sound_entries hserves)
    (b := .start source.id source.lang source.fileName) rfl
  rw [metadata] at h
  split at h
  · cases h
  · next heq =>
    rw [heq] at hsound hid
    exact ⟨hsound.build h, (Builder.build_eq_ok h).1.trans hid⟩

end LegacyRecipe

namespace Recipe

/-- A document of either generation was read as the recipe. -/
inductive IsLoaded (r : Recipe) : Prop
  | document (source : Document.Source) (text : String) (h : Document.read source text = .ok r)
  | legacy (source : Document.Source) (record : LegacyRecipe) (h : record.toRecipe source = .ok r)

variable {r : Recipe}

/-- A loaded recipe is assembled under a sound header with an identifier that was made of a name. -/
theorem IsLoaded.assembled (h : r.IsLoaded) : ∃ metadata drafts, assemble metadata drafts = .ok r ∧
    metadata.Sound ∧ normalizeId metadata.id = metadata.id := by
  cases h with
  | document source text h =>
    obtain ⟨b, m, drafts, hb, hid, hbuild, hassemble⟩ := Document.exists_builder_of_read h
    refine ⟨m, drafts, hassemble, (hb.mono fun _ => Entry.Written.sound).build hbuild, ?_⟩
    rw [(Builder.build_eq_ok hbuild).1, hid, normalizeId_normalizeId]
  | legacy source record h =>
    rw [LegacyRecipe.toRecipe] at h
    split at h
    · cases h
    · next hserves =>
      obtain ⟨m, hmetadata, hassemble⟩ := bind_eq_ok.1 h
      obtain ⟨hsound, hid⟩ := LegacyRecipe.sound_of_metadata hserves hmetadata
      exact ⟨m, _, hassemble, hsound, by rw [hid, normalizeId_normalizeId]⟩

theorem IsLoaded.sound (h : r.IsLoaded) : r.metadata.Sound := by
  obtain ⟨m, ds, hassemble, hm, -⟩ := h.assembled
  obtain ⟨-, rfl⟩ := assemble_eq_ok_iff.1 hassemble
  exact hm

theorem IsLoaded.normalizeId_id (h : r.IsLoaded) : normalizeId r.id = r.id := by
  obtain ⟨m, ds, hassemble, -, hid⟩ := h.assembled
  obtain ⟨-, rfl⟩ := assemble_eq_ok_iff.1 hassemble
  exact hid

/-- The totals of a loaded recipe are those of the ingredients of its steps. -/
theorem IsLoaded.totals_eq (h : r.IsLoaded) :
    r.totals = Totals.ofList r.metadata.serves (r.steps.flatMap fun s => s.ingredients) := by
  obtain ⟨m, ds, hassemble, -, -⟩ := h.assembled
  obtain ⟨-, rfl⟩ := assemble_eq_ok_iff.1 hassemble
  rfl

theorem isLoaded_of_readDocument {format : DocumentFormat} {source : Document.Source}
    {bytes : ByteArray} (h : Library.readDocument format source bytes = .ok r) : r.IsLoaded := by
  cases format with
  | recipe =>
    rw [Library.readDocument, Document.readBytes] at h
    split at h
    · exact .document source _ h
    · cases h
  | legacy =>
    rw [Library.readDocument, LegacyRecipe.readBytes] at h
    split at h
    · exact .legacy source _ h
    · cases h

theorem isLoaded_of_mem_filterMap {documents : List (Document.Source × String)}
    (h : r ∈ documents.filterMap fun (source, text) => (Document.read source text).toOption) :
    r.IsLoaded := by
  obtain ⟨⟨source, text⟩, -, hread⟩ := List.mem_filterMap.1 h
  exact .document source text (toOption_eq_some.1 hread)

/-- An onion soup, a second one under its name, and its edition in another language. -/
def onionSoups : List Recipe :=
  [(⟨"Onion Soup", "en", "Onion Soup.en.recipe"⟩,
      "name Onion soup\nserves 2\ntags Hot, soup, hot\n\n- onions\nFry the onions.\n"),
    (⟨"onion-soup", "en", "onion-soup.en.recipe"⟩,
      "name Quick soup\nserves 2\ntags soup\n\n- stock\nHeat the stock.\n"),
    (⟨"Onion Soup", "de", "Onion Soup.de.recipe"⟩,
      "name Zwiebelsuppe\nserves 2\ntags Suppe\n\n- Zwiebeln\nDie Zwiebeln anbraten.\n")].filterMap
    fun (source, text) => (Document.read source text).toOption

theorem isLoaded_of_mem_onionSoups (h : r ∈ onionSoups) : r.IsLoaded := isLoaded_of_mem_filterMap h

end Recipe
end RecipeBook
