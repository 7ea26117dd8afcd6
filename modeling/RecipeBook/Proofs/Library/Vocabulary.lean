import RecipeBook.Library.Warning
import RecipeBook.Proofs.FirstOccurrence
import RecipeBook.Proofs.Index.Collected
import RecipeBook.Proofs.Similarity.Suggestions
import RecipeBook.Proofs.StableSort

/-!
# Warnings about misspelled tags

A vocabulary that has observed some recipes holds, for each tag of each language, the recipes that use
it (`Records`): one more recipe adds itself to the users of its tags (`users?_observe`). The warnings
depend on these users alone. There is one for each tag that looks like another one of its language, in
the order of languages and tags (`exists_lists`). At most three lookalikes are named, so a tag need not
be named where its own lookalikes have their warnings, but those that are named have one
(`IsSuspect.of_mem_lookalikes`), as similarity is mutual.
-/

namespace RecipeBook.Vocabulary

open Similarity

/-- The vocabulary of some recipes, observed one after the other. -/
def ofRecipes (rs : List Recipe) : Vocabulary := rs.foldl observe []

/-- The recipes of the language that carry the tag, as they are observed. -/
def carriers (rs : List Recipe) (lang tag : String) : List Recipe :=
  rs.filter fun r => r.lang = lang ∧ tag ∈ r.metadata.tags

/-- The ids of the recipes that carry the tag, each where it is observed first. -/
def usersOf (rs : List Recipe) (lang tag : String) : List String :=
  ((carriers rs lang tag).map Recipe.id).eraseDups

def tagsOf (rs : List Recipe) (lang : String) : List String :=
  ((rs.filter (Recipe.lang · = lang)).flatMap fun r => r.metadata.tags).eraseDups

/-- The tags that are suggested in place of the tag. -/
def lookalikes (rs : List Recipe) (lang tag : String) : List String :=
  closeMatches tag ((tagsOf rs lang).filter (· ≠ tag))

def report (rs : List Recipe) (lang tag : String) : Warning :=
  .misspelledTag lang tag (usersOf rs lang tag)
    ((lookalikes rs lang tag).map fun other => (other, usersOf rs lang other))

def IsUsed (rs : List Recipe) (lang tag : String) : Prop :=
  ∃ r ∈ rs, r.lang = lang ∧ tag ∈ r.metadata.tags

/-- There is another tag in the language that is similar enough. -/
def IsSuspect (rs : List Recipe) (lang tag : String) : Prop :=
  IsUsed rs lang tag ∧ ∃ other, other ≠ tag ∧ IsUsed rs lang other ∧ cutoff ≤ similarity tag other

/-- By language, and within a language by tag. -/
def Precedes (a b : String × String) : Prop := a.1 < b.1 ∨ a.1 = b.1 ∧ a.2 < b.2

/-- There is one warning for each of the suspects, in their order. -/
structure Lists (rs : List Recipe) (suspects : List (String × String)) (ws : List Warning) : Prop where
  pairwise : suspects.Pairwise Precedes
  mem_iff : ∀ lang tag, (lang, tag) ∈ suspects ↔ IsSuspect rs lang tag
  eq_map : ws = suspects.map fun key => report rs key.1 key.2

/-- The same tags and candidates, with the same users in some order. -/
inductive SameUpToOrder : Warning → Warning → Prop
  | misspelledTag {lang tag : String} {users users' : List String}
      {candidates candidates' : List (String × List String)} (husers : users.Perm users')
      (hcandidates : List.Forall₂ (fun c c' => c.1 = c'.1 ∧ c.2.Perm c'.2) candidates candidates') :
      SameUpToOrder (.misspelledTag lang tag users candidates)
        (.misspelledTag lang tag users' candidates')

/-- How the warnings go with the recipes that were observed. -/
structure Reports (rs : List Recipe) (ws : List Warning) : Prop where
  exists_lists : ∃ suspects, Lists rs suspects ws
  /-- A candidate that is named has a warning of its own, with the same users. -/
  closed : ∀ lang tag users candidates, .misspelledTag lang tag users candidates ∈ ws →
    ∀ other ids, (other, ids) ∈ candidates → ∃ candidates', .misspelledTag lang other ids candidates' ∈ ws
  lookalikes_length : ∀ lang tag, IsSuspect rs lang tag →
    0 < (lookalikes rs lang tag).length ∧ (lookalikes rs lang tag).length ≤ 3
  mem_lookalikes : ∀ lang tag, ∀ other ∈ lookalikes rs lang tag,
    other ≠ tag ∧ IsUsed rs lang other ∧ cutoff ≤ similarity tag other
  nodup_usersOf : ∀ lang tag, (usersOf rs lang tag).Nodup
  mem_usersOf : ∀ lang tag id,
    id ∈ usersOf rs lang tag ↔ ∃ r ∈ rs, r.lang = lang ∧ tag ∈ r.metadata.tags ∧ r.id = id
  /-- The users stand in the order in which their first recipes with the tag were observed. -/
  pairwise_usersOf : ∀ lang tag, (usersOf rs lang tag).Pairwise fun id id' =>
    ((carriers rs lang tag).map Recipe.id).idxOf id < ((carriers rs lang tag).map Recipe.id).idxOf id'
  permuted : ∀ rs', rs'.Perm rs → List.Forall₂ SameUpToOrder ws (ofRecipes rs').warnings

variable {rs rs' : List Recipe} {r : Recipe} {v : Vocabulary} {lang tag other id : String}

/-! ### Users -/

theorem mem_carriers : r ∈ carriers rs lang tag ↔ r ∈ rs ∧ r.lang = lang ∧ tag ∈ r.metadata.tags := by
  rw [carriers, List.mem_filter, decide_eq_true_eq]

theorem carriers_ne_nil_iff : carriers rs lang tag ≠ [] ↔ IsUsed rs lang tag := by
  rw [← List.isEmpty_eq_false_iff, List.isEmpty_eq_false_iff_exists_mem]
  exact exists_congr fun r => mem_carriers

theorem mem_usersOf :
    id ∈ usersOf rs lang tag ↔ ∃ r ∈ rs, r.lang = lang ∧ tag ∈ r.metadata.tags ∧ r.id = id := by
  simp only [usersOf, List.mem_eraseDups, List.mem_map, mem_carriers, and_assoc]

theorem mem_tagsOf : tag ∈ tagsOf rs lang ↔ IsUsed rs lang tag := by
  simp only [tagsOf, List.mem_eraseDups, List.mem_flatMap, List.mem_filter, decide_eq_true_eq, IsUsed,
    and_assoc]

theorem carriers_concat_of_mem (h : tag ∈ r.metadata.tags) :
    carriers (rs ++ [r]) r.lang tag = carriers rs r.lang tag ++ [r] := by
  simp [carriers, List.filter_append, h]

/-- One more recipe is listed behind the other users, unless its id is there already. -/
theorem usersOf_concat (h : tag ∈ r.metadata.tags) : usersOf (rs ++ [r]) r.lang tag =
    if r.id ∈ usersOf rs r.lang tag then usersOf rs r.lang tag
    else usersOf rs r.lang tag ++ [r.id] := by
  rw [usersOf, usersOf, carriers_concat_of_mem h, List.map_append]
  split
  · next hmem => exact eraseDups_concat_of_mem (List.mem_eraseDups.1 hmem)
  · next hnot => exact eraseDups_concat_of_not_mem fun hmem => hnot (List.mem_eraseDups.2 hmem)

theorem carriers_concat_of_not (h : ¬ (r.lang = lang ∧ tag ∈ r.metadata.tags)) :
    carriers (rs ++ [r]) lang tag = carriers rs lang tag := by
  simp only [carriers, List.filter_append, List.filter_cons, List.filter_nil, decide_eq_true_eq,
    if_neg h, List.append_nil]

def users? (v : Vocabulary) (lang tag : String) : Option (List String) :=
  (v.find? lang).bind fun tags => tags.find? tag

theorem mem_addUser (id : String) (users : Option (List String)) : id ∈ addUser id users := by
  rw [addUser]
  split
  · next hmem => exact hmem
  · exact List.mem_append_right _ (List.mem_singleton_self id)

theorem addUser_addUser (id : String) (users : Option (List String)) :
    addUser id (some (addUser id users)) = addUser id users := if_pos (mem_addUser id users)

theorem foldl_addUser {tags : List String} (htags : tags ≠ []) (id : String)
    (users : Option (List String)) :
    tags.foldl (fun users _ => some (addUser id users)) users = some (addUser id users) := by
  induction tags generalizing users with
  | nil => exact absurd rfl htags
  | cons tag tags ih =>
    rw [List.foldl_cons]
    by_cases hnil : tags = []
    · rw [hnil, List.foldl_nil]
    · rw [ih hnil, addUser_addUser]

/-- The tags of a recipe get it as a user, all other tags keep their users. -/
theorem find?_foldl_addUser {tags : Index (List String)} (h : tags.Sorted) (names : List String)
    (id tag : String) :
    (names.foldl (fun tags tag => Index.update tag (addUser id) tags) tags).find? tag =
      if tag ∈ names then some (addUser id (tags.find? tag)) else tags.find? tag := by
  have hfind := h.find?_foldl_update (fun tag => tag) (fun _ => addUser id) names tag
  rw [hfind]
  split
  · next hmem =>
    have hne : names.filter (· = tag) ≠ [] :=
      List.ne_nil_of_mem (List.mem_filter.2 ⟨hmem, decide_eq_true rfl⟩)
    exact foldl_addUser hne id _
  · next hnot =>
    have hnil : names.filter (· = tag) = [] := by
      rw [List.filter_eq_nil_iff]
      intro name hname hdecide
      exact hnot (of_decide_eq_true hdecide ▸ hname)
    rw [hnil, List.foldl_nil]

/-! ### What a vocabulary holds -/

/-- The vocabulary holds the users of the tags of these recipes. -/
structure Records (v : Vocabulary) (rs : List Recipe) : Prop where
  sorted : v.Sorted
  sorted_tags : ∀ lang tags, v.find? lang = some tags → tags.Sorted
  users?_eq : ∀ lang tag,
    v.users? lang tag = if carriers rs lang tag = [] then none else some (usersOf rs lang tag)

theorem records_nil : Records [] [] where
  sorted := Index.sorted_nil
  sorted_tags := fun _ _ h => nomatch h
  users?_eq := fun _ _ => rfl

namespace Records

theorem sorted_getD (h : v.Records rs) (lang : String) : ((v.find? lang).getD []).Sorted := by
  cases hfind : v.find? lang with
  | none => exact Index.sorted_nil
  | some tags => exact h.sorted_tags lang tags hfind

theorem find?_observe (h : v.Records rs) (r : Recipe) (lang : String) :
    (v.observe r).find? lang = if lang = r.lang then
      some (r.metadata.tags.foldl (fun tags tag => Index.update tag (addUser r.id) tags)
        ((v.find? r.lang).getD [])) else v.find? lang :=
  h.sorted.find?_update r.lang _ lang

/-- One more recipe becomes a user of its tags in its language, and nothing else changes. -/
theorem users?_observe (h : v.Records rs) (r : Recipe) (lang tag : String) :
    (v.observe r).users? lang tag = if r.lang = lang ∧ tag ∈ r.metadata.tags then
      some (addUser r.id (v.users? lang tag)) else v.users? lang tag := by
  rw [users?, h.find?_observe]
  by_cases hlang : lang = r.lang
  · subst hlang
    have hold : ((v.find? r.lang).getD []).find? tag = v.users? r.lang tag := by
      rw [users?]
      cases v.find? r.lang <;> rfl
    rw [if_pos rfl, Option.bind_some, find?_foldl_addUser (h.sorted_getD r.lang), hold]
    simp only [true_and]
  · rw [if_neg hlang, if_neg fun hboth => hlang hboth.1.symm, users?]

theorem observe (h : v.Records rs) (r : Recipe) : (v.observe r).Records (rs ++ [r]) where
  sorted := h.sorted.update
  sorted_tags := by
    intro lang tags hfind
    rw [h.find?_observe] at hfind
    split at hfind
    · cases hfind
      exact (h.sorted_getD r.lang).foldl_update (fun tag => tag) (fun _ => addUser r.id) _
    · exact h.sorted_tags lang tags hfind
  users?_eq := by
    intro lang tag
    rw [h.users?_observe, h.users?_eq]
    split
    · next hcarries =>
      obtain ⟨rfl, htag⟩ := hcarries
      have hne : carriers (rs ++ [r]) r.lang tag ≠ [] := by
        rw [carriers_concat_of_mem htag]
        exact List.concat_ne_nil r _
      have hold : (if carriers rs r.lang tag = [] then none else some (usersOf rs r.lang tag)).getD [] =
          usersOf rs r.lang tag := by
        split
        · next hnil => rw [usersOf, hnil]; rfl
        · rfl
      rw [if_neg hne, usersOf_concat htag, addUser, hold]
    · next hnot => rw [usersOf, usersOf, carriers_concat_of_not hnot]

end Records

theorem records_ofRecipes (rs : List Recipe) : (ofRecipes rs).Records rs := by
  -- from the end, where the last recipe is observed by what holds of all before it
  induction rs using List.reverseRecOn with
  | nil => exact records_nil
  | append_singleton rs r ih =>
    rw [ofRecipes, List.foldl_concat]
    exact ih.observe r

/-! ### What is warned of -/

variable {tags : Index (List String)}

theorem Records.find?_tags (h : v.Records rs) (hfind : v.find? lang = some tags) (tag : String) :
    tags.find? tag = if carriers rs lang tag = [] then none else some (usersOf rs lang tag) := by
  rw [← h.users?_eq, users?, hfind, Option.bind_some]

theorem Records.mem_keys_tags (h : v.Records rs) (hfind : v.find? lang = some tags) :
    tag ∈ tags.keys ↔ IsUsed rs lang tag := by
  rw [(h.sorted_tags lang tags hfind).mem_keys_iff, h.find?_tags hfind, ← carriers_ne_nil_iff]
  split <;> simp [*]

theorem IsUsed.isSome_find? (h : IsUsed rs lang tag) (hv : v.Records rs) :
    ∃ tags, v.find? lang = some tags := by
  have husers := hv.users?_eq lang tag
  rw [if_neg (carriers_ne_nil_iff.2 h), users?] at husers
  obtain ⟨tags, htags, -⟩ := Option.bind_eq_some_iff.1 husers
  exact ⟨tags, htags⟩

theorem Records.getD_find?_tags (h : v.Records rs) (hfind : v.find? lang = some tags) (tag : String) :
    (tags.find? tag).getD [] = usersOf rs lang tag := by
  rw [h.find?_tags hfind]
  split
  · next hnil => rw [usersOf, hnil]; rfl
  · rfl

/-- Lookalikes are found among the tags of the language, in whatever order these come. -/
theorem lookalikes_eq {names : List String} (hnodup : names.Nodup)
    (hmem : ∀ tag, tag ∈ names ↔ IsUsed rs lang tag) (tag : String) :
    closeMatches tag (names.filter (· ≠ tag)) = lookalikes rs lang tag := by
  -- the index lists its keys in order, `tagsOf` as they come, and neither lists a tag twice
  refine closeMatches_eq_of_perm tag (List.Perm.filter _ ?_)
  refine (List.perm_ext_iff_of_nodup hnodup (nodup_eraseDups _)).2 fun name => ?_
  rw [hmem, ← mem_tagsOf, tagsOf]

theorem of_mem_lookalikes (h : other ∈ lookalikes rs lang tag) :
    other ≠ tag ∧ IsUsed rs lang other ∧ cutoff ≤ similarity tag other := by
  obtain ⟨hmem, hsimilar⟩ := of_mem_closeMatches h
  obtain ⟨hused, hne⟩ := List.mem_filter.1 hmem
  exact ⟨of_decide_eq_true hne, mem_tagsOf.1 hused, hsimilar⟩

theorem lookalikes_ne_nil_iff : lookalikes rs lang tag ≠ [] ↔
    ∃ other, other ≠ tag ∧ IsUsed rs lang other ∧ cutoff ≤ similarity tag other := by
  constructor
  · intro hne
    obtain ⟨other, hother⟩ := List.exists_mem_of_ne_nil _ hne
    exact ⟨other, of_mem_lookalikes hother⟩
  · rintro ⟨other, hne, hused, hsimilar⟩ hnil
    have hmem : other ∈ (tagsOf rs lang).filter (· ≠ tag) :=
      List.mem_filter.2 ⟨mem_tagsOf.2 hused, decide_eq_true hne⟩
    exact closeMatches_eq_nil_iff.1 hnil other hmem hsimilar

/-- A lookalike of a tag has a lookalike, namely the tag. -/
theorem IsSuspect.of_mem_lookalikes (h : IsUsed rs lang tag) (hother : other ∈ lookalikes rs lang tag) :
    IsSuspect rs lang other := by
  obtain ⟨hne, hused, hsimilar⟩ := Vocabulary.of_mem_lookalikes hother
  exact ⟨hused, tag, hne.symm, h, similarity_comm tag other ▸ hsimilar⟩

theorem Records.warning?_eq (h : v.Records rs) (hfind : v.find? lang = some tags) (tag : String) :
    warning? lang tags tag (usersOf rs lang tag) =
      if lookalikes rs lang tag = [] then none else some (report rs lang tag) := by
  have hlookalikes : closeMatches tag (tags.keys.filter (· ≠ tag)) = lookalikes rs lang tag :=
    lookalikes_eq (h.sorted_tags lang tags hfind).nodup_keys (fun _ => h.mem_keys_tags hfind) tag
  rw [warning?, hlookalikes, report]
  simp only [h.getD_find?_tags hfind]

/-- The tags of one language that have lookalikes. -/
def suspectsIn (rs : List Recipe) (lang : String) (tags : Index (List String)) : List (String × String) :=
  (tags.keys.filter fun tag => lookalikes rs lang tag ≠ []).map fun tag => (lang, tag)

theorem mem_suspectsIn {key : String × String} : key ∈ suspectsIn rs lang tags ↔
    key.1 = lang ∧ key.2 ∈ tags.keys ∧ lookalikes rs lang key.2 ≠ [] := by
  obtain ⟨lang', tag⟩ := key
  simp only [suspectsIn, List.mem_map, List.mem_filter, decide_eq_true_eq, Prod.mk.injEq]
  constructor
  · rintro ⟨_, htag, rfl, rfl⟩
    exact ⟨rfl, htag⟩
  · rintro ⟨rfl, htag⟩
    exact ⟨tag, htag, rfl, rfl⟩

theorem filterMap_keys {α β : Type} (p : String → Prop) [DecidablePred p] (f : String → β)
    (m : Index α) : (m.filterMap fun entry => if p entry.1 then none else some (f entry.1)) =
      (m.keys.filter fun key => ¬ p key).map f := by
  induction m with
  | nil => rfl
  | cons entry m ih =>
    have hkeys : Index.keys (entry :: m) = entry.1 :: Index.keys m := rfl
    rw [hkeys, List.filterMap_cons, List.filter_cons, ih]
    by_cases hp : p entry.1 <;> simp [hp]

theorem Records.filterMap_warning? (h : v.Records rs) (hfind : v.find? lang = some tags) :
    (tags.filterMap fun entry => warning? lang tags entry.1 entry.2) =
      (suspectsIn rs lang tags).map fun key => report rs key.1 key.2 := by
  have hentry : ∀ entry ∈ tags, warning? lang tags entry.1 entry.2 =
      if lookalikes rs lang entry.1 = [] then none else some (report rs lang entry.1) := by
    intro entry hmem
    have husers : tags.find? entry.1 = some entry.2 := (h.sorted_tags lang tags hfind).mem_iff.1 hmem
    have hlisted : entry.2 = usersOf rs lang entry.1 := by
      rw [← h.getD_find?_tags hfind, husers, Option.getD_some]
    rw [hlisted, h.warning?_eq hfind]
  rw [List.filterMap_congr hentry, suspectsIn, List.map_map]
  exact filterMap_keys (fun tag => lookalikes rs lang tag = []) (report rs lang) tags

theorem pairwise_suspectsIn (h : tags.Sorted) : (suspectsIn rs lang tags).Pairwise Precedes := by
  refine List.pairwise_map.2 (List.Pairwise.filter _ ?_)
  exact h.imp fun hlt => .inr ⟨rfl, hlt⟩

theorem exists_lists (rs : List Recipe) : ∃ suspects, Lists rs suspects (ofRecipes rs).warnings := by
  have h := records_ofRecipes rs
  have hfind : ∀ entry ∈ ofRecipes rs, (ofRecipes rs).find? entry.1 = some entry.2 :=
    fun entry hentry => h.sorted.mem_iff.1 hentry
  refine ⟨(ofRecipes rs).flatMap fun entry => suspectsIn rs entry.1 entry.2, ?_, ?_, ?_⟩
  · -- tags are in order within their language, and languages among each other
    refine List.pairwise_flatMap.2 ⟨fun entry hentry => ?_, ?_⟩
    · exact pairwise_suspectsIn (h.sorted_tags entry.1 entry.2 (hfind entry hentry))
    · refine (List.pairwise_map.1 h.sorted).imp fun hlt a ha b hb => .inl ?_
      rw [(mem_suspectsIn.1 ha).1, (mem_suspectsIn.1 hb).1]
      exact hlt
  · intro lang tag
    rw [List.mem_flatMap, IsSuspect, ← lookalikes_ne_nil_iff]
    constructor
    · rintro ⟨entry, hentry, hmem⟩
      obtain ⟨rfl, hkey, hne⟩ := mem_suspectsIn.1 hmem
      exact ⟨(h.mem_keys_tags (hfind entry hentry)).1 hkey, hne⟩
    · rintro ⟨hused, hne⟩
      obtain ⟨tags, htags⟩ := hused.isSome_find? h
      have hkey : tag ∈ tags.keys := (h.mem_keys_tags htags).2 hused
      exact ⟨(lang, tags), h.sorted.mem_iff.2 htags, mem_suspectsIn.2 ⟨rfl, hkey, hne⟩⟩
  · rw [warnings, List.map_flatMap]
    exact List.flatMap_congr fun entry hentry => h.filterMap_warning? (hfind entry hentry)

/-! ### The order of the recipes -/

theorem carriers_perm (h : rs'.Perm rs) (lang tag : String) :
    (carriers rs' lang tag).Perm (carriers rs lang tag) := h.filter _

theorem usersOf_perm (h : rs'.Perm rs) (lang tag : String) :
    (usersOf rs' lang tag).Perm (usersOf rs lang tag) := by
  refine (List.perm_ext_iff_of_nodup (nodup_eraseDups _) (nodup_eraseDups _)).2 fun id => ?_
  rw [List.mem_eraseDups, List.mem_eraseDups]
  exact ((carriers_perm h lang tag).map Recipe.id).mem_iff

theorem isUsed_iff_of_perm (h : rs'.Perm rs) : IsUsed rs' lang tag ↔ IsUsed rs lang tag :=
  exists_congr fun _ => and_congr_left fun _ => h.mem_iff

theorem lookalikes_eq_of_perm (h : rs'.Perm rs) (lang tag : String) :
    lookalikes rs' lang tag = lookalikes rs lang tag :=
  lookalikes_eq (nodup_eraseDups _) (fun _ => mem_tagsOf.trans (isUsed_iff_of_perm h)) tag

theorem isSuspect_iff_of_perm (h : rs'.Perm rs) : IsSuspect rs' lang tag ↔ IsSuspect rs lang tag := by
  simp only [IsSuspect, isUsed_iff_of_perm h]

theorem sameUpToOrder_report (h : rs'.Perm rs) (lang tag : String) :
    SameUpToOrder (report rs lang tag) (report rs' lang tag) := by
  rw [report, report, lookalikes_eq_of_perm h]
  refine .misspelledTag (usersOf_perm h lang tag).symm ?_
  rw [List.forall₂_map_left_iff, List.forall₂_map_right_iff, List.forall₂_same]
  exact fun other _ => ⟨rfl, (usersOf_perm h lang other).symm⟩

theorem Precedes.asymm {a b : String × String} (h : Precedes a b) : ¬ Precedes b a := by
  rintro (hba | ⟨hba, hba'⟩) <;> rcases h with hab | ⟨hab, hab'⟩
  · exact String.lt_asymm hab hba
  · exact String.lt_irrefl b.1 (hab ▸ hba)
  · exact String.lt_irrefl a.1 (hba ▸ hab)
  · exact String.lt_asymm hab' hba'

theorem Lists.unique {keys keys' : List (String × String)} {ws ws' : List Warning} (h : Lists rs keys ws)
    (h' : Lists rs' keys' ws') (hperm : rs'.Perm rs) : keys' = keys := by
  refine eq_of_pairwise_of_mem_iff (fun _ _ => Precedes.asymm) h'.pairwise h.pairwise ?_
  rintro ⟨lang, tag⟩
  rw [h'.mem_iff, h.mem_iff, isSuspect_iff_of_perm hperm]

theorem forall₂_warnings (h : rs'.Perm rs) :
    List.Forall₂ SameUpToOrder (ofRecipes rs).warnings (ofRecipes rs').warnings := by
  obtain ⟨suspects, hlists⟩ := exists_lists rs
  obtain ⟨suspects', hlists'⟩ := exists_lists rs'
  rw [hlists.eq_map, hlists'.eq_map, hlists.unique hlists' h, List.forall₂_map_left_iff,
    List.forall₂_map_right_iff, List.forall₂_same]
  exact fun key _ => sameUpToOrder_report h key.1 key.2

theorem Lists.mem_warnings {suspects : List (String × String)} {ws : List Warning}
    (h : Lists rs suspects ws) {w : Warning} :
    w ∈ ws ↔ ∃ lang tag, IsSuspect rs lang tag ∧ w = report rs lang tag := by
  simp only [h.eq_map, List.mem_map, Prod.exists, h.mem_iff, eq_comm]

theorem reports_warnings (rs : List Recipe) : Reports rs (ofRecipes rs).warnings := by
  obtain ⟨suspects, hlists⟩ := exists_lists rs
  exact {
    exists_lists := ⟨suspects, hlists⟩
    closed := by
      intro lang tag users candidates hwarning other ids hcandidate
      obtain ⟨lang', tag', hsuspect, heq⟩ := hlists.mem_warnings.1 hwarning
      obtain ⟨rfl, rfl, -, rfl⟩ := Warning.misspelledTag.inj heq
      obtain ⟨candidate, hother, heq⟩ := List.mem_map.1 hcandidate
      obtain ⟨rfl, rfl⟩ := Prod.mk.inj heq
      exact ⟨_, hlists.mem_warnings.2 ⟨lang, candidate, .of_mem_lookalikes hsuspect.1 hother, rfl⟩⟩
    lookalikes_length := by
      intro lang tag hsuspect
      have hne : lookalikes rs lang tag ≠ [] := lookalikes_ne_nil_iff.2 hsuspect.2
      exact ⟨List.length_pos_of_ne_nil hne, length_closeMatches_le _ _⟩
    mem_lookalikes := fun lang tag other hother => of_mem_lookalikes hother
    nodup_usersOf := fun lang tag => nodup_eraseDups _
    mem_usersOf := fun lang tag id => mem_usersOf
    pairwise_usersOf := fun lang tag => pairwise_idxOf_eraseDups _
    permuted := fun rs' hperm => forall₂_warnings hperm }

end RecipeBook.Vocabulary
