import RecipeBook.Proofs.Library.Image
import RecipeBook.Proofs.Web.Images
import RecipeBook.Proofs.Web.Related

/-!
# The URL of a recipe's image

A recipe of a loaded library that has an image is told of with a URL, and a client that follows it asks
for the image if the name of the file is literal (`imageUrl_reaches_image`). The path is followed as a
reference to another document, so that in other names a question mark or a number sign ends it, a
backslash is taken for a slash, and what looks like a code is read as one.
-/

namespace RecipeBook

open Url.Percent (encode hasCode pathSet utf8)

namespace Web

variable {site : Site} {r : Recipe} {location lang url : String} {entries : List WalkEntry}
  {name : List Char}

/-- A recipe is told of with the URL, in lists and by itself. -/
structure Site.GivesImage (site : Site) (r : Recipe) (url : String) : Prop where
  imageUrl_eq : site.imageUrl r = some url
  card : (View.card site r).field? "image_url" = some (.text url)
  detail : ∀ id lang fallback d, site.detail? id lang fallback = some d → d.recipe = r →
    (View.detail d).field? "image_url" = some (.text url)

/-- Whoever gets what is at the URL gets the file at a location of the folder. -/
structure Site.Serves (site : Site) (url location : String) : Prop where
  /-- The URL can be sent as it is. -/
  read?_eq : Target.read? url = some ⟨"", url, none⟩
  exists_file : ∃ path bytes, Images.location path = location ∧ site.folder.read location = .ok bytes ∧
    ∀ request, request.GetsPath site.settings.bodyLimit url →
      respond site request = (Images.respondFile site request path).withHeaders commonHeaders ∧
      (request.method = "GET" → request.headers = [] →
        (respond site request).status = 200 ∧ (respond site request).body = .bytes bytes)

/-! ### Following the path -/

theorem read_ownOrigin : Url.read Site.ownOrigin = .ok Url.root := by decide +kernel

theorem imageUrl_of_join {u : Url} (hbase : site.settings.baseUrl = none)
    (himage : Library.imagePath site.folder r ≠ Library.noImage)
    (hu : Url.root.join (Library.imagePath site.folder r) = .ok u) :
    site.imageUrl r = some u.pathText := by
  have hbelow : Site.urlBelow Site.ownOrigin (Library.imagePath site.folder r) = .ok u := by
    rw [Site.urlBelow, read_ownOrigin]
    exact hu
  simp only [Site.imageUrl, if_neg himage, hbase, hbelow]
  rfl

theorem givesImage_of_imageUrl (h : site.imageUrl r = some url) : site.GivesImage r url where
  imageUrl_eq := h
  card := by
    rw [View.card, h]
    rfl
  detail id lang fallback d hd hr := by
    obtain ⟨editions, r', -, -, rfl⟩ := Site.detail?_eq_some.1 hd
    obtain rfl : r' = r := hr
    rw [(View.isTold_detail _).imageUrl, h]
    rfl

theorem toList_location (name : List Char) :
    (Images.location [.ofList name]).toList = "images/".toList ++ name := by
  simp [Images.location]

/-- The image of a recipe is a file of the folder `images` itself, and its name ends in the last letter
of an extension. -/
theorem exists_name (hflat : Library.IsFlat r)
    (himage : Library.imagePath site.folder r ≠ Library.noImage) : ∃ name bytes, '/' ∉ name ∧
      name.getLast? = some 'g' ∧ Library.imagePath site.folder r = Images.location [.ofList name] ∧
      site.folder.read (Library.imagePath site.folder r) = .ok bytes := by
  obtain ⟨stem, extension, hslash, hextension, hpath, bytes, hbytes⟩ :=
    Library.exists_stem_of_imagePath_ne hflat himage
  have hlast : extension.toList.getLast? = some 'g' ∧ '/' ∉ extension.toList := by
    rcases List.mem_pair.1 hextension with rfl | rfl <;> decide
  refine ⟨stem.toList ++ '.' :: extension.toList, bytes, ?_, ?_, ?_, hbytes⟩
  · simp [hslash, hlast.2]
  · rw [List.getLast?_append, List.getLast?_cons, hlast.1]
    rfl
  · rw [hpath, ← String.toList_inj, toList_location]
    simp

theorem isBelow_location (hslash : '/' ∉ name) (hlast : name.getLast? = some 'g') :
    Url.IsBelow (Images.location [.ofList name]).toList := by
  rw [toList_location]
  refine ⟨fun c hc => ?_, fun c hc => ?_, fun piece hpiece => ?_⟩
  · obtain rfl : 'i' = c := Option.some.inj hc
    decide
  · rw [List.getLast?_append, hlast] at hc
    obtain rfl : 'g' = c := Option.some.inj hc
    decide
  · have hsplit : Text.splitOn '/' ("images/".toList ++ name) = ["images".toList, name] := by
      rw [← Text.splitOn_of_not_mem hslash]
      exact Text.splitOn_append_cons (show '/' ∉ "images".toList by decide) name
    rw [hsplit] at hpiece
    rcases List.mem_pair.1 hpiece with rfl | rfl
    · decide
    · exact Url.isDots_of_getLast? hlast

theorem encode_location (name : List Char) :
    encode pathSet ('/' :: (Images.location [.ofList name]).toList) = pathOfImage name := by
  rw [toList_location]
  exact Url.Percent.encode_append pathSet "/images/".toList name

theorem serves_of_isLiteral {bytes : ByteArray} (hslash : '/' ∉ name) (hlast : name.getLast? = some 'g')
    (h : Url.IsLiteral (Images.location [.ofList name]).toList)
    (hread : site.folder.read (Images.location [.ofList name]) = .ok bytes) :
    site.Serves (.ofList (pathOfImage name)) (Images.location [.ofList name]) := by
  have hname : String.ofList name ∉ ["", ".", ".."] := fun hmem => by
    have hends : ∀ s ∈ ["", ".", ".."], s.toList.getLast? ≠ some 'g' := by decide
    exact hends _ hmem (by rw [String.toList_ofList, hlast])
  have hcode : hasCode name = false := by
    have hcode := h.hasCode_eq
    rw [toList_location] at hcode
    exact Url.Percent.hasCode_of_append _ _ hcode
  refine ⟨?_, [.ofList name], bytes, rfl, hread, fun request hget => ?_⟩
  · rw [← encode_location]
    refine read?_encode ?_
    have hsize := Folder.size_le_of_read hread
    have hslash : (String.utf8EncodeChar '/').length = 1 := rfl
    rw [Url.Percent.utf8ByteSize_eq, FileTree.maxPathSize] at hsize
    rw [Url.Percent.utf8_cons, List.length_append, hslash, Target.maxSize]
    omega
  · have hrespond := respond_image hget (ofPath?_pathOfImage name) (names?_encode hslash hcode hname)
      (Folder.enter?_of_read hread)
    refine ⟨hrespond, fun hmethod hheaders => ?_⟩
    rw [hrespond]
    exact respondFile_of_headers_eq_nil hread hmethod hheaders

/-- Every recipe of a loaded library that has an image is told of with a URL. The path is read back as
the location of the image exactly if that is literal, and then the URL leads to the image. -/
theorem imageUrl_reaches_image (hlibrary : site.library = (Library.loadEntries location entries).library)
    (hnamed : ∀ e ∈ entries, e.IsNamed) (hbase : site.settings.baseUrl = none)
    (hr : r ∈ site.library.recipes lang)
    (himage : Library.imagePath site.folder r ≠ Library.noImage) :
    ∃ url, site.GivesImage r url ∧
      (Url.Percent.text? (Url.Percent.decodeText url) = some ("/" ++ Library.imagePath site.folder r) ↔
        Url.IsLiteral (Library.imagePath site.folder r).toList) ∧
      (Url.IsLiteral (Library.imagePath site.folder r).toList →
        site.Serves url (Library.imagePath site.folder r)) := by
  rw [hlibrary] at hr
  obtain ⟨name, bytes, hslash, hlast, hpath, hread⟩ :=
    exists_name (Library.isFlat_of_mem_recipes hnamed hr) himage
  obtain ⟨q, u, hu, htext, hq, hdecode⟩ := Url.exists_join (isBelow_location hslash hlast)
  rw [String.ofList_toList] at hu
  have hurl : site.imageUrl r = some u.pathText := imageUrl_of_join hbase himage (hpath ▸ hu)
  rw [hpath] at hread ⊢
  refine ⟨u.pathText, givesImage_of_imageUrl hurl, ?_, fun h => ?_⟩
  · rw [Url.Percent.text?_eq_some_iff, Url.Percent.decodeText_eq, htext, String.toList_ofList,
      String.toList_append]
    exact hdecode
  · rw [htext, hq h, encode_location]
    exact serves_of_isLiteral hslash hlast h hread

/-- Two soups. Of the names of their files one is literal, percent signs included. -/
def soups : List WalkEntry :=
  [.file ["50% Süp %4.en.recipe"] (.bytes "name Soup\nserves 2\n".toUTF8),
    .file ["Soup #1.en.recipe"] (.bytes "name Soup\nserves 2\n".toUTF8)]

/-- A site with both soups and an image of each. -/
def soupSite : Site where
  library := (Library.loadEntries "recipes" soups).library
  folder := .top ⟨[(["images"], .folder), (["images", "50% Süp %4.png"], .file "one".toUTF8),
    (["images", "Soup #1.png"], .file "two".toUTF8)]⟩
  changedAt := 0
  settings := ⟨"0.0.0.0", 8080, none, 100, 65536, "recipes", none, "Cookbook", none⟩
  loadedAt := "2024-01-01T00:00:00Z"

theorem map_imagePath_soupSite :
    (soupSite.library.recipes "en").map (Library.imagePath soupSite.folder) =
      ["images/50% Süp %4.png", "images/Soup #1.png"] := by
  decide +kernel

theorem imageUrl_reaches_image_percent : ∃ r ∈ soupSite.library.recipes "en",
    Library.imagePath soupSite.folder r = "images/50% Süp %4.png" ∧
    ∃ url, soupSite.GivesImage r url ∧
      Url.Percent.text? (Url.Percent.decodeText url) = some "/images/50% Süp %4.png" ∧
      soupSite.Serves url "images/50% Süp %4.png" := by
  obtain ⟨r, hr, hpath⟩ := List.mem_map.1 (map_imagePath_soupSite ▸ List.mem_cons_self)
  have hlibrary : soupSite.library = (Library.loadEntries "recipes" soups).library := rfl
  have hnamed : ∀ e ∈ soups, e.IsNamed := by
    have hfirst : '/' ∉ "50% Süp %4.en.recipe".toList := by decide
    have hsecond : '/' ∉ "Soup #1.en.recipe".toList := by decide
    rw [soups, List.forall_mem_cons, List.forall_mem_singleton]
    exact ⟨hfirst, hsecond⟩
  have himage : Library.imagePath soupSite.folder r ≠ Library.noImage := by
    rw [hpath]
    decide
  obtain ⟨url, hgives, hiff, hserves⟩ := imageUrl_reaches_image hlibrary hnamed rfl hr himage
  rw [hpath] at hiff hserves
  have hliteral : Url.IsLiteral "images/50% Süp %4.png".toList := by decide
  exact ⟨r, hr, hpath, url, hgives, hiff.2 hliteral, hserves hliteral⟩

/-- What is behind a number sign is no part of the path, and so the URL leads nowhere. -/
theorem imageUrl_drops_number_sign : ∃ r ∈ soupSite.library.recipes "en",
    Library.imagePath soupSite.folder r = "images/Soup #1.png" ∧
    (soupSite.folder.read "images/Soup #1.png").isOk = true ∧
    soupSite.imageUrl r = some "/images/Soup%20" ∧
    Url.Percent.text? (Url.Percent.decodeText "/images/Soup%20") ≠ some "/images/Soup #1.png" ∧
    (respond soupSite (.plain "/images/Soup%20" none)).status = 404 := by
  obtain ⟨r, hr, hpath⟩ := List.mem_map.1
    (map_imagePath_soupSite ▸ List.mem_cons_of_mem _ List.mem_cons_self)
  have himage : Library.imagePath soupSite.folder r ≠ Library.noImage := by
    rw [hpath]
    decide
  have hjoin : Url.root.join (Library.imagePath soupSite.folder r) = .ok ⟨"http", some "localhost",
      .segments ["images".toList, "Soup%20".toList], none, some "1.png".toList⟩ := by
    rw [hpath]
    decide +kernel
  have hurl := imageUrl_of_join rfl himage hjoin
  exact ⟨r, hr, hpath, by decide +kernel, hurl, by decide +kernel, by decide +kernel⟩

end Web
end RecipeBook
