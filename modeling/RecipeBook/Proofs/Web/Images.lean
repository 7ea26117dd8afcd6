import RecipeBook.Proofs.Url.Path
import RecipeBook.Proofs.Web.Respond

/-!
# Requests for images

The path of a URL for an image can be sent as it is (`read?_encode`) and is read back as the name of the
file, so that a request for it is answered with that file (`respond_image`).
-/

namespace RecipeBook

open Url.Percent (encode encoded hasCode pathSet utf8)

namespace Folder

variable {f : Folder} {location : String} {bytes : ByteArray}

theorem findFrom_of_read (h : f.read location = .ok bytes) :
    ∃ path, f.tree.findFrom f.path location = .ok (path, .file bytes) := by
  rw [read] at h
  cases hfind : f.tree.findFrom f.path location with
  | error e =>
    rw [hfind] at h
    cases h
  | ok found =>
    obtain ⟨path, content⟩ := found
    rw [hfind] at h
    cases content with
    | file bytes' =>
      obtain rfl := Except.ok.inj h
      exact ⟨path, rfl⟩
    | folder => cases h

theorem size_le_of_read (h : f.read location = .ok bytes) :
    location.utf8ByteSize ≤ FileTree.maxPathSize := by
  obtain ⟨path, hfind⟩ := findFrom_of_read h
  by_contra hsize
  rw [FileTree.findFrom, if_pos (Nat.lt_of_not_le hsize)] at hfind
  split at hfind <;> cases hfind

theorem enter?_of_read (h : f.read location = .ok bytes) : f.enter? location = none := by
  obtain ⟨path, hfind⟩ := findFrom_of_read h
  rw [enter?, hfind]

end Folder

namespace Web

variable {site : Site} {request : Request} {name : List Char}

/-- A request that gets what is at a path and announces no body above the limit. -/
structure Request.GetsPath (request : Request) (limit : Nat) (path : String) : Prop where
  path_eq : request.target.path = path
  method : request.method = "GET" ∨ request.method = "HEAD"
  isTooLong_eq : isTooLong limit request = false

/-- The path of a file in the folder of the images. -/
def pathOfImage (name : List Char) : List Char := "/images/".toList ++ encode pathSet name

/-! ### Sending -/

theorem isPathChar_of_not_isCoded {c : Char} (h : Url.Percent.isCoded c = false) :
    Target.isPathChar c = true :=
  Url.Percent.forall_ascii
    (P := fun c => Url.Percent.isCoded c = false → Target.isPathChar c = true)
    (by decide +kernel) (Url.Percent.toNat_lt_of_not_isCoded h) h

theorem readPath_eq {s : List Char} (hs : ∀ c ∈ s, Target.isPathChar c = true) (hne : s ≠ []) :
    Target.readPath [] s = some ⟨"", .ofList s, none⟩ := by
  have hmark : ∀ c ∈ s, c ≠ '#' ∧ c ≠ '?' := fun c hc => by
    refine ⟨?_, ?_⟩ <;> rintro rfl <;> exact absurd (hs _ hc) (by decide)
  have hfragment : s.takeWhile (· ≠ '#') = s :=
    List.takeWhile_eq_self_iff.2 fun c hc => decide_eq_true (hmark c hc).1
  have hpath : s.takeWhile (· ≠ '?') = s :=
    List.takeWhile_eq_self_iff.2 fun c hc => decide_eq_true (hmark c hc).2
  have hquery : s.dropWhile (· ≠ '?') = [] :=
    List.dropWhile_eq_nil_iff.2 fun c hc => decide_eq_true (hmark c hc).2
  have hall : s.all Target.isPathChar = true := List.all_eq_true.2 hs
  rw [Target.readPath]
  simp only [hfragment, hpath, hquery, hall, if_neg hne]
  rfl

/-- An encoded path can be sent as it is. -/
theorem read?_encode {s : List Char} (hsize : 3 * (utf8 ('/' :: s)).length ≤ Target.maxSize) :
    Target.read? (.ofList (encode pathSet ('/' :: s))) =
      some ⟨"", .ofList (encode pathSet ('/' :: s)), none⟩ := by
  have hle : (String.ofList (encode pathSet ('/' :: s))).utf8ByteSize ≤ Target.maxSize := by
    rw [Url.Percent.utf8ByteSize_eq, String.toList_ofList]
    exact (Url.Percent.length_encoded_le _).trans hsize
  have hslash : encode pathSet ('/' :: s) = '/' :: encode pathSet s :=
    Url.Percent.encode_cons_of_not_isCoded (by decide) s
  have hhead : (encode pathSet ('/' :: s)).head? = some '/' := by rw [hslash, List.head?_cons]
  rw [Target.read?, if_neg (Nat.not_lt.2 hle), String.toList_ofList, if_pos hhead]
  refine readPath_eq (fun c hc => ?_) (by rw [hslash]; exact List.cons_ne_nil _ _)
  exact isPathChar_of_not_isCoded (Url.Percent.not_isCoded_of_mem_encode hc)

/-! ### Finding the file -/

theorem ofPath?_pathOfImage (name : List Char) :
    Route.ofPath? (.ofList (pathOfImage name)) = some (.image (.ofList ('/' :: encode pathSet name))) := by
  have hfixed : Resource.fixed.lookup (.ofList (pathOfImage name)) = none := by
    have hstart : (pathOfImage name).take 8 = "/images/".toList := rfl
    have hother : ∀ p ∈ Resource.fixed, p.1.toList.take 8 ≠ "/images/".toList := by decide +kernel
    rw [List.lookup_eq_none_iff]
    intro p hp
    rw [bne_iff_ne]
    rintro h
    refine hother p hp ?_
    rw [← h, String.toList_ofList, hstart]
  have hrecipe : Resource.recipe? (pathOfImage name) = none := rfl
  rw [Route.ofPath?, Resource.ofPath?, hfixed, String.toList_ofList, hrecipe]
  rfl

/-- The name of a file is read back from its path. -/
theorem names?_encode (hslash : '/' ∉ name) (hcode : hasCode name = false)
    (hname : String.ofList name ∉ ["", ".", ".."]) :
    Images.names? (.ofList ('/' :: encode pathSet name)) = some [.ofList name] := by
  have hencoded : '/' ∉ encode pathSet name := fun h =>
    (Url.Percent.mem_encode h).elim (fun h => absurd h (by decide)) fun h => hslash h.1
  have hdrop : ('/' :: encode pathSet name).dropWhile (· = '/') = encode pathSet name := by
    rw [List.dropWhile_cons_of_pos (by decide), List.dropWhile_eq_self_iff]
    intro hpos h
    exact hencoded (of_decide_eq_true h ▸ List.getElem_mem hpos)
  have hdecoded : Url.Percent.text? (Url.Percent.decodeText (.ofList (encode pathSet name))) =
      some (.ofList name) := by
    rw [Url.Percent.text?_eq_some_iff, Url.Percent.decodeText_eq, String.toList_ofList,
      String.toList_ofList]
    exact Url.Percent.decode_encoded hcode
  have hhead : name.head? ≠ some '/' := fun h => hslash (List.mem_of_head? h)
  obtain ⟨hempty, hdot, hdots⟩ : String.ofList name ≠ "" ∧ String.ofList name ≠ "." ∧
      String.ofList name ≠ ".." := by
    simpa only [List.mem_cons, List.not_mem_nil, or_false, not_or] using hname
  rw [Images.names?, String.toList_ofList, hdrop, hdecoded]
  simp [Text.splitOn_of_not_mem hslash, hhead, hempty, hdot, hdots]

theorem respond_image {path : Path} {url : String} {rest : String}
    (hget : request.GetsPath site.settings.bodyLimit url) (hroute : Route.ofPath? url = some (.image rest))
    (hnames : Images.names? rest = some path)
    (hfile : site.folder.enter? (Images.location path) = none) :
    respond site request = (Images.respondFile site request path).withHeaders commonHeaders := by
  have hoptions : request.method ≠ "OPTIONS" := by
    rcases hget.method with h | h <;> rw [h] <;> decide
  have hmethod : ¬ (request.method ≠ "GET" ∧ request.method ≠ "HEAD") := by
    rw [not_and_or, not_not, not_not]
    exact hget.method
  rw [respond, if_neg hoptions, hget.isTooLong_eq, if_neg Bool.false_ne_true, respondMethod, hget.path_eq,
    hroute]
  simp only [Images.respond, if_neg hmethod, hnames, hfile, Option.isNone_none, if_true]

/-- A request without headers gets the whole file. -/
theorem respondFile_of_headers_eq_nil {path : Path} {bytes : ByteArray}
    (hread : site.folder.read (Images.location path) = .ok bytes) (hmethod : request.method = "GET")
    (hheaders : request.headers = []) : (Images.respondFile site request path).status = 200 ∧
      (Images.respondFile site request path).body = .bytes bytes := by
  have hheader : ∀ name, request.header? name = none := fun name => by
    rw [Request.header?, hheaders, List.lookup_nil]
  have hrefusal : Images.refusal? site.changedAt request = none := by
    simp [Images.refusal?, Images.moment?, hheader]
  have hrange : Images.range? request = none := by rw [Images.range?, hheader, Option.filter_none]
  have hbody : (if request.method = "HEAD" then Body.empty else .bytes bytes) = .bytes bytes := by
    rw [hmethod, if_neg (by decide)]
  simp only [Images.respondFile, hread, hrefusal, Option.getD_none, Images.part, hrange, hbody,
    and_self]

end Web
end RecipeBook
