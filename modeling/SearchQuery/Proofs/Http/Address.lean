import SearchQuery.Http.Message
import SearchQuery.Proofs.Http.Segments
/-!
# Where messages go

The path of a message is that of the server with one segment for each name of the request, from
which the name can be read back. Names for which that cannot be are `.` and `..`, those with tabs
or line ends, and an empty first name behind a server without a path. With any other names,
different names make different paths.
-/

namespace SearchQuery

/-- The names that the path of a request is made of. -/
def Request.names : Request → List String
  | .search request => [request.index, "_search"]
  | .scroll _ | .clearScroll _ => ["_search", "scroll"]
  | .get request => [request.index, "_doc", request.id]
  | .deleteByQuery request => [request.index, "_delete_by_query"]
  | .index request => [request.index, if request.isPartial then "_update" else "_doc", request.id]
  | .bulk _ => ["_bulk"]

namespace Http

open Url UrlPath

/-- The segments that the names of a request stand behind. -/
def Url.base (server : Url) : List String :=
  match server.path with
  | .opaquePath _ => []
  | .segments path => settled (withoutFinalSlash path)

/-- The request's path is the one of the server and behind it one segment for each name. The name
can be read back from the segment, which nothing in it ends early. -/
structure Addresses (server : Url) (request : Request) (added : List String) : Prop where
  path_eq : (Message.ofRequest server request).url.path = .segments (server.base ++ added)
  read : added.map decoded? = request.names.map some
  whole : ∀ segment ∈ added, ∀ c ∈ segmentEnds, c ∉ segment.toList

/-- Each name of the request can be a segment where it stands. -/
structure Addressable (server : Url) (request : Request) : Prop where
  plain : ∀ name ∈ request.names, IsPlain name
  rooted : request.names.head? = some "" → server.base ≠ []

instance (server : Url) (request : Request) : Decidable (Addressable server request) :=
  decidable_of_iff ((∀ name ∈ request.names, IsPlain name) ∧
      (request.names.head? = some "" → server.base ≠ []))
    ⟨fun ⟨hplain, hrooted⟩ => ⟨hplain, hrooted⟩, fun h => ⟨h.plain, h.rooted⟩⟩

theorem path_ofRequest (server : Url) (request : Request) :
    (Message.ofRequest server request).url.path = (server.extend request.names).path := by
  cases request with
  | search request =>
    rw [Message.ofRequest]
    cases request.scroll <;> rfl
  | index request =>
    rw [Message.ofRequest, Request.names]
    cases request.isPartial <;> rfl
  | scroll | clearScroll | get | deleteByQuery | bulk => rfl

/-- A server that is accepted has a path of segments, and a message goes behind them. -/
theorem exists_path_ofRequest {text : String} {server : Url} (h : serverUrl text = .ok server)
    (request : Request) : ∃ path, server.base = settled path ∧
      (Message.ofRequest server request).url.path
        = .segments (request.names.foldl (addSegment (isSpecial server.scheme)) path) := by
  rw [serverUrl] at h
  split at h
  · exact nomatch h
  · next url _ =>
    split at h
    · exact nomatch h
    · next hpath =>
      obtain rfl := Except.ok.inj h
      cases hsegments : url.path with
      | opaquePath => exact absurd (by rw [hasOpaquePath, hsegments]) hpath
      | segments path =>
        refine ⟨withoutFinalSlash path, ?_, ?_⟩
        · rw [base, hsegments]
        · rw [path_ofRequest, Url.extend, hsegments]

theorem names_ne (request : Request) : request.names ≠ [] ∧ request.names ≠ [""] := by
  cases request <;> exact ⟨List.cons_ne_nil _ _, by simp [Request.names]⟩

theorem Addressable.addresses {text : String} {server : Url} {request : Request}
    (h : Addressable server request) (hserver : serverUrl text = .ok server) :
    Addresses server request (request.names.map (encodedName (isSpecial server.scheme))) := by
  obtain ⟨path, hbase, hpath⟩ := exists_path_ofRequest hserver request
  have hrun := settled_foldl_addSegment (isSpecial server.scheme) path h.plain
    (by rw [← hbase]; exact h.rooted)
  have hlasts : request.names.foldl (addSegment (isSpecial server.scheme)) path ≠ [""] := by
    intro hbare
    rw [hbare] at hrun
    have hnone := (List.append_eq_nil_iff.mp hrun.symm).2
    exact (names_ne request).1 (List.map_eq_nil_iff.mp hnone)
  constructor
  · rw [hpath, hbase, ← hrun, settled_of_ne hlasts]
  · rw [List.map_map]
    refine List.map_congr_left fun name hname => ?_
    rw [Function.comp_apply, decoded?_encodedName,
      keptName_eq_iff.mpr (h.plain name hname).unbroken]
  · intro segment hsegment c hc
    obtain ⟨name, -, rfl⟩ := List.mem_map.mp hsegment
    exact not_mem_encodedName _ name hc

theorem Addresses.addressable {text : String} {server : Url} {request : Request}
    {added : List String} (h : Addresses server request added)
    (hserver : serverUrl text = .ok server) : Addressable server request := by
  obtain ⟨path, hbase, hpath⟩ := exists_path_ofRequest hserver request
  have hfold := UrlPath.segments.inj (hpath.symm.trans h.path_eq)
  have hlasts : request.names.foldl (addSegment (isSpecial server.scheme)) path ≠ [""] := by
    intro hbare
    have hread := h.read
    obtain ⟨-, rfl⟩ | ⟨-, rfl⟩ := List.append_eq_singleton_iff.mp (hfold.symm.trans hbare)
    · exact (names_ne request).2 (List.map_inj_right (fun _ _ => Option.some.inj) |>.mp hread).symm
    · exact (names_ne request).1 (List.map_eq_nil_iff.mp hread.symm)
  rw [hbase, ← settled_of_ne hlasts] at hfold
  obtain ⟨hplain, hrooted⟩ := isPlain_of_foldl_addSegment hfold h.read
  exact ⟨hplain, by rw [hbase]; exact hrooted⟩

/-- Different names make different addresses. -/
theorem Addresses.names_of_path {server : Url} {request other : Request}
    {added otherAdded : List String} (h : Addresses server request added)
    (hother : Addresses server other otherAdded)
    (hpath : (Message.ofRequest server request).url.path.text
      = (Message.ofRequest server other).url.path.text) : request.names = other.names := by
  rw [h.path_eq, hother.path_eq] at hpath
  have hslash : '/' ∈ segmentEnds := by decide
  obtain rfl := segments_of_text (fun segment hsegment => h.whole segment hsegment '/' hslash)
    (fun segment hsegment => hother.whole segment hsegment '/' hslash) hpath
  exact List.map_inj_right (fun _ _ => Option.some.inj) |>.mp (h.read.symm.trans hother.read)

/-- A message goes to exactly the names of its request when each of them can be a segment where it
stands, and not otherwise; and messages to other names have other paths. -/
theorem addresses_iff_addressable {text : String} {server : Url}
    (hserver : serverUrl text = .ok server) (request : Request) :
    ((∃ added, Addresses server request added) ↔ Addressable server request) ∧
      ∀ other, Addressable server request → Addressable server other →
        (Message.ofRequest server request).url.path.text
          = (Message.ofRequest server other).url.path.text → request.names = other.names := by
  refine ⟨⟨?_, fun h => ⟨_, h.addresses hserver⟩⟩, ?_⟩
  · rintro ⟨added, h⟩
    exact h.addressable hserver
  · intro other h hother hpath
    exact (h.addresses hserver).names_of_path (hother.addresses hserver) hpath

/-- A server on this host, with the given path. -/
def localServer (path : List String) : Url :=
  { scheme := "http"
    authority := some
      { username := "", password := none, host := .ipv4 0x7f000001, port := some 9200 }
    path := .segments path
    query := none
    fragment := none }

theorem addresses_iff_addressable_localServer :
    let slashed : Request := .get { index := "posts", id := "a/b?x=1" }
    let unnamed : Request := .get { index := "", id := "" }
    serverUrl "http://127.0.0.1:9200/es/" = .ok (localServer ["es", ""]) ∧
      Addressable (localServer ["es", ""]) slashed ∧ Addressable (localServer ["es", ""]) unnamed ∧
      (∃ added, Addresses (localServer ["es", ""]) slashed added) ∧
      (Message.ofRequest (localServer ["es", ""]) slashed).url.path.text
        = "/es/posts/_doc/a%2Fb%3Fx=1" ∧
      (Message.ofRequest (localServer ["es", ""]) slashed).url.path.text
        ≠ (Message.ofRequest (localServer ["es", ""]) unnamed).url.path.text := by
  intro slashed unnamed
  have hserver : serverUrl "http://127.0.0.1:9200/es/" = .ok (localServer ["es", ""]) := rfl
  have hslashed : Addressable (localServer ["es", ""]) slashed := by decide
  have hunnamed : Addressable (localServer ["es", ""]) unnamed := by decide
  obtain ⟨hiff, hpaths⟩ := addresses_iff_addressable hserver slashed
  refine ⟨hserver, hslashed, hunnamed, hiff.mpr hslashed, rfl, fun hpath => ?_⟩
  exact absurd (hpaths unnamed hslashed hunnamed hpath) (by decide)

/-- The documents `.` and `..` have one address, which is none of a document, and deleting in the
index `..` goes to no index. -/
theorem dots_leave_path :
    let document (id : String) : Request := .get { index := "posts", id }
    let deletion : DeleteRequest :=
      { index := ".."
        body := { source := .all, query := none, postFilter := none, aggregations := none
                  sort := none, offset := none, size := none }
        maxDocs := none, conflicts := none, refresh := none }
    serverUrl "http://127.0.0.1:9200" = .ok (localServer [""]) ∧
      (¬∃ added, Addresses (localServer [""]) (document "..") added) ∧
      (Message.ofRequest (localServer [""]) (document "..")).url.target = "/posts/_doc" ∧
      (Message.ofRequest (localServer [""]) (document ".")).url.target = "/posts/_doc" ∧
      (Message.ofRequest (localServer [""]) (.deleteByQuery deletion)).url.target
        = "/_delete_by_query" := by
  intro document deletion
  have hserver : serverUrl "http://127.0.0.1:9200" = .ok (localServer [""]) := rfl
  refine ⟨hserver, ?_, rfl, rfl, rfl⟩
  rintro ⟨added, h⟩
  exact absurd (h.addressable hserver) (by decide)

end Http

end SearchQuery
