import Mintarr.Lib.PyValue
import Mintarr.Newznab.Feed
import Mintarr.Sab.Requests

/-!
# From an offer to a grab

The link of an offer leads back to `/download`, which names the source anew and answers with a
pointer file.  The file comes back as the upload of an `addfile` request, which is a grab of what
the file points to.  The adapters, their settings and what they accept may change in between.
-/

namespace Mintarr.Newznab

open Lib
open Ingest (ReleaseCandidate)

/-! ## Adapters -/

/-- What the adapters raise. -/
inductive Failure where
  | runtimeError (message : String)
  | valueError (message : String)
  | other
  deriving DecidableEq

/-- An adapter, as the endpoints meet it. -/
structure SourceAdapter extends Adapter where
  shaped : isSourceName name.toList = true
  /-- `normalize_candidate_id`, if there is one. -/
  normalizes : Option (String → Except Failure String)
  /-- No normal id is empty. -/
  normal : ∀ normalize, normalizes = some normalize →
    ∀ rawId sourceId, normalize rawId = .ok sourceId → sourceId ≠ ""
  /-- `title_for_candidate_id`. -/
  titleFor : String → Except Failure String

/-- A call of `normalize_candidate_id`. -/
def SourceAdapter.normalize (source : SourceAdapter) (rawId : String) : Except Failure String :=
  match source.normalizes with
  | some normalize => normalize rawId
  | none => .error .other

/-- The adapters with the settings of the connectors, at one time. -/
structure Sources where
  rows : Connectors.Rows
  adapters : List SourceAdapter

/-- What the endpoints answer where they do not go on. -/
inductive Refusal where
  | response (status : Nat) (body : String)
  /-- An exception gets out. -/
  | raised
  /-- Another part of the server answers. -/
  | elsewhere
  deriving DecidableEq

namespace Sources

/-- `get_adapter`. -/
def getAdapter (sources : Sources) (name : String) : Option SourceAdapter :=
  sources.adapters.find? fun source => source.name = name

/-- The adapter is enabled and in import mode. -/
def Imports (sources : Sources) (source : SourceAdapter) : Prop :=
  source.isEnabled = some true ∧ source.toAdapter.importModeEnabled sources.rows = true

/-- The adapter of a name, where it imports; else what is answered. -/
def importing (sources : Sources) (name : String) (unknown disabled inactive : Refusal) :
    Except Refusal SourceAdapter :=
  match sources.getAdapter name with
  | none => .error unknown
  | some source =>
      match source.isEnabled with
      | none => .error .raised
      | some false => .error disabled
      | some true =>
          if source.toAdapter.importModeEnabled sources.rows then .ok source else .error inactive

end Sources

/-! ## The server -/

/-- What does not change while the server runs. -/
structure Server where
  apiKey : Text
  /-- `html.entities.html5`, which knows the references that `escape` makes. -/
  html5 : Text → Option Text
  ampersand : html5 "amp;".toList = some ['&']
  less : html5 "lt;".toList = some ['<']
  greater : html5 "gt;".toList = some ['>']
  /-- `\d`. -/
  isDigit : Char → Bool
  /-- What a query argument is made of whose bytes are no text. -/
  undecoded : List UInt8 → Text
  /-- `repr` of a string. -/
  repr : String → String
  /-- What `int` says of a text that it does not read. -/
  intError : String → String
  /-- `hash_rel`. -/
  hashRel : String → String
  /-- The size of an album that TIDAL has, and its title, if that can be made. -/
  tidalAlbum : Int → Option (Nat × Option String)
  /-- `_backend_lane_for_category` finds a client. -/
  backendLane : String → Bool

/-- A request, as it is sent. -/
structure HttpRequest where
  path : Text
  query : Text
  /-- The header `X-Api-Key`. -/
  apiKeyHeader : Option Text

/-- The request for a link below the base URL. -/
def requestFor (baseUrl link : Text) : HttpRequest :=
  let target := link.drop baseUrl.length
  { path := target.takeWhile fun c => c ≠ '?', query := (target.dropWhile fun c => c ≠ '?').tail,
    apiKeyHeader := none }

def isAscii (text : Text) : Bool := text.all fun c => c.toNat < 0x80

/-- The parameters of a path of the form `/download/<source>/<encoded_source_id>.nzb`. -/
def downloadRoute (path : Text) : Option (Text × Text) :=
  match (Utf8.decodeReplace (Percent.unquoteFrom 0 path)).splitOn '/' with
  | [start, endpoint, source, file] =>
      if start = [] ∧ endpoint = "download".toList ∧ source ≠ [] ∧ ".nzb".toList <:+ file ∧
          file.rdrop 4 ≠ [] then some (source, file.rdrop 4)
      else none
  | _ => none

/-- `_SOURCE_NAME_RE.match`; its `$` also stands before a newline at the end. -/
def matchesSourceName (source : Text) : Bool :=
  isSourceName source || (source.getLast? = some '\n' && isSourceName source.dropLast)

namespace Server

variable (server : Server)

/-- `request.args.get(key)`. -/
def queryArg (query key : Text) : Option Text :=
  ((query.splitOn '&').find? fun pair =>
    pair ≠ [] ∧ Percent.unquotePlus server.undecoded (pair.takeWhile fun c => c ≠ '=') = key).map
      fun pair => Percent.unquotePlus server.undecoded (pair.dropWhile fun c => c ≠ '=').tail

/-- `require_apikey_check`; `compare_digest` raises where a key is not ASCII. -/
def requireApikeyCheck (request : HttpRequest) : Except Refusal Unit :=
  let provided := (((server.queryArg request.query "apikey".toList).filter fun key => key ≠ []).or
    request.apiKeyHeader).getD []
  if !isAscii provided || !isAscii server.apiKey then .error .raised
  else if provided = server.apiKey then .ok ()
  else .error (.response 401 "unauthorized")

/-- `_canonicalize_source_id`. -/
def canonicalizeSourceId (source : SourceAdapter) (sourceId : String) : Except Failure String :=
  if source.name ∈ ["local", "soulseek", "sab_usenet", "qbittorrent_torrent"] then
    source.normalize sourceId
  else if source.name = "tidal" then
    match Py.readInt (Py.str sourceId) with
    | some albumId => .ok (toString albumId)
    | none => .error (.valueError (server.intError sourceId))
  else .ok sourceId

/-- `_validate_source_name` and `_b64url_decode`, and what they raise answered. -/
def decodeParameters (source encodedSourceId : Text) : Except Refusal Text :=
  if !matchesSourceName source then
    .error (.response 400 ("invalid source name: " ++ server.repr (String.ofList source)))
  else
    match b64urlDecode encodedSourceId with
    | .ok sourceId => .ok sourceId
    | .error (.valueError message) =>
        .error (.response 400 ("bad encoded source_id: " ++ message))
    -- the decoder turns every other error into a `ValueError`
    | .error _ => .error .raised

/-- `download_nzb`, at the second `now`. -/
def downloadNzb (sources : Sources) (now : Nat) (request : HttpRequest) : Except Refusal Text :=
  match downloadRoute request.path with
  | none => .error .elsewhere
  | some (source, encodedSourceId) => do
      server.requireApikeyCheck request
      let sourceId ← server.decodeParameters source encodedSourceId
      let adapter ← sources.importing (String.ofList source) (.response 404 "unknown source")
        (.response 503 "source disabled") (.response 503 "source not in import mode")
      match server.canonicalizeSourceId adapter (String.ofList sourceId) with
      | .ok sourceId => .ok (nzbPointer now source sourceId.toList)
      | .error (.runtimeError message) | .error (.valueError message) =>
          .error (.response 400 ("invalid source_id: " ++ message))
      | .error .other => .error .raised

/-- `_addurl_canonicalize`, as the request that is made of what it returns. -/
def addurlCanonicalize (source : SourceAdapter) (category rawId : String) :
    Except Failure Sab.Request :=
  let request (sourceId item title : String) : Sab.Request :=
    { source := source.name, item, sourceId := .str sourceId, title, category, size := 0 }
  let tagged (sourceId : String) := "[" ++ source.name.toUpper ++ "] " ++ sourceId
  if source.name = "tidal" then
    match Py.readInt (Py.str rawId) with
    | none => .error (.runtimeError ("tidal raw_id must be int: " ++ server.repr rawId))
    | some albumId =>
        let album := server.tidalAlbum albumId
        .ok
          { source := source.name, item := toString albumId, sourceId := .int albumId
            title := (album.bind Prod.snd).getD ("TIDAL album " ++ toString albumId)
            category, size := (album.map Prod.fst).getD 0 }
  else if source.name = "local" then do
    let rel ← source.normalize rawId
    .ok (request rel (server.hashRel rel) ("[Local] " ++ rel))
  else if source.name = "soulseek" then do
    let sourceId ← source.normalize rawId
    let title ← source.titleFor sourceId
    .ok (request sourceId (server.hashRel sourceId) title)
  else
    match source.normalizes with
    | some normalize => do
        let sourceId ← normalize rawId
        .ok (request sourceId (server.hashRel sourceId) (tagged sourceId))
    | none => .ok (request rawId rawId (tagged rawId))

/-- `sab` with the mode `addfile` and one file, between the check of the API key and the look for an
active job. -/
def addfile (sources : Sources) (category name : String) (body : List UInt8) :
    Except Refusal Sab.Request :=
  if server.backendLane category then .error .elsewhere
  else
    match parseSourceName server.html5 server.isDigit
        (sources.adapters.map fun source => source.name.toList) name.toList [some body] with
    | none => .error (.response 400 "no recognized source prefix")
    | some (source, rawId) => do
        let source := String.ofList source
        let adapter ← sources.importing source (.response 400 ("unknown source: " ++ source))
          (.response 503 ("source not enabled: " ++ source))
          (.response 503 ("source not in import mode: " ++ source))
        match server.addurlCanonicalize adapter category (String.ofList rawId) with
        | .ok request => .ok request
        | .error (.runtimeError message) => .error (.response 400 message)
        -- only `RuntimeError` is caught
        | .error (.valueError _) | .error .other => .error .raised

/-- The link of an offer is followed, and what comes back is uploaded. -/
def grab (before after : Sources) (now : Nat) (baseUrl : Text) (category name : String)
    (candidate : ReleaseCandidate) : Except Refusal Sab.Request := do
  let request := requestFor baseUrl (addurlCallbackUrl baseUrl server.apiKey candidate)
  let pointer ← server.downloadNzb before now request
  server.addfile after category name (Utf8.encode pointer)

end Server

/-! ## The link is read -/

/-- The path of a link. -/
def linkPath (source sourceId : Text) : Text :=
  "/download/".toList ++ (source ++ ("/".toList ++ (b64urlEncode sourceId ++ ".nzb".toList)))

/-- The query of a link. -/
def linkQuery (apiKey : Text) : Text := "apikey".toList ++ '=' :: Percent.quotePlus apiKey

/-- A character of the path of a link. -/
def isPathChar (c : Char) : Bool := c.isAlphanum || c ∈ "_-./".toList

section Link

variable {server : Server} {baseUrl apiKey source sourceId : Text}

theorem isSourceName_spec (shaped : isSourceName source = true) :
    source ≠ [] ∧ ∀ c ∈ source, c.isAlphanum = true ∨ c = '_' := by
  rw [isSourceName, Bool.and_eq_true, decide_eq_true_eq, List.all_eq_true] at shaped
  refine ⟨shaped.1, ?_⟩
  intro c listed
  have found := shaped.2 c listed
  rw [Bool.or_eq_true, Bool.or_eq_true, decide_eq_true_eq] at found
  have parts : c.isAlphanum = ((c.isUpper || c.isLower) || c.isDigit) := rfl
  rw [parts, Bool.or_eq_true, Bool.or_eq_true]
  rcases found with (lower | digit) | line
  · exact .inl (.inl (.inr lower))
  · exact .inl (.inr digit)
  · exact .inr line

theorem isPathChar_linkPath (shaped : isSourceName source = true) :
    ∀ c ∈ linkPath source sourceId, isPathChar c = true := by
  intro c listed
  delta linkPath at listed
  simp only [List.mem_append] at listed
  rcases listed with fixed | named | fixed | token | fixed
  · exact List.all_eq_true.mp (by decide) c fixed
  · rcases (isSourceName_spec shaped).2 c named with letter | rfl
    · rw [isPathChar, letter, Bool.true_or]
    · rfl
  · exact List.all_eq_true.mp (by decide) c fixed
  · have url := isUrl_b64urlEncode sourceId c token
    rw [Base64.isUrl, Bool.or_eq_true, Bool.or_eq_true, decide_eq_true_eq,
      decide_eq_true_eq] at url
    rcases url with (letter | rfl) | rfl
    · rw [isPathChar, letter, Bool.true_or]
    · rfl
    · rfl
  · exact List.all_eq_true.mp (by decide) c fixed

theorem not_mem_linkPath {c : Char} (shaped : isSourceName source = true)
    (special : isPathChar c = false) : c ∉ linkPath source sourceId := by
  intro listed
  rw [isPathChar_linkPath shaped c listed] at special
  cases special

/-- The path of the request for a link ends at the question mark. -/
theorem requestFor_addurlCallbackUrl {candidate : ReleaseCandidate}
    (shaped : isSourceName candidate.sourceType.toList = true) :
    requestFor baseUrl (addurlCallbackUrl baseUrl apiKey candidate) =
      { path := linkPath candidate.sourceType.toList candidate.sourceId.toList,
        query := linkQuery apiKey, apiKeyHeader := none } := by
  have quoted : Percent.quotePlus candidate.sourceType.toList = candidate.sourceType.toList := by
    apply Percent.quotePlus_eq_self
    intro c listed
    rcases (isSourceName_spec shaped).2 c listed with letter | rfl
    · exact .inl letter
    · exact .inr (by decide)
  have target : addurlCallbackUrl baseUrl apiKey candidate = baseUrl ++
      (linkPath candidate.sourceType.toList candidate.sourceId.toList ++
        '?' :: linkQuery apiKey) := by
    rw [addurlCallbackUrl, quoted]
    delta linkPath linkQuery
    simp only [List.append_assoc]
    rfl
  have path : ∀ c ∈ linkPath candidate.sourceType.toList candidate.sourceId.toList,
      decide (c ≠ '?') = true := by
    intro c listed
    apply decide_eq_true
    rintro rfl
    exact not_mem_linkPath shaped (by decide) listed
  rw [requestFor, target, List.drop_left, List.takeWhile_append_of_pos path,
    List.dropWhile_append_of_pos path, List.takeWhile_cons_of_neg (by decide),
    List.dropWhile_cons_of_neg (by decide), List.append_nil, List.tail_cons]

theorem b64urlEncode_eq_nil_iff : b64urlEncode sourceId = [] ↔ sourceId = [] := by
  constructor
  · intro empty
    by_contra nonempty
    have decoded := b64urlDecode_encode nonempty
    rw [empty] at decoded
    cases decoded
  · rintro rfl
    rfl

/-- The path of a link has four segments. -/
theorem splitOn_linkPath (shaped : isSourceName source = true) :
    (linkPath source sourceId).splitOn '/' =
      [[], "download".toList, source, b64urlEncode sourceId ++ ".nzb".toList] := by
  have joined : linkPath source sourceId = ['/'].intercalate
      [[], "download".toList, source, b64urlEncode sourceId ++ ".nzb".toList] := by
    delta linkPath
    simp only [List.intercalate, List.intersperse, List.flatten_cons, List.flatten_nil,
      List.nil_append, List.append_nil]
    rfl
  have named : '/' ∉ source := by
    intro slash
    rcases (isSourceName_spec shaped).2 _ slash with letter | line
    · exact absurd letter (by decide)
    · exact absurd line (by decide)
  have token : '/' ∉ b64urlEncode sourceId ++ ".nzb".toList := by
    rw [List.mem_append, not_or]
    exact ⟨fun slash => absurd (isUrl_b64urlEncode sourceId _ slash) (by decide), by decide⟩
  rw [joined]
  apply List.splitOn_intercalate
  · rw [List.forall_mem_cons, List.forall_mem_cons, List.forall_mem_cons,
      List.forall_mem_singleton]
    exact ⟨List.not_mem_nil, by decide, named, token⟩
  · exact List.cons_ne_nil _ _

/-- The route takes the source and the token out of the path. -/
theorem downloadRoute_linkPath (shaped : isSourceName source = true) :
    downloadRoute (linkPath source sourceId) =
      if sourceId = [] then none else some (source, b64urlEncode sourceId) := by
  have bytes := @Percent.unquoteFrom_of_not_mem [] (linkPath source sourceId)
    (not_mem_linkPath shaped (by decide))
  rw [List.append_nil, Percent.unquoteFrom, List.append_nil] at bytes
  have stem : (b64urlEncode sourceId ++ ".nzb".toList).rdrop 4 = b64urlEncode sourceId :=
    List.rdrop_append_length
  have named := (isSourceName_spec shaped).1
  rw [downloadRoute, bytes, Utf8.decodeReplace_encode, splitOn_linkPath shaped]
  dsimp only
  rw [stem]
  by_cases empty : sourceId = []
  · rw [if_pos empty, if_neg]
    rintro ⟨_, _, _, _, token⟩
    exact token (b64urlEncode_eq_nil_iff.mpr empty)
  · have token := mt b64urlEncode_eq_nil_iff.mp empty
    rw [if_neg empty, if_pos ⟨rfl, rfl, named, List.suffix_append _ _, token⟩]

/-- The key that a link carries is read. -/
theorem queryArg_linkQuery :
    server.queryArg (linkQuery apiKey) "apikey".toList = some apiKey := by
  have cut : (linkQuery apiKey).splitOn '&' = [linkQuery apiKey] := by
    rw [List.splitOn_eq_splitOnP, List.splitOnP_eq_singleton]
    intro c listed
    apply beq_false_of_ne
    rintro rfl
    rcases List.mem_append.mp listed with fixed | later
    · exact absurd fixed (by decide)
    · rcases List.mem_cons.mp later with same | quoted
      · exact absurd same (by decide)
      · exact absurd (Percent.isQuoted_of_mem_quotePlus quoted) (by decide)
  have name : ∀ c ∈ "apikey".toList, decide (c ≠ '=') = true := List.all_eq_true.mp (by decide)
  have begins : ((linkQuery apiKey).takeWhile fun c => c ≠ '=') = "apikey".toList := by
    delta linkQuery
    rw [List.takeWhile_append_of_pos name, List.takeWhile_cons_of_neg (by decide),
      List.append_nil]
  have ends : ((linkQuery apiKey).dropWhile fun c => c ≠ '=').tail = Percent.quotePlus apiKey := by
    delta linkQuery
    rw [List.dropWhile_append_of_pos name, List.dropWhile_cons_of_neg (by decide),
      List.tail_cons]
  have key : Percent.unquotePlus server.undecoded "apikey".toList = "apikey".toList := by
    have quoted : Percent.quotePlus "apikey".toList = "apikey".toList := by decide
    rw [← quoted, Percent.unquotePlus_quotePlus, quoted]
  have nonempty : linkQuery apiKey ≠ [] :=
    List.append_ne_nil_of_right_ne_nil _ (List.cons_ne_nil _ _)
  have found : decide (linkQuery apiKey ≠ [] ∧ Percent.unquotePlus server.undecoded
      ((linkQuery apiKey).takeWhile fun c => c ≠ '=') = "apikey".toList) = true := by
    rw [begins, key]
    exact decide_eq_true ⟨nonempty, rfl⟩
  rw [Server.queryArg, cut, List.find?_singleton, if_pos found, Option.map_some, ends,
    Percent.unquotePlus_quotePlus]

/-- With its own key a request is let in, where the key can be compared. -/
theorem requireApikeyCheck_linkQuery {path : Text} :
    server.requireApikeyCheck
        { path, query := linkQuery server.apiKey, apiKeyHeader := none } =
      if isAscii server.apiKey then .ok () else .error .raised := by
  have provided : (((some server.apiKey).filter fun key => key ≠ []).or none).getD [] =
      server.apiKey := by
    by_cases empty : server.apiKey = []
    · simp [Option.filter, empty]
    · simp [Option.filter, empty]
  rw [Server.requireApikeyCheck]
  dsimp only
  rw [queryArg_linkQuery, provided, if_pos rfl]
  cases isAscii server.apiKey with
  | false => rfl
  | true => rfl

end Link

/-! ## A grab -/

section Grab

variable {server : Server} {before after : Sources} {first second : SourceAdapter}
variable {candidate : ReleaseCandidate} {name category : String}

theorem Sources.shaped_of_getAdapter (was : before.getAdapter name = some first) :
    isSourceName name.toList = true := by
  rw [Sources.getAdapter] at was
  have named : first.name = name := by simpa using List.find?_some was
  rw [← named]
  exact first.shaped

theorem Sources.importing_eq_ok_iff {unknown disabled inactive : Refusal} :
    before.importing name unknown disabled inactive = .ok first ↔
      before.getAdapter name = some first ∧ before.Imports first := by
  rw [Sources.importing]
  cases before.getAdapter name with
  | none => simp
  | some source =>
      dsimp only
      rw [Option.some.injEq]
      constructor
      · intro answer
        cases enabled : source.isEnabled with
        | none =>
            rw [enabled] at answer
            cases answer
        | some on =>
            cases on with
            | false =>
                rw [enabled] at answer
                cases answer
            | true =>
                rw [enabled] at answer
                dsimp only at answer
                split_ifs at answer with imports
                cases answer
                exact ⟨rfl, enabled, imports⟩
      · rintro ⟨rfl, enabled, imports⟩
        rw [enabled]
        exact if_pos imports

theorem canonicalizeSourceId_ne_empty {rawId sourceId : String} (nonempty : rawId ≠ "")
    (canonical : server.canonicalizeSourceId first rawId = .ok sourceId) : sourceId ≠ "" := by
  rw [Server.canonicalizeSourceId] at canonical
  split_ifs at canonical with normalized numeric
  · rw [SourceAdapter.normalize] at canonical
    cases normalizes : first.normalizes with
    | none =>
        rw [normalizes] at canonical
        cases canonical
    | some normalize =>
        rw [normalizes] at canonical
        exact first.normal normalize normalizes rawId sourceId canonical
  · cases number : Py.readInt (Py.str rawId) with
    | none =>
        rw [number] at canonical
        cases canonical
    | some albumId =>
        rw [number] at canonical
        cases canonical
        cases albumId with
        | ofNat value => exact Nat.repr_ne_empty
        | negSucc value =>
            have spelled : toString (Int.negSucc value) = "-" ++ Nat.repr (value + 1) := rfl
            rw [spelled]
            simp
  · cases canonical
    exact nonempty

/-- Who follows a link gets the pointer to what the id of the offer has become. -/
theorem downloadNzb_eq_ok_iff {now : Nat} {baseUrl pointer : Text}
    (was : before.getAdapter candidate.sourceType = some first) :
    server.downloadNzb before now
        (requestFor baseUrl (addurlCallbackUrl baseUrl server.apiKey candidate)) = .ok pointer ↔
      isAscii server.apiKey = true ∧ candidate.sourceId ≠ "" ∧ before.Imports first ∧
        ∃ sourceId, server.canonicalizeSourceId first candidate.sourceId = .ok sourceId ∧
          nzbPointer now candidate.sourceType.toList sourceId.toList = pointer := by
  have shaped := Sources.shaped_of_getAdapter was
  rw [requestFor_addurlCallbackUrl shaped, Server.downloadNzb]
  dsimp only
  rw [downloadRoute_linkPath shaped]
  by_cases empty : candidate.sourceId = ""
  · rw [if_pos (by rw [empty]; rfl)]
    simp [empty]
  · have nonempty : candidate.sourceId.toList ≠ [] := by simpa using empty
    have decoded : server.decodeParameters candidate.sourceType.toList
        (b64urlEncode candidate.sourceId.toList) = .ok candidate.sourceId.toList := by
      rw [Server.decodeParameters, matchesSourceName, shaped, Bool.true_or,
        b64urlDecode_encode nonempty]
      rfl
    rw [if_neg nonempty]
    simp only [bind_eq_ok_iff, requireApikeyCheck_linkQuery, decoded,
      Sources.importing_eq_ok_iff, String.ofList_toList, was]
    constructor
    · rintro ⟨_, checked, _, same, adapter, ⟨registered, imports⟩, answer⟩
      cases same
      cases registered
      split_ifs at checked with ascii
      rw [String.ofList_toList] at answer
      cases canonical : server.canonicalizeSourceId first candidate.sourceId with
      | ok sourceId =>
          rw [canonical] at answer
          cases answer
          exact ⟨ascii, empty, imports, sourceId, rfl, rfl⟩
      | error failure =>
          rw [canonical] at answer
          cases failure with
          | runtimeError message => cases answer
          | valueError message => cases answer
          | other => cases answer
    · rintro ⟨ascii, _, imports, sourceId, canonical, rfl⟩
      refine ⟨(), if_pos ascii, _, rfl, first, ⟨rfl, imports⟩, ?_⟩
      rw [String.ofList_toList, canonical]

/-- An upload of a pointer is a grab of what it points to. -/
theorem addfile_eq_ok_iff {now : Nat} {sourceId : String} {request : Sab.Request}
    (found : after.getAdapter candidate.sourceType = some second) (nonempty : sourceId ≠ "")
    (unprefixed : ∀ source ∈ after.adapters, ¬ source.name.toList ++ [':'] <+: name.toList) :
    server.addfile after category name
        (Utf8.encode (nzbPointer now candidate.sourceType.toList sourceId.toList)) = .ok request ↔
      server.backendLane category = false ∧ after.Imports second ∧
        server.addurlCanonicalize second category sourceId = .ok request := by
  have named := (isSourceName_spec (Sources.shaped_of_getAdapter found)).1
  have identified : sourceId.toList ≠ [] := by simpa using nonempty
  have direct : (after.adapters.map fun source => source.name.toList).find?
      (fun adapter => (adapter ++ [':']).isPrefixOf name.toList) = none := by
    rw [List.find?_eq_none]
    intro adapter listed prefixed
    obtain ⟨source, own, rfl⟩ := List.mem_map.mp listed
    exact unprefixed source own (List.isPrefixOf_iff_prefix.mp prefixed)
  have upload := @parseUpload_nzbPointer server.html5 server.isDigit now _ _ server.ampersand
    server.less server.greater named identified
  rw [Server.addfile, parseSourceName, direct]
  cases lane : server.backendLane category with
  | true => simp
  | false =>
      simp only [List.findSome?_cons, upload, Bool.false_eq_true, if_false,
        bind_eq_ok_iff, Sources.importing_eq_ok_iff, String.ofList_toList, found, true_and]
      constructor
      · rintro ⟨adapter, ⟨registered, imports⟩, answer⟩
        cases registered
        cases canonical : server.addurlCanonicalize second category sourceId with
        | ok grabbed =>
            rw [canonical] at answer
            cases answer
            exact ⟨imports, rfl⟩
        | error failure =>
            rw [canonical] at answer
            cases failure with
            | runtimeError message => cases answer
            | valueError message => cases answer
            | other => cases answer
      · rintro ⟨imports, canonical⟩
        refine ⟨second, ⟨rfl, imports⟩, ?_⟩
        rw [canonical]

end Grab

/-- A server without TIDAL and without a backend. -/
def plainServer : Server where
  apiKey := "secret".toList
  html5 := fewReferences
  ampersand := by decide
  less := by decide
  greater := by decide
  isDigit := Char.isDigit
  undecoded := fun _ => []
  repr := id
  intError := id
  hashRel := fun _ => "806f8b53f4ec"
  tidalAlbum := fun _ => none
  backendLane := fun _ => false

/-- The adapter of a directory with one album. -/
def immunitySource : SourceAdapter where
  name := "local"
  isEnabled := some true
  connector := none
  search := fun _ _ => some []
  shaped := by decide
  normalizes := some fun rel =>
    if rel = "Immunity" then .ok rel else .error (.runtimeError "local path must be relative")
  normal := by
    intro normalize same rawId sourceId kept
    cases same
    dsimp only at kept
    split_ifs at kept with rel
    cases kept
    rw [rel]
    decide
  titleFor := fun _ => .error .other

def immunitySources : Sources where
  rows := Connectors.noOverrides
  adapters := [immunitySource]

def immunityCandidate : ReleaseCandidate where
  sourceType := "local"
  sourceId := "Immunity"
  title := "Immunity"
  artist := ""
  album := "Immunity"
  year := none
  qualityTag := "FLAC"
  sizeBytes := 0
  downloadUrl := "local:Immunity"
  priority := 30

end Mintarr.Newznab
