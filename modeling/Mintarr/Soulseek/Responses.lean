import Mintarr.Lib.PyValue

/-!
# Search results of slskd

How the answers of peers to a search become release candidates: the files of a response are
grouped by their remote folder, every folder is sorted and cut, and what is left is written to
the candidate cache under a token, which is the candidate's id.
-/

namespace Mintarr.Soulseek

open Lib.Py

/-! ## Data -/

/-- The limits of `SoulseekCompletedAdapter`; no `max_bytes` is zero. -/
structure Settings where
  minTracks : Nat
  maxFiles : Nat
  maxBytes : Nat
  searchResponseLimit : Nat
  deriving DecidableEq, Repr

/-- What is searched for. -/
structure Search where
  searchText : Str
  artist : Str
  album : Str
  year : Option Int
  deriving DecidableEq, Repr

/-- Functions of Python and its library on peers' data. -/
structure Python where
  /-- `str` of a value that is not a string. -/
  repr : PyValue → Str
  /-- `str.lower`. -/
  lower : Str → Str
  /-- `hashlib.sha256(raw).hexdigest()[:24]` of a dumped payload. -/
  digest : PyValue → Str

/-- `SlskdDownloadFile`. -/
structure SlskdDownloadFile where
  filename : Str
  size : Int
  deriving DecidableEq, Repr

/-- `SlskdDownloadRequest`. -/
structure SlskdDownloadRequest where
  username : Str
  files : List SlskdDownloadFile
  title : Str
  searchText : Str
  deriving DecidableEq, Repr

/-- `ReleaseCandidate`, with `source_type` "soulseek". -/
structure ReleaseCandidate where
  sourceId : Str
  title : Str
  artist : Str
  album : Str
  year : Option Int
  qualityTag : Str
  sizeBytes : Int
  downloadUrl : Str
  priority : Nat
  username : Str
  fileCount : Nat
  deriving DecidableEq, Repr

/-- An object of a response. -/
abbrev Fields := List (Str × PyValue)

/-! ## Remote names -/

/-- `_SUPPORTED_AUDIO_SUFFIXES`. -/
def supportedAudioSuffixes : List Str := [str ".flac", str ".m4a"]

/-- `Path(filename).suffix.lower()`. -/
def lowerSuffix (python : Python) (filename : Str) : Str :=
  python.lower (suffixOf (nameOf filename))

/-- `_remote_parent`. -/
def remoteParent (filename : Str) : Str :=
  let normalized := slashed filename
  if .char '/' ∈ normalized then
    ((normalized.reverse.dropWhile (· ≠ .char '/')).drop 1).reverse
  else []

/-- The first run of digits. -/
def firstDigits (name : Str) : Str :=
  (name.dropWhile fun c => !c.isdigit).takeWhile CodePoint.isdigit

/-- `_remote_filename_sort_key`; nothing where it raises. -/
def remoteFilenameSortKey (python : Python) (filename : Str) : Option (Int × Str) :=
  let name := nameOf (slashed filename)
  let digits := firstDigits name
  let number := if digits = [] then some 9999 else readInt digits
  number.map fun number => (number, python.lower name)

/-- `first <= second` of two sort keys. -/
def keyLe (first second : Int × Str) : Bool :=
  decide (first.1 < second.1) || (first.1 = second.1 && le first.2 second.2)

/-- `_display_album`. -/
def displayAlbum (parent : Str) : Str :=
  let clean := stripOf (· = .char '/') (slashed parent)
  if clean = [] then str "Download"
  else (clean.reverse.takeWhile (· ≠ .char '/')).reverse

/-- `_candidate_title`. -/
def candidateTitle (search : Search) (parent : Str) : Str :=
  if search.artist ≠ [] && search.album ≠ [] then search.artist ++ str " - " ++ search.album
  else if search.artist ≠ [] then search.artist ++ str " - " ++ displayAlbum parent
  else displayAlbum parent

/-! ## Folders -/

/-- `str(file_info.get("filename") or "")`. -/
def filename (python : Python) (fileInfo : Fields) : Str :=
  ((PyValue.get fileInfo "filename").orElse (.str [])).toStr python.repr

/-- `int(file_info.get("size") or 0)`; nothing where it raises. -/
def size (fileInfo : Fields) : Option Int := ((PyValue.get fileInfo "size").orElse (.int 0)).toInt

/-- `for item in value or []`; nothing where that raises. -/
def iterate (value : PyValue) : Option (List PyValue) :=
  if !value.truthy then some []
  else
    match value with
    | .list items => some items
    | .str text => some (text.map fun c => .str [c])
    | .dict fields => some (fields.map fun field => .str field.1)
    | _ => none

/-- A file is put into its folder; nothing where it is not an object. -/
def groupFile (python : Python) (grouped : List (Str × List Fields)) (fileInfo : PyValue) :
    Option (List (Str × List Fields)) :=
  match fileInfo with
  | .dict fields =>
      let name := strip (filename python fields)
      if name = [] || lowerSuffix python name ∉ supportedAudioSuffixes then some grouped
      else
        let parent := remoteParent name
        some (PyValue.setItem grouped parent ((grouped.lookup parent).getD [] ++ [fields]))
  | _ => none

/-- The files of a folder in the order of their sort keys; nothing where a key raises. -/
def sortFiles (python : Python) (files : List Fields) : Option (List Fields) :=
  (files.mapM fun file =>
      (remoteFilenameSortKey python (filename python file)).map fun key => (key, file)).map
    fun keyed => (keyed.mergeSort fun first second => keyLe first.1 second.1).map (·.2)

/-- The file to ask for. -/
def downloadFile (python : Python) (fileInfo : Fields) : Option SlskdDownloadFile :=
  (size fileInfo).map fun size => { filename := filename python fileInfo, size }

/-- The sum of the sizes. -/
def totalSize (files : List SlskdDownloadFile) : Int :=
  files.foldl (fun total file => total + file.size) 0

/-- What a folder is passed over for, or asked for. -/
inductive Folder where
  | skipped
  | asked (request : SlskdDownloadRequest)

/-- The request for a folder; nothing where that raises. -/
def folderRequest (settings : Settings) (python : Python) (search : Search) (username parent : Str)
    (files : List Fields) : Option Folder :=
  if files.length < settings.minTracks then some .skipped
  else
    match sortFiles python files with
    | none => none
    | some sorted =>
        match (sorted.take settings.maxFiles).mapM (downloadFile python) with
        | none => none
        | some files =>
            if settings.maxBytes ≠ 0 && totalSize files > settings.maxBytes then some .skipped
            else
              some (.asked
                { username, files
                  title := candidateTitle search parent
                  searchText := search.searchText })

/-! ## The candidate cache -/

/-- The JSON document in the cache file, if there is one. -/
abbrev Cache := Option PyValue

/-- `_slskd_request_payload`. -/
def slskdRequestPayload (request : SlskdDownloadRequest) : PyValue :=
  .dict
    [(str "v", .int 1), (str "u", .str request.username), (str "t", .str request.title),
      (str "q", .str request.searchText),
      (str "f", .list (request.files.map fun item =>
        .dict [(str "filename", .str item.filename), (str "size", .int item.size)]))]

/-- The dumped payload can be encoded as UTF-8. -/
def SlskdDownloadRequest.encodable (request : SlskdDownloadRequest) : Bool :=
  Lib.Py.encodable request.username && Lib.Py.encodable request.title &&
    Lib.Py.encodable request.searchText &&
    request.files.all fun file => Lib.Py.encodable file.filename

/-- `_store_slskd_request`. -/
def storeSlskdRequest (token : Str) (payload : PyValue) (cache : Cache) : Cache :=
  let existing :=
    match cache with
    | some (.dict fields) => fields
    | _ => []
  some (.dict (PyValue.setItem existing token payload))

/-- `_SLSKD_PREFIX`. -/
def slskdPrefix : Str := str "slskd:"

/-- `_encode_slskd_source_id`; nothing where it raises. -/
def encodeSlskdSourceId (python : Python) (request : SlskdDownloadRequest) (cache : Cache) :
    Option (Str × Cache) :=
  if request.encodable then
    let payload := slskdRequestPayload request
    let token := python.digest payload
    some (slskdPrefix ++ token, storeSlskdRequest token payload cache)
  else none

/-! ## Candidates -/

/-- The candidate of a request. -/
def releaseCandidate (python : Python) (search : Search) (parent sourceId : Str)
    (request : SlskdDownloadRequest) : ReleaseCandidate :=
  let quality :=
    if request.files.all fun file => lowerSuffix python file.filename = str ".flac" then
      str "FLAC"
    else str "FLAC/M4A"
  { sourceId
    title := request.title ++ str " (" ++ quality ++ str ") [Soulseek]"
    artist := if search.artist ≠ [] then search.artist else str "Soulseek"
    album := if search.album ≠ [] then search.album else displayAlbum parent
    year := search.year
    qualityTag := quality
    sizeBytes := totalSize request.files
    downloadUrl := str "soulseek:" ++ sourceId
    priority := 10
    username := request.username
    fileCount := request.files.length }

/-- What the loop has found. -/
structure Progress where
  candidates : List ReleaseCandidate
  seen : List Str
  cache : Cache

/-- How the loop ends before its last response. -/
inductive Exit where
  | raised
  | returned (progress : Progress)

/-- One folder of a response. -/
def addFolder (settings : Settings) (python : Python) (search : Search) (username : Str)
    (progress : Progress) (folder : Str × List Fields) : Except Exit Progress :=
  match folderRequest settings python search username folder.1 folder.2 with
  | none => .error .raised
  | some .skipped => .ok progress
  | some (.asked request) =>
      match encodeSlskdSourceId python request progress.cache with
      | none => .error .raised
      | some (sourceId, cache) =>
          if sourceId ∈ progress.seen then .ok { progress with cache }
          else
            let found : Progress :=
              { candidates := progress.candidates ++
                  [releaseCandidate python search folder.1 sourceId request]
                seen := sourceId :: progress.seen
                cache }
            if found.candidates.length ≥ settings.searchResponseLimit then
              .error (.returned found)
            else .ok found

/-- `str(response.get("username") or response.get("user") or "").strip()`. -/
def username (python : Python) (response : Fields) : Str :=
  strip ((((PyValue.get response "username").orElse (PyValue.get response "user")).orElse
    (.str [])).toStr python.repr)

/-- The folders of a response. -/
def groupFiles (python : Python) (response : Fields) : Option (List (Str × List Fields)) :=
  (iterate (PyValue.get response "files")).bind fun files =>
    files.foldlM (groupFile python) []

/-- One response. -/
def addResponse (settings : Settings) (python : Python) (search : Search) (progress : Progress)
    (response : PyValue) : Except Exit Progress :=
  match response with
  | .dict response =>
      if username python response = [] then .ok progress
      else
        match groupFiles python response with
        | none => .error .raised
        | some grouped =>
            grouped.foldlM (addFolder settings python search (username python response)) progress
  | _ => .error .raised

/-- `_responses_to_candidates`: the candidates and the cache; nothing where it raises. -/
def responsesToCandidates (settings : Settings) (python : Python) (search : Search)
    (responses : List PyValue) (cache : Cache) : Option (List ReleaseCandidate × Cache) :=
  match responses.foldlM (addResponse settings python search)
      { candidates := [], seen := [], cache } with
  | .ok progress => some (progress.candidates, progress.cache)
  | .error (.returned progress) => some (progress.candidates, progress.cache)
  | .error .raised => none

end Mintarr.Soulseek
