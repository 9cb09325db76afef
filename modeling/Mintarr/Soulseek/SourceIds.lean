import Mintarr.Soulseek.Isolation

/-!
# Source ids of candidates

The id of a candidate is the token of its request in the candidate cache.  Reading it back
checks and cleans the request once more, and cleans what the writer left as the peer sent it:
the names of the files.
-/

namespace Mintarr.Soulseek

open Lib Lib.Py

/-! ## Reading -/

/-- How reading an id fails. -/
inductive DecodeError where
  /-- `RuntimeError(message)`. -/
  | runtime (message : String)
  /-- Another exception. -/
  | other
  deriving DecidableEq, Repr

/-- `_load_slskd_request_payload`. -/
def loadSlskdRequestPayload (token : Str) (cache : Cache) : Option Fields :=
  match cache with
  | some (.dict payloads) =>
      match payloads.lookup token with
      | some (.dict payload) => some payload
      | _ => none
  | _ => none

/-- `value == 1`. -/
def isOne : PyValue → Bool
  | .bool value => value
  | .int value => value = 1
  | .float value => value = some 1
  | _ => false

/-- An item of `payload["f"]`. -/
def decodeFile (python : Python) (item : PyValue) : Except DecodeError SlskdDownloadFile :=
  match item with
  | .dict info =>
      let name := strip (filename python info)
      match size info with
      | none => .error .other
      | some size =>
          if name = [] || lowerSuffix python name ∉ supportedAudioSuffixes then
            .error (.runtime "soulseek slskd source_id has invalid file")
          else .ok { filename := name, size }
  | _ => .error .other

/-- `_payload_to_slskd_request`. -/
def payloadToSlskdRequest (settings : Settings) (python : Python) (payload : Fields) :
    Except DecodeError SlskdDownloadRequest :=
  if !isOne (PyValue.get payload "v") then
    .error (.runtime "unsupported soulseek slskd source_id version")
  else
    let username := strip (((PyValue.get payload "u").orElse (.str [])).toStr python.repr)
    if username = [] then .error (.runtime "soulseek slskd source_id missing username")
    else
      match iterate (PyValue.get payload "f") with
      | none => .error .other
      | some items =>
          match items.mapM (decodeFile python) with
          | .error error => .error error
          | .ok files =>
              if files = [] then .error (.runtime "soulseek slskd source_id has no files")
              else if files.length > settings.maxFiles then
                .error (.runtime ("soulseek slskd source_id has too many files: " ++
                  toString files.length ++ " > " ++ toString settings.maxFiles))
              else if settings.maxBytes ≠ 0 && totalSize files > settings.maxBytes then
                .error (.runtime ("soulseek slskd source_id exceeds max bytes: " ++
                  toString (totalSize files) ++ " > " ++ toString settings.maxBytes))
              else
                .ok
                  { username, files
                    title := ((PyValue.get payload "t").orElse
                      (.str (str "[Soulseek] slskd download"))).toStr python.repr
                    searchText :=
                      ((PyValue.get payload "q").orElse (.str [])).toStr python.repr }

/-- `_decode_slskd_source_id`; `legacy` reads an id that holds the payload itself. -/
def decodeSlskdSourceId (settings : Settings) (python : Python) (legacy : Str → Option PyValue)
    (cache : Cache) (sourceId : Str) : Except DecodeError SlskdDownloadRequest :=
  if !slskdPrefix.isPrefixOf sourceId then
    .error (.runtime "soulseek slskd source_id must start with slskd:")
  else
    let token := sourceId.drop slskdPrefix.length
    match loadSlskdRequestPayload token cache with
    | some payload => payloadToSlskdRequest settings python payload
    | none =>
        match legacy token with
        | none => .error (.runtime "bad soulseek slskd source_id")
        | some (.dict payload) => payloadToSlskdRequest settings python payload
        | some _ => .error .other

/-- A request is stored under its token. -/
def storeRequest (python : Python) (cache : Cache) (request : SlskdDownloadRequest) : Cache :=
  storeSlskdRequest (python.digest (slskdRequestPayload request)) (slskdRequestPayload request)
    cache

/-! ## The cache -/

section Cache

variable {settings : Settings} {python : Python} {search : Search}
variable {request other : SlskdDownloadRequest} {cache : Cache}

/-- The fields of a payload. -/
def payloadFields (request : SlskdDownloadRequest) : Fields :=
  [(str "v", .int 1), (str "u", .str request.username), (str "t", .str request.title),
    (str "q", .str request.searchText),
    (str "f", .list (request.files.map fun item =>
      .dict [(str "filename", .str item.filename), (str "size", .int item.size)]))]

/-- The payload of a request is found under its token. -/
def Stored (python : Python) (cache : Cache) (request : SlskdDownloadRequest) : Prop :=
  loadSlskdRequestPayload (python.digest (slskdRequestPayload request)) cache =
    some (payloadFields request)

/-- What was just stored is found. -/
theorem stored_storeRequest : Stored python (storeRequest python cache request) request := by
  simp only [Stored, storeRequest, storeSlskdRequest, loadSlskdRequestPayload,
    PyValue.lookup_setItem_self]
  rfl

/-- A further request that has another token, or is the same, leaves what was stored. -/
theorem Stored.store (stored : Stored python cache request)
    (distinct : python.digest (slskdRequestPayload other) =
      python.digest (slskdRequestPayload request) → other = request) :
    Stored python (storeRequest python cache other) request := by
  by_cases same : python.digest (slskdRequestPayload request) =
      python.digest (slskdRequestPayload other)
  · rw [distinct same.symm]
    exact stored_storeRequest
  · simp only [Stored, storeRequest, storeSlskdRequest, loadSlskdRequestPayload,
      PyValue.lookup_setItem_of_ne _ same]
    unfold Stored loadSlskdRequestPayload at stored
    cases cache with
    | none => contradiction
    | some document =>
        cases document with
        | dict payloads => exact stored
        | none | bool | int | float | str | list => contradiction

/-- Any number of further requests leave what was stored. -/
theorem Stored.further (stored : Stored python cache request)
    (requests : List SlskdDownloadRequest)
    (distinct : ∀ other ∈ requests, python.digest (slskdRequestPayload other) =
      python.digest (slskdRequestPayload request) → other = request) :
    Stored python (requests.foldl (storeRequest python) cache) request := by
  induction requests generalizing cache with
  | nil => exact stored
  | cons next requests ih =>
      rw [List.forall_mem_cons] at distinct
      exact ih (stored.store distinct.1) distinct.2

end Cache

/-! ## What is offered -/

section Offered

variable {settings : Settings} {python : Python} {search : Search}

/-- A name that is taken into a folder. -/
def Audible (python : Python) (name : Str) : Prop :=
  strip name ≠ [] ∧ lowerSuffix python (strip name) ∈ supportedAudioSuffixes

/-- What a request that becomes a candidate is like: it has passed all checks of the reader, but
for the names, which are as the peer sent them. -/
structure Offered (settings : Settings) (python : Python) (request : SlskdDownloadRequest) :
    Prop where
  user : request.username ≠ [] ∧ strip request.username = request.username
  audible : ∀ file ∈ request.files, Audible python file.filename
  few : request.files.length ≤ settings.maxFiles
  light : settings.maxBytes = 0 ∨ totalSize request.files ≤ settings.maxBytes
  title : request.title ≠ []

/-- Only audible files are grouped. -/
theorem audible_of_groupFiles {fields : Fields} {grouped : List (Str × List Fields)}
    (groups : groupFiles python fields = some grouped) :
    ∀ folder ∈ grouped, ∀ file ∈ folder.2, Audible python (filename python file) := by
  have step : ∀ (files : List PyValue) (before after : List (Str × List Fields)),
      (∀ folder ∈ before, ∀ file ∈ folder.2, Audible python (filename python file)) →
      files.foldlM (groupFile python) before = some after →
      ∀ folder ∈ after, ∀ file ∈ folder.2, Audible python (filename python file) := by
    intro files
    induction files with
    | nil =>
        intro before after audible ended
        cases ended
        exact audible
    | cons file files ih =>
        intro before after audible ended
        rw [List.foldlM_cons] at ended
        obtain ⟨next, first, rest⟩ := Option.bind_eq_some_iff.mp ended
        refine ih next after ?_ rest
        cases file with
        | dict info =>
            simp only [groupFile] at first
            split at first
            · cases first
              exact audible
            · next taken =>
                cases first
                have here : Audible python (filename python info) := by
                  simpa [Audible] using taken
                intro folder listed file mem
                rcases PyValue.mem_setItem listed with old | new
                · exact audible folder old file mem
                · rw [new] at mem
                  rcases List.mem_append.mp mem with earlier | last
                  · cases found : before.lookup (remoteParent (strip (filename python info))) with
                    | none =>
                        rw [found] at earlier
                        contradiction
                    | some present =>
                        rw [found] at earlier
                        exact audible _ (PyValue.mem_of_lookup found) file earlier
                  · rw [List.mem_singleton.mp last]
                    exact here
        | none | bool | int | float | str | list => contradiction
  unfold groupFiles at groups
  obtain ⟨files, _, folded⟩ := Option.bind_eq_some_iff.mp groups
  exact step files [] grouped (by simp) folded

/-- Sorting adds no files. -/
theorem mem_of_mem_sortFiles {files sorted : List Fields}
    (sorts : sortFiles python files = some sorted) {file : Fields} (listed : file ∈ sorted) :
    file ∈ files := by
  unfold sortFiles at sorts
  obtain ⟨keyed, keys, same⟩ := Option.map_eq_some_iff.mp sorts
  rw [← same, List.mem_map] at listed
  obtain ⟨entry, listed, rfl⟩ := listed
  rw [List.mem_mergeSort] at listed
  obtain ⟨origin, mem, key⟩ := exists_of_mem_mapM keys listed
  obtain ⟨number, _, rfl⟩ := Option.map_eq_some_iff.mp key
  exact mem

/-- A title is not empty. -/
theorem candidateTitle_ne_nil (search : Search) (parent : Str) :
    candidateTitle search parent ≠ [] := by
  have album : displayAlbum parent ≠ [] := by
    unfold displayAlbum
    dsimp only
    split
    · decide
    · next nonempty =>
        generalize clean : stripOf (· = .char '/') (slashed parent) = text at nonempty
        intro empty
        rw [List.reverse_eq_nil_iff] at empty
        cases reversed : text.reverse with
        | nil => exact nonempty (List.reverse_eq_nil_iff.mp reversed)
        | cons last rest =>
            have kept := @getLast?_stripOf (· = .char '/') (slashed parent) last
            rw [clean, ← List.head?_reverse, reversed] at kept
            have different := kept rfl
            rw [reversed, List.takeWhile_cons] at empty
            simp_all
  unfold candidateTitle
  split
  · next both =>
      simp only [Bool.and_eq_true, decide_eq_true_eq] at both
      simp [both.1]
  · split
    · next artist => simp [artist]
    · exact album

/-- What a folder asks for is offered. -/
theorem offered_of_folderRequest {username : Str} {folder : Str × List Fields}
    {request : SlskdDownloadRequest}
    (user : username ≠ [] ∧ strip username = username)
    (audible : ∀ file ∈ folder.2, Audible python (filename python file))
    (asked : folderRequest settings python search username folder.1 folder.2 =
      some (.asked request)) : Offered settings python request := by
  unfold folderRequest at asked
  split at asked
  · simp at asked
  · split at asked
    · contradiction
    · next sorted sorts =>
        split at asked
        · contradiction
        · next files sizes =>
            split at asked
            · simp at asked
            · next light =>
                cases asked
                have listed : ∀ file ∈ files, ∃ info ∈ sorted.take settings.maxFiles,
                    downloadFile python info = some file := by
                  intro file mem
                  exact exists_of_mem_mapM sizes mem
                have counts : files.length = (sorted.take settings.maxFiles).length :=
                  length_of_mapM sizes
                constructor
                · exact user
                · intro file mem
                  obtain ⟨info, taken, made⟩ := listed file mem
                  obtain ⟨size, _, rfl⟩ := Option.map_eq_some_iff.mp made
                  exact audible info (mem_of_mem_sortFiles sorts (List.mem_of_mem_take taken))
                · have taken := List.length_take_le settings.maxFiles sorted
                  dsimp only
                  omega
                · by_cases unlimited : settings.maxBytes = 0
                  · exact Or.inl unlimited
                  · right
                    simp only [Bool.and_eq_true, decide_eq_true_eq, not_and] at light
                    have bounded := light unlimited
                    dsimp only
                    omega
                · exact candidateTitle_ne_nil search folder.1

/-- What a response offers. -/
theorem offered_of_responseEvents {response : PyValue} {parent : Str}
    {request : SlskdDownloadRequest}
    (listed : some (parent, request) ∈ responseEvents settings python search response) :
    Offered settings python request := by
  unfold responseEvents at listed
  split at listed
  · next fields =>
      split at listed
      · contradiction
      · next known =>
          split at listed
          · simp at listed
          · next grouped groups =>
              obtain ⟨folder, mem, listed⟩ := List.mem_flatMap.mp listed
              unfold folderEvents at listed
              split at listed
              · simp at listed
              · contradiction
              · next asked made =>
                  split at listed
                  · rw [List.mem_singleton, Option.some.injEq, Prod.mk.injEq] at listed
                    rw [listed.2]
                    refine offered_of_folderRequest ⟨known, ?_⟩
                      (audible_of_groupFiles groups folder mem) made
                    exact strip_strip _
                  · simp at listed
  · simp at listed

end Offered

/-! ## Reading what was written -/

section Reading

variable {settings : Settings} {python : Python} {search : Search}
variable {request : SlskdDownloadRequest}

theorem toStr_orElse (repr : PyValue → Str) (text : Str) :
    ((PyValue.str text).orElse (.str [])).toStr repr = text := by
  cases text with
  | nil => rfl
  | cons c rest => rfl

theorem toInt_orElse (number : Int) :
    ((PyValue.int number).orElse (.int 0)).toInt = some number := by
  unfold PyValue.orElse
  split
  · rfl
  · next falsy =>
      have zero : number = 0 := by simpa [PyValue.truthy] using falsy
      rw [zero]
      rfl

/-- A file is read with its name cleaned. -/
theorem decodeFile_payload {file : SlskdDownloadFile} (audible : Audible python file.filename) :
    decodeFile python
        (.dict [(str "filename", .str file.filename), (str "size", .int file.size)]) =
      .ok { filename := strip file.filename, size := file.size } := by
  have name : filename python
      [(str "filename", .str file.filename), (str "size", .int file.size)] = file.filename :=
    toStr_orElse python.repr file.filename
  have number : size [(str "filename", .str file.filename), (str "size", .int file.size)] =
      some file.size := toInt_orElse file.size
  have passes : (decide (strip file.filename = []) ||
      decide (lowerSuffix python (strip file.filename) ∉ supportedAudioSuffixes)) = false := by
    simpa [Audible] using audible
  simp only [decodeFile, name, number, passes, Bool.false_eq_true, if_false]

/-- Files are read one after the other. -/
theorem mapM_decodeFile {files : List SlskdDownloadFile}
    (audible : ∀ file ∈ files, Audible python file.filename) :
    (files.map fun item => PyValue.dict
        [(str "filename", .str item.filename), (str "size", .int item.size)]).mapM
      (decodeFile python) =
      .ok (files.map fun file => { filename := strip file.filename, size := file.size }) := by
  induction files with
  | nil => rfl
  | cons file files ih =>
      rw [List.forall_mem_cons] at audible
      rw [List.map_cons, List.mapM_cons, decodeFile_payload audible.1, ih audible.2]
      rfl

/-- Cleaning changes nothing where all names are clean. -/
theorem cleaned_iff {files : List SlskdDownloadFile} :
    (files.map fun file => { filename := strip file.filename, size := file.size }) = files ↔
      ∀ file ∈ files, strip file.filename = file.filename := by
  induction files with
  | nil => simp
  | cons file files ih =>
      rw [List.map_cons, List.cons.injEq, ih, List.forall_mem_cons]
      cases file
      simp

/-- An offered request is read with the names of its files cleaned, unless it has none. -/
theorem payloadToSlskdRequest_payload (offered : Offered settings python request) :
    payloadToSlskdRequest settings python (payloadFields request) =
      if request.files = [] then .error (.runtime "soulseek slskd source_id has no files")
      else
        .ok { request with
          files := request.files.map fun file =>
            { filename := strip file.filename, size := file.size } } := by
  have user : strip (((PyValue.get (payloadFields request) "u").orElse (.str [])).toStr
      python.repr) = request.username := by
    rw [← offered.user.2]
    exact congrArg strip (toStr_orElse python.repr request.username)
  have text : ((PyValue.get (payloadFields request) "q").orElse (.str [])).toStr python.repr =
      request.searchText := toStr_orElse python.repr request.searchText
  have title : ((PyValue.get (payloadFields request) "t").orElse
      (.str (str "[Soulseek] slskd download"))).toStr python.repr = request.title := by
    have truthy : (PyValue.str request.title).truthy = true := by
      simp [PyValue.truthy, offered.title]
    exact congrArg (PyValue.toStr python.repr) (if_pos truthy)
  have items : iterate (PyValue.get (payloadFields request) "f") =
      some (request.files.map fun item =>
        .dict [(str "filename", .str item.filename), (str "size", .int item.size)]) := by
    have field : PyValue.get (payloadFields request) "f" =
        .list (request.files.map fun item =>
          .dict [(str "filename", .str item.filename), (str "size", .int item.size)]) := rfl
    rw [field]
    cases request.files with
    | nil => rfl
    | cons file files => rfl
  have version : isOne (PyValue.get (payloadFields request) "v") = true := rfl
  have total : totalSize (request.files.map fun file =>
      ({ filename := strip file.filename, size := file.size } : SlskdDownloadFile)) =
      totalSize request.files := by
    rw [totalSize, totalSize, List.foldl_map]
  simp only [payloadToSlskdRequest, version, user, text, title, items,
    mapM_decodeFile offered.audible, total, offered.user.1, Bool.not_true, Bool.false_eq_true,
    if_false, List.map_eq_nil_iff, List.length_map]
  split
  · rfl
  · have few : ¬request.files.length > settings.maxFiles := Nat.not_lt.mpr offered.few
    have light : (decide (settings.maxBytes ≠ 0) &&
        decide (totalSize request.files > settings.maxBytes)) = false := by
      rcases offered.light with unlimited | light
      · simp [unlimited]
      · simp [light]
    rw [if_neg few, light]
    rfl

end Reading

/-! ## Runs -/

section Runs

variable {settings : Settings} {python : Python} {search : Search}
variable {request : SlskdDownloadRequest}

variable (settings python search) in
/-- The request of a folder is turned into the candidate. -/
def TurnsInto (responses : List PyValue) (request : SlskdDownloadRequest)
    (candidate : ReleaseCandidate) : Prop :=
  ∃ parent, some (parent, request) ∈ responses.flatMap (responseEvents settings python search) ∧
    candidate = candidateOf python search (parent, request)

variable (settings python search) in
/-- The requests that responses come to, in the order in which they are stored. -/
def requestsOf (responses : List PyValue) : List SlskdDownloadRequest :=
  (responses.flatMap (responseEvents settings python search)).filterMap fun event =>
    event.map (·.2)

/-- Two requests have the same token only if they are the same. -/
def Collisionless (python : Python) (requests : List SlskdDownloadRequest) : Prop :=
  ∀ one ∈ requests, ∀ other ∈ requests,
    python.digest (slskdRequestPayload one) = python.digest (slskdRequestPayload other) →
      one = other

theorem mem_requestsOf {responses : List PyValue} {parent : Str}
    (listed : some (parent, request) ∈
      responses.flatMap (responseEvents settings python search)) :
    request ∈ requestsOf settings python search responses :=
  List.mem_filterMap.mpr ⟨some (parent, request), listed, rfl⟩

variable (settings python search) in
/-- Every candidate that was found is that of a request that can be found in the cache. -/
def Progress.Kept (events : List Event) (progress : Progress) : Prop :=
  ∀ candidate ∈ progress.candidates, ∃ offer, some offer ∈ events ∧
    candidate = candidateOf python search offer ∧ Stored python progress.cache offer.2

/-- What the loop has stored stays there. -/
theorem kept_foldlM {all : List Event}
    (collisionless : Collisionless python (all.filterMap fun event => event.map (·.2)))
    (events : List Event) (within : ∀ event ∈ events, event ∈ all) (progress : Progress)
    (kept : progress.Kept python search all) :
    ∀ after, (events.foldlM (addEvent settings python search) progress = .ok after ∨
        events.foldlM (addEvent settings python search) progress = .error (.returned after)) →
      after.Kept python search all := by
  induction events generalizing progress with
  | nil =>
      intro after ended
      rcases ended with ended | ended
      · cases ended
        exact kept
      · contradiction
  | cons event events ih =>
      rw [List.forall_mem_cons] at within
      intro after ended
      rw [List.foldlM_cons] at ended
      cases event with
      | none => simp [addEvent, bind, Except.bind] at ended
      | some offer =>
          let repeated : Progress :=
            { progress with cache := storeRequest python progress.cache offer.2 }
          let added : Progress :=
            { candidates := progress.candidates ++ [candidateOf python search offer]
              seen := sourceIdOf python offer.2 :: progress.seen
              cache := storeRequest python progress.cache offer.2 }
          have stores : repeated.Kept python search all := by
            intro candidate listed
            obtain ⟨other, mem, same, stored⟩ := kept candidate listed
            refine ⟨other, mem, same, stored.store ?_⟩
            intro token
            exact collisionless offer.2 (List.mem_filterMap.mpr ⟨_, within.1, rfl⟩) other.2
              (List.mem_filterMap.mpr ⟨_, mem, rfl⟩) token
          have found : added.Kept python search all := by
            intro candidate listed
            rcases List.mem_append.mp listed with before | last
            · exact stores candidate before
            · exact ⟨offer, within.1, List.mem_singleton.mp last, stored_storeRequest⟩
          simp only [addEvent] at ended
          split at ended
          · exact ih within.2 repeated stores after ended
          · split at ended
            · rcases ended with ended | ended
              · contradiction
              · cases ended
                exact found
            · exact ih within.2 added found after ended

/-- The candidates of a search are found in the cache that it leaves. -/
theorem kept_responses {responses : List PyValue} {cache after : Cache}
    {found : List ReleaseCandidate}
    (collisionless : Collisionless python (requestsOf settings python search responses))
    (ran : responsesToCandidates settings python search responses cache = some (found, after)) :
    ∀ candidate ∈ found, ∃ offer,
      some offer ∈ responses.flatMap (responseEvents settings python search) ∧
        candidate = candidateOf python search offer ∧ Stored python after offer.2 := by
  have nothing : Progress.Kept python search
      (responses.flatMap (responseEvents settings python search))
      { candidates := [], seen := [], cache } := by
    intro candidate listed
    contradiction
  have keeps := @kept_foldlM settings python search _ collisionless
    (responses.flatMap (responseEvents settings python search)) (fun _ listed => listed)
    { candidates := [], seen := [], cache } nothing
  rw [← foldlM_addResponse] at keeps
  unfold responsesToCandidates at ran
  split at ran
  · next progress ended =>
      cases ran
      exact keeps progress (Or.inl ended)
  · next progress ended =>
      cases ran
      exact keeps progress (Or.inr ended)
  · contradiction

/-- The id of a candidate decodes to the request that it was made of, whatever is stored after
it, exactly where that has files and their names have no white space at their ends. -/
theorem decodes_iff (settings : Settings) (python : Python) (search : Search)
    (legacy : Str → Option PyValue) {responses : List PyValue} {cache after : Cache}
    {found : List ReleaseCandidate} {candidate : ReleaseCandidate}
    {request : SlskdDownloadRequest} (further : List SlskdDownloadRequest)
    (collisionless : Collisionless python
      (requestsOf settings python search responses ++ further))
    (ran : responsesToCandidates settings python search responses cache = some (found, after))
    (listed : candidate ∈ found)
    (turned : TurnsInto settings python search responses request candidate) :
    decodeSlskdSourceId settings python legacy (further.foldl (storeRequest python) after)
        candidate.sourceId = .ok request ↔
      request.files ≠ [] ∧ ∀ file ∈ request.files, strip file.filename = file.filename := by
  have apart : Collisionless python (requestsOf settings python search responses) := by
    intro one mem other mem'
    exact collisionless one (List.mem_append_left _ mem) other (List.mem_append_left _ mem')
  obtain ⟨parent, offered, same⟩ := turned
  obtain ⟨offer, mem, made, stored⟩ := kept_responses apart ran candidate listed
  -- The candidate has one request only, which its token tells.
  have only : offer.2 = request := by
    apply apart offer.2 (mem_requestsOf mem) request (mem_requestsOf offered)
    have ids : sourceIdOf python offer.2 = sourceIdOf python request := by
      rw [same] at made
      exact (congrArg ReleaseCandidate.sourceId made).symm
    exact List.append_cancel_left ids
  rw [only] at stored
  have kept : Stored python (further.foldl (storeRequest python) after) request := by
    apply stored.further
    intro other mem token
    exact collisionless other (List.mem_append_right _ mem) request
      (List.mem_append_left _ (mem_requestsOf offered)) token
  obtain ⟨response, _, event⟩ := List.mem_flatMap.mp offered
  have id : candidate.sourceId = slskdPrefix ++ python.digest (slskdRequestPayload request) := by
    rw [same]
    rfl
  have begins : slskdPrefix.isPrefixOf candidate.sourceId = true := by
    rw [id, List.isPrefixOf_iff_prefix]
    exact List.prefix_append _ _
  have token : candidate.sourceId.drop slskdPrefix.length =
      python.digest (slskdRequestPayload request) := by
    rw [id, List.drop_left]
  have read := payloadToSlskdRequest_payload (offered_of_responseEvents event)
  unfold Stored at kept
  simp only [decodeSlskdSourceId, begins, token, kept, Bool.not_true, Bool.false_eq_true,
    if_false, read]
  split
  · next empty => simp [empty]
  · next nonempty =>
      have whole : ({ request with
          files := request.files.map fun file =>
            { filename := strip file.filename, size := file.size } } : SlskdDownloadRequest) =
          request ↔ ∀ file ∈ request.files, strip file.filename = file.filename := by
        rw [← cleaned_iff]
        cases request
        simp
      rw [Except.ok.injEq, whole]
      constructor
      · intro clean
        exact ⟨nonempty, clean⟩
      · intro both
        exact both.2

end Runs

/-! ## A name with a blank at its end -/

/-- The object of a file. -/
def fileInfo (filename : String) : Fields :=
  [(str "filename", .str (str filename)), (str "size", .int 1000)]

/-- The request for a file in the folder "album". -/
def oneFileRequest (filename : String) : SlskdDownloadRequest where
  username := str "two"
  files := [{ filename := str filename, size := 1000 }]
  title := str "album"
  searchText := str "a"

/-- A folder with one file needs no sorting. -/
theorem sortFiles_singleton (python : Python) (file : Fields) :
    sortFiles python [file] =
      (remoteFilenameSortKey python (filename python file)).map fun _ => [file] := by
  unfold sortFiles
  cases key : remoteFilenameSortKey python (filename python file) with
  | none => simp [key]
  | some number => simp [key]

/-- Two files in the wrong order are exchanged. -/
theorem sortFiles_pair {python : Python} {first second : Fields} {one two : Int × Str}
    (key : remoteFilenameSortKey python (filename python first) = some one)
    (key' : remoteFilenameSortKey python (filename python second) = some two)
    (order : keyLe one two = false) :
    sortFiles python [first, second] = some [second, first] := by
  simp [sortFiles, key, key', List.mergeSort, order]

/-- What a response with one folder comes to. -/
theorem responseEvents_folder {python : Python} {fields : Fields} {files : List Fields}
    {request : SlskdDownloadRequest} (user : username python fields = str "two")
    (groups : groupFiles python fields = some [(str "album", files)])
    (asked : folderRequest openSettings python anySearch (str "two") (str "album") files =
      some (.asked request))
    (encodes : request.encodable = true) :
    responseEvents openSettings python anySearch (.dict fields) =
      [some (str "album", request)] := by
  have known : str "two" ≠ [] := by decide
  simp only [responseEvents, user, groups, if_neg known, List.flatMap_singleton, folderEvents,
    asked, encodes, if_true]

/-- What the response with one file comes to. -/
theorem responseEvents_oneFile {filename : String} {fields : Fields}
    (response : oneFile "two" filename = .dict fields)
    (user : username plainPython fields = str "two")
    (groups : groupFiles plainPython fields = some [(str "album", [fileInfo filename])])
    (key : (remoteFilenameSortKey plainPython (str filename)).isSome = true)
    (written : encodable (str filename) = true) :
    responseEvents openSettings plainPython anySearch (oneFile "two" filename) =
      [some (str "album", oneFileRequest filename)] := by
  obtain ⟨number, key⟩ := Option.isSome_iff_exists.mp key
  have name : Soulseek.filename plainPython (fileInfo filename) = str filename :=
    toStr_orElse plainPython.repr (str filename)
  have sorts : sortFiles plainPython [fileInfo filename] = some [fileInfo filename] := by
    rw [sortFiles_singleton, name, key]
    rfl
  have made : downloadFile plainPython (fileInfo filename) =
      some { filename := str filename, size := 1000 } := by
    rw [downloadFile, name]
    rfl
  have listed : (([fileInfo filename].take openSettings.maxFiles).mapM
      (downloadFile plainPython)) = some [{ filename := str filename, size := 1000 }] := by
    have all : [fileInfo filename].take openSettings.maxFiles = [fileInfo filename] := rfl
    rw [all, List.mapM_cons, made]
    rfl
  have encodes : (oneFileRequest filename).encodable = true := by
    rw [encodable_iff]
    refine ⟨rfl, rfl, rfl, ?_⟩
    rw [oneFileRequest, List.forall_mem_singleton]
    exact written
  rw [response]
  apply responseEvents_folder user groups _ encodes
  simp only [folderRequest, sorts, listed]
  rfl

section OneFolder

variable {python : Python} {response : PyValue} {request : SlskdDownloadRequest}

/-- One candidate is found, and its request stored. -/
theorem runs_of_responseEvents
    (events : responseEvents openSettings python anySearch response =
      [some (str "album", request)]) :
    responsesToCandidates openSettings python anySearch [response] none =
      some ([candidateOf python anySearch (str "album", request)],
        storeRequest python none request) := by
  unfold responsesToCandidates
  rw [foldlM_addResponse, List.flatMap_singleton, events]
  rfl

theorem turnsInto_of_responseEvents
    (events : responseEvents openSettings python anySearch response =
      [some (str "album", request)]) :
    TurnsInto openSettings python anySearch [response] request
      (candidateOf python anySearch (str "album", request)) := by
  refine ⟨str "album", ?_, rfl⟩
  rw [List.flatMap_singleton, events]
  exact List.mem_singleton.mpr rfl

end OneFolder

/-- The offered name ends with a blank; what is decoded asks for another one. -/
theorem not_decodes_blank :
    responsesToCandidates openSettings plainPython anySearch [oneFile "two" "album/2.flac "] none =
        some ([candidateOf plainPython anySearch (str "album", oneFileRequest "album/2.flac ")],
          storeRequest plainPython none (oneFileRequest "album/2.flac ")) ∧
      TurnsInto openSettings plainPython anySearch [oneFile "two" "album/2.flac "]
        (oneFileRequest "album/2.flac ")
        (candidateOf plainPython anySearch (str "album", oneFileRequest "album/2.flac ")) ∧
      decodeSlskdSourceId openSettings plainPython (fun _ => none)
          (storeRequest plainPython none (oneFileRequest "album/2.flac "))
          (candidateOf plainPython anySearch
            (str "album", oneFileRequest "album/2.flac ")).sourceId =
        .ok (oneFileRequest "album/2.flac") ∧
      oneFileRequest "album/2.flac" ≠ oneFileRequest "album/2.flac " := by
  have events := @responseEvents_oneFile "album/2.flac " _ rfl rfl rfl rfl rfl
  refine ⟨runs_of_responseEvents events, turnsInto_of_responseEvents events, rfl, ?_⟩
  decide

/-- The tokens of two requests, one for the folder "live" and one for another folder. -/
def twoTokens : Python where
  repr _ := []
  lower := id
  digest payload :=
    match payload with
    | .dict fields =>
        if (PyValue.get fields "t").toStr plainPython.repr = str "live" then
          str "47f537227c52ceea83b88d25"
        else str "9261faf2f0b2acfeac99536e"
    | _ => []

/-- A response with two files, the second one first. -/
def twoFiles : Fields :=
  [(str "username", .str (str "two")),
    (str "files", .list [.dict (fileInfo "album/02.flac"), .dict (fileInfo "album/01.flac")])]

/-- The request for them, in their order. -/
def twoFilesRequest : SlskdDownloadRequest where
  username := str "two"
  files :=
    [{ filename := str "album/01.flac", size := 1000 },
      { filename := str "album/02.flac", size := 1000 }]
  title := str "album"
  searchText := str "a"

/-- What another search stores afterwards. -/
def liveRequest : SlskdDownloadRequest where
  username := str "one"
  files := [{ filename := str "live/1.flac", size := 1000 }]
  title := str "live"
  searchText := str "a"

theorem responseEvents_twoFiles :
    responseEvents openSettings twoTokens anySearch (.dict twoFiles) =
      [some (str "album", twoFilesRequest)] := by
  have sorts : sortFiles twoTokens [fileInfo "album/02.flac", fileInfo "album/01.flac"] =
      some [fileInfo "album/01.flac", fileInfo "album/02.flac"] :=
    @sortFiles_pair twoTokens _ _ (2, str "02.flac") (1, str "01.flac") rfl rfl (by decide)
  have groups : groupFiles twoTokens twoFiles =
      some [(str "album", [fileInfo "album/02.flac", fileInfo "album/01.flac"])] := rfl
  apply responseEvents_folder rfl groups _ (by decide)
  simp only [folderRequest, sorts]
  rfl

/-- Clean names are asked for as they were offered, also after another request was stored. -/
theorem decodes_clean :
    decodeSlskdSourceId openSettings twoTokens (fun _ => none)
        (storeRequest twoTokens (storeRequest twoTokens none twoFilesRequest) liveRequest)
        (candidateOf twoTokens anySearch (str "album", twoFilesRequest)).sourceId =
      .ok twoFilesRequest := by
  have events := responseEvents_twoFiles
  have apart : Collisionless twoTokens (requestsOf openSettings twoTokens anySearch
      [.dict twoFiles] ++ [liveRequest]) := by
    have requests : requestsOf openSettings twoTokens anySearch [.dict twoFiles] ++ [liveRequest] =
        [twoFilesRequest, liveRequest] := by
      rw [requestsOf, List.flatMap_singleton, events]
      rfl
    have other : twoTokens.digest (slskdRequestPayload twoFilesRequest) ≠
        twoTokens.digest (slskdRequestPayload liveRequest) := by
      decide
    rw [requests]
    intro one mem two mem' token
    rcases List.mem_pair.mp mem with rfl | rfl
    · rcases List.mem_pair.mp mem' with rfl | rfl
      · rfl
      · exact absurd token other
    · rcases List.mem_pair.mp mem' with rfl | rfl
      · exact absurd token.symm other
      · rfl
  exact (decodes_iff openSettings twoTokens anySearch (fun _ => none) [liveRequest] apart
    (runs_of_responseEvents events) (List.mem_singleton.mpr rfl)
    (turnsInto_of_responseEvents events)).mpr ⟨by decide, by decide⟩

end Mintarr.Soulseek
