import Mintarr.Lib.Lists
import Mintarr.Soulseek.Responses

/-!
# One peer and the others

A response is good where `_responses_to_candidates` can read it: its files are objects, the
numbers in their names are numbers to `int` too, their sizes are integers, and their names can
be written as UTF-8.  Nothing in the loop catches what a response that is not good raises, so
that one of them takes the candidates of all others along.
-/

namespace Mintarr.Soulseek

open Lib Lib.Py

variable (settings : Settings) (python : Python) (search : Search)

/-! ## Events -/

/-- What the loop meets: a folder that is asked for, with its name, or something that raises. -/
abbrev Event := Option (Str × SlskdDownloadRequest)

/-- What a folder comes to. -/
def folderEvents (username : Str) (folder : Str × List Fields) : List Event :=
  match folderRequest settings python search username folder.1 folder.2 with
  | none => [none]
  | some .skipped => []
  | some (.asked request) => if request.encodable then [some (folder.1, request)] else [none]

/-- What a response comes to. -/
def responseEvents (response : PyValue) : List Event :=
  match response with
  | .dict response =>
      if username python response = [] then []
      else
        match groupFiles python response with
        | none => [none]
        | some grouped =>
            grouped.flatMap (folderEvents settings python search (username python response))
  | _ => [none]

/-- The id that a request gets. -/
def sourceIdOf (request : SlskdDownloadRequest) : Str :=
  slskdPrefix ++ python.digest (slskdRequestPayload request)

/-- The candidate that a folder becomes. -/
def candidateOf (offer : Str × SlskdDownloadRequest) : ReleaseCandidate :=
  releaseCandidate python search offer.1 (sourceIdOf python offer.2) offer.2

/-- What the loop does with an event. -/
def addEvent (progress : Progress) : Event → Except Exit Progress
  | none => .error .raised
  | some offer =>
      let cache := storeSlskdRequest (python.digest (slskdRequestPayload offer.2))
        (slskdRequestPayload offer.2) progress.cache
      if sourceIdOf python offer.2 ∈ progress.seen then .ok { progress with cache }
      else
        let found : Progress :=
          { candidates := progress.candidates ++ [candidateOf python search offer]
            seen := sourceIdOf python offer.2 :: progress.seen
            cache }
        if found.candidates.length ≥ settings.searchResponseLimit then .error (.returned found)
        else .ok found

theorem addFolder_eq (username : Str) (progress : Progress) (folder : Str × List Fields) :
    addFolder settings python search username progress folder =
      (folderEvents settings python search username folder).foldlM
        (addEvent settings python search) progress := by
  unfold addFolder folderEvents
  cases folderRequest settings python search username folder.1 folder.2 with
  | none => rfl
  | some outcome =>
      cases outcome with
      | skipped => rfl
      | asked request =>
          dsimp only
          cases encodable : request.encodable with
          | false => simp [encodeSlskdSourceId, encodable, addEvent, bind, Except.bind]
          | true =>
              simp only [encodeSlskdSourceId, encodable, if_true, List.foldlM_cons,
                List.foldlM_nil, bind_pure]
              rfl

theorem addResponse_eq (progress : Progress) (response : PyValue) :
    addResponse settings python search progress response =
      (responseEvents settings python search response).foldlM
        (addEvent settings python search) progress := by
  unfold addResponse responseEvents
  cases response with
  | dict response =>
      dsimp only
      split
      · rfl
      · cases groupFiles python response with
        | none => rfl
        | some grouped =>
            dsimp only
            rw [foldlM_flatMap]
            congr 1
            funext progress folder
            exact addFolder_eq settings python search (username python response) progress folder
  | none | bool | int | float | str | list => rfl

/-- The loop goes through the events of all responses. -/
theorem foldlM_addResponse (responses : List PyValue) (progress : Progress) :
    responses.foldlM (addResponse settings python search) progress =
      (responses.flatMap (responseEvents settings python search)).foldlM
        (addEvent settings python search) progress := by
  rw [foldlM_flatMap]
  congr 1
  funext progress response
  exact addResponse_eq settings python search progress response

/-! ## Runs without and with an event that raises -/

/-- The candidates that the loop ends with. -/
def candidatesOf : Except Exit Progress → Option (List ReleaseCandidate)
  | .ok progress => some progress.candidates
  | .error (.returned progress) => some progress.candidates
  | .error .raised => none

/-- Without one that raises, the loop keeps the first candidate of every id, up to the limit. -/
theorem foldlM_offers (offers : List (Str × SlskdDownloadRequest)) (progress : Progress)
    (below : progress.candidates.length < max 1 settings.searchResponseLimit) :
    candidatesOf ((offers.map some).foldlM (addEvent settings python search) progress) =
      some ((progress.candidates ++
        distinctFrom ReleaseCandidate.sourceId progress.seen
          (offers.map (candidateOf python search))).take (max 1 settings.searchResponseLimit)) := by
  induction offers generalizing progress with
  | nil =>
      have short := List.take_of_length_le (Nat.le_of_lt below)
      simp [candidatesOf, distinctFrom, pure, Except.pure, short]
  | cons offer offers ih =>
      have id : (candidateOf python search offer).sourceId = sourceIdOf python offer.2 := rfl
      simp only [List.map_cons, List.foldlM_cons, addEvent, distinctFrom, id]
      by_cases present : sourceIdOf python offer.2 ∈ progress.seen
      · simp only [if_pos present, bind, Except.bind]
        exact ih _ below
      · simp only [if_neg present]
        split
        · next full =>
            have cut : (progress.candidates ++ [candidateOf python search offer]).length =
                max 1 settings.searchResponseLimit := by
              rw [List.length_append, List.length_singleton] at full ⊢
              omega
            have taken : ∀ rest,
                (progress.candidates ++ candidateOf python search offer :: rest).take
                  (max 1 settings.searchResponseLimit) =
                progress.candidates ++ [candidateOf python search offer] := by
              intro rest
              have whole : progress.candidates ++ candidateOf python search offer :: rest =
                  (progress.candidates ++ [candidateOf python search offer]) ++ rest := by
                rw [List.append_assoc, List.singleton_append]
              rw [whole, ← cut, List.take_left]
            rw [taken]
            rfl
        · next room =>
            have further := ih
              { candidates := progress.candidates ++ [candidateOf python search offer]
                seen := sourceIdOf python offer.2 :: progress.seen
                cache := storeSlskdRequest (python.digest (slskdRequestPayload offer.2))
                  (slskdRequestPayload offer.2) progress.cache }
              (by simp at room ⊢; omega)
            simp only [bind, Except.bind, further, List.append_assoc, List.singleton_append]

/-- Before the limit is reached, an event that raises ends the loop. -/
theorem foldlM_raised (events : List Event) (progress : Progress) (raises : none ∈ events)
    (room : progress.candidates.length + events.length < settings.searchResponseLimit) :
    events.foldlM (addEvent settings python search) progress = .error .raised := by
  induction events generalizing progress with
  | nil => contradiction
  | cons event events ih =>
      rw [List.foldlM_cons]
      cases event with
      | none => rfl
      | some offer =>
          have later : none ∈ events := by
            rcases List.mem_cons.mp raises with same | later
            · contradiction
            · exact later
          rw [List.length_cons] at room
          simp only [addEvent]
          split
          · exact ih _ later (by dsimp only; omega)
          · split
            · next full =>
                rw [List.length_append, List.length_singleton] at full
                omega
            · refine ih _ later ?_
              rw [List.length_append, List.length_singleton]
              omega

/-! ## Good responses -/

/-- The first digits of a file name are decimal, and not more than `int` reads. -/
def ReadableName (filename : Str) : Prop :=
  let digits := firstDigits (nameOf (slashed filename))
  (∀ c ∈ digits, c.isDecimal = true) ∧ digits.length ≤ Text.maxStrDigits

/-- A folder that is read where it is long enough: the numbers in its names are read, the sizes
of the files that are asked for are integers, and what is asked for can be written down. -/
structure ReadableFolder (username : Str) (folder : Str × List Fields) : Prop where
  names : settings.minTracks ≤ folder.2.length →
    ∀ file ∈ folder.2, ReadableName (filename python file)
  sizes : settings.minTracks ≤ folder.2.length →
    ∀ sorted, sortFiles python folder.2 = some sorted →
      ∀ file ∈ sorted.take settings.maxFiles, (size file).isSome = true
  text : settings.minTracks ≤ folder.2.length →
    ∀ sorted files, sortFiles python folder.2 = some sorted →
      (sorted.take settings.maxFiles).mapM (downloadFile python) = some files →
      (settings.maxBytes = 0 ∨ totalSize files ≤ settings.maxBytes) →
      encodable username = true ∧ encodable (candidateTitle search folder.1) = true ∧
        encodable search.searchText = true ∧
        ∀ file ∈ files, encodable file.filename = true

/-- An object without a user, or with a list of objects that make readable folders. -/
def Readable (response : PyValue) : Prop :=
  ∃ fields, response = .dict fields ∧
    (username python fields = [] ∨
      (∃ files, iterate (PyValue.get fields "files") = some files ∧
        ∀ file ∈ files, ∃ info, file = .dict info) ∧
      ∀ grouped, groupFiles python fields = some grouped → ∀ folder ∈ grouped,
        ReadableFolder settings python search (username python fields) folder)

section Good

variable {settings python search}

/-- A sort key is there where the name is readable. -/
theorem isSome_sortKey (filename : Str) :
    (remoteFilenameSortKey python filename).isSome = true ↔ ReadableName filename := by
  simp only [remoteFilenameSortKey, ReadableName, Option.isSome_map]
  generalize known : firstDigits (nameOf (slashed filename)) = digits
  split
  · next empty => simp [empty]
  · next nonempty =>
      apply isSome_readInt nonempty
      intro c listed
      rw [← known] at listed
      exact List.all_eq_true.mp List.all_takeWhile c listed

theorem isSome_sortFiles (files : List Fields) :
    (sortFiles python files).isSome = true ↔
      ∀ file ∈ files, ReadableName (filename python file) := by
  rw [sortFiles, Option.isSome_map, isSome_mapM]
  apply forall₂_congr
  intro file _
  rw [Option.isSome_map, isSome_sortKey]

theorem isSome_downloadFiles (files : List Fields) :
    (files.mapM (downloadFile python)).isSome = true ↔
      ∀ file ∈ files, (size file).isSome = true := by
  rw [isSome_mapM]
  apply forall₂_congr
  intro file _
  rw [downloadFile, Option.isSome_map]

theorem encodable_iff {request : SlskdDownloadRequest} : request.encodable = true ↔
    encodable request.username = true ∧ encodable request.title = true ∧
      encodable request.searchText = true ∧
      ∀ file ∈ request.files, encodable file.filename = true := by
  simp [SlskdDownloadRequest.encodable, and_assoc]

theorem none_notMem_asked {parent : Str} {request : SlskdDownloadRequest} :
    (none : Event) ∉ (if request.encodable = true then [some (parent, request)] else [none]) ↔
      request.encodable = true := by
  split
  · next writes => simp [writes]
  · next raises => simp [raises]

/-- A folder does not raise exactly where it is readable. -/
theorem none_notMem_folderEvents {username : Str} {folder : Str × List Fields} :
    none ∉ folderEvents settings python search username folder ↔
      ReadableFolder settings python search username folder := by
  by_cases short : folder.2.length < settings.minTracks
  · have vacuous : ReadableFolder settings python search username folder := by
      constructor
      · intro long
        omega
      · intro long
        omega
      · intro long
        omega
    exact iff_of_true (by simp [folderEvents, folderRequest, short]) vacuous
  · have long : settings.minTracks ≤ folder.2.length := Nat.le_of_not_lt short
    unfold folderEvents folderRequest
    rw [if_neg short]
    cases sorts : sortFiles python folder.2 with
    | none =>
        apply iff_of_false
        · simp
        · intro readable
          have some_ := (isSome_sortFiles folder.2).mpr (readable.names long)
          rw [sorts] at some_
          contradiction
    | some sorted =>
        have names : ∀ file ∈ folder.2, ReadableName (filename python file) :=
          (isSome_sortFiles folder.2).mp (by rw [sorts]; rfl)
        dsimp only
        cases sizes : (sorted.take settings.maxFiles).mapM (downloadFile python) with
        | none =>
            apply iff_of_false
            · simp
            · intro readable
              have some_ : ((sorted.take settings.maxFiles).mapM
                  (downloadFile python)).isSome = true :=
                (isSome_downloadFiles _).mpr (readable.sizes long sorted sorts)
              rw [sizes] at some_
              contradiction
        | some files =>
            have sized : ∀ file ∈ sorted.take settings.maxFiles, (size file).isSome = true :=
              (isSome_downloadFiles _).mp (by rw [sizes]; rfl)
            dsimp only
            by_cases heavy : settings.maxBytes ≠ 0 ∧ totalSize files > settings.maxBytes
            · have heavier : (decide (settings.maxBytes ≠ 0) &&
                  decide (totalSize files > settings.maxBytes)) = true := by
                simpa using heavy
              rw [if_pos heavier]
              refine iff_of_true (by simp) ?_
              constructor
              · exact fun _ => names
              · intro _ other same
                cases sorts.symm.trans same
                exact sized
              · intro _ other others same sameFiles within
                cases sorts.symm.trans same
                cases sizes.symm.trans sameFiles
                rcases within with unlimited | light
                · exact absurd unlimited heavy.1
                · have apart := heavy.2
                  omega
            · have under : ¬(decide (settings.maxBytes ≠ 0) &&
                  decide (totalSize files > settings.maxBytes)) = true := by
                simpa using heavy
              rw [if_neg under]
              dsimp only
              rw [none_notMem_asked, encodable_iff]
              constructor
              · intro text
                constructor
                · exact fun _ => names
                · intro _ other same
                  cases sorts.symm.trans same
                  exact sized
                · intro _ other others same sameFiles _
                  cases sorts.symm.trans same
                  cases sizes.symm.trans sameFiles
                  exact text
              · intro readable
                apply readable.text long sorted files sorts sizes
                omega

/-- Files are grouped exactly where they are a list of objects. -/
theorem isSome_groupFiles (fields : Fields) :
    (groupFiles python fields).isSome = true ↔
      ∃ files, iterate (PyValue.get fields "files") = some files ∧
        ∀ file ∈ files, ∃ info, file = .dict info := by
  have folds : ∀ (files : List PyValue) (grouped : List (Str × List Fields)),
      (files.foldlM (groupFile python) grouped).isSome = true ↔
        ∀ file ∈ files, ∃ info, file = .dict info := by
    intro files
    induction files with
    | nil => simp
    | cons file files ih =>
        intro grouped
        rw [List.foldlM_cons, List.forall_mem_cons]
        cases file with
        | dict info =>
            have grouped_ : ∃ next, groupFile python grouped (.dict info) = some next := by
              simp only [groupFile]
              split
              · exact ⟨_, rfl⟩
              · exact ⟨_, rfl⟩
            obtain ⟨next, grouped_⟩ := grouped_
            simp only [grouped_, Option.bind_eq_bind, Option.bind_some]
            rw [ih]
            simp
        | none | bool | int | float | str | list => simp [groupFile]
  unfold groupFiles
  cases iterate (PyValue.get fields "files") with
  | none => simp
  | some files =>
      rw [Option.bind_some, folds]
      simp

/-- A response does not raise exactly where it is readable. -/
theorem none_notMem_responseEvents {response : PyValue} :
    none ∉ responseEvents settings python search response ↔
      Readable settings python search response := by
  cases response with
  | dict fields =>
      have only : Readable settings python search (.dict fields) ↔
          (username python fields = [] ∨
            (groupFiles python fields).isSome = true ∧
            ∀ grouped, groupFiles python fields = some grouped → ∀ folder ∈ grouped,
              ReadableFolder settings python search (username python fields) folder) := by
        rw [isSome_groupFiles]
        constructor
        · intro readable
          obtain ⟨other, same, rest⟩ := readable
          cases same
          exact rest
        · intro rest
          exact ⟨fields, rfl, rest⟩
      rw [only]
      unfold responseEvents
      dsimp only
      split
      · next anonymous => simp [anonymous]
      · next known =>
          rw [or_iff_right known]
          cases groups : groupFiles python fields with
          | none => simp
          | some grouped =>
              simp only [List.mem_flatMap, not_exists, not_and, Option.isSome_some, true_and,
                Option.some.injEq, forall_eq']
              apply forall₂_congr
              intro folder _
              exact none_notMem_folderEvents
  | none | bool | int | float | str | list =>
      apply iff_of_false
      · simp [responseEvents]
      · intro readable
        obtain ⟨fields, same, _⟩ := readable
        contradiction

/-! ## Isolation -/

variable (settings python search) in
/-- The candidates of a response by itself, repetitions included. -/
def ownCandidates (response : PyValue) : List ReleaseCandidate :=
  (responseEvents settings python search response).filterMap fun event =>
    event.map (candidateOf python search)

variable (settings python search) in
/-- The candidates that `_responses_to_candidates` returns; nothing where it raises. -/
def candidates (responses : List PyValue) (cache : Cache) : Option (List ReleaseCandidate) :=
  (responsesToCandidates settings python search responses cache).map (·.1)

theorem candidates_eq (responses : List PyValue) (cache : Cache) :
    candidates settings python search responses cache =
      candidatesOf ((responses.flatMap (responseEvents settings python search)).foldlM
        (addEvent settings python search) { candidates := [], seen := [], cache }) := by
  rw [← foldlM_addResponse]
  unfold candidates responsesToCandidates
  cases responses.foldlM (addResponse settings python search)
      { candidates := [], seen := [], cache } with
  | ok progress => rfl
  | error exit => cases exit <;> rfl

/-- Good responses give the first candidate of every id, up to the limit. -/
theorem candidates_of_readable {responses : List PyValue} (cache : Cache)
    (readable : ∀ response ∈ responses, Readable settings python search response) :
    candidates settings python search responses cache =
      some ((distinctBy ReleaseCandidate.sourceId
        (responses.flatMap (ownCandidates settings python search))).take
          (max 1 settings.searchResponseLimit)) := by
  have offered : ∀ events : List Event, none ∉ events →
      ∃ offers : List (Str × SlskdDownloadRequest), events = offers.map some := by
    intro events quiet
    induction events with
    | nil => exact ⟨[], rfl⟩
    | cons event events ih =>
        rw [List.mem_cons, not_or] at quiet
        obtain ⟨offers, same⟩ := ih quiet.2
        cases event with
        | none => exact absurd rfl quiet.1
        | some offer => exact ⟨offer :: offers, by rw [same, List.map_cons]⟩
  have quiet : none ∉ responses.flatMap (responseEvents settings python search) := by
    rw [List.mem_flatMap]
    intro raises
    obtain ⟨response, listed, raises⟩ := raises
    exact none_notMem_responseEvents.mpr (readable response listed) raises
  obtain ⟨offers, same⟩ := offered _ quiet
  have own : responses.flatMap (ownCandidates settings python search) =
      offers.map (candidateOf python search) := by
    have parts : responses.flatMap (ownCandidates settings python search) =
        (responses.flatMap (responseEvents settings python search)).filterMap fun event =>
          event.map (candidateOf python search) := by
      rw [List.filterMap_flatMap]
      rfl
    rw [parts, same, List.filterMap_map]
    induction offers with
    | nil => rfl
    | cons offer offers ih => simp
  rw [candidates_eq, same, foldlM_offers, own]
  · rfl
  · exact Nat.lt_of_lt_of_le Nat.zero_lt_one (Nat.le_max_left 1 _)

/-- What the answer to a search owes to each response: it is finished, has no id twice, and
below the limit consists of what the responses give by themselves; of the candidates of other
responses a response takes none away, and one that gives none changes nothing. -/
structure Isolated (settings : Settings) (python : Python) (search : Search)
    (responses : List PyValue) (cache : Cache) : Prop where
  finishes : ∃ found, candidates settings python search responses cache = some found
  distinct : ∀ found, candidates settings python search responses cache = some found →
    (found.map ReleaseCandidate.sourceId).Nodup
  concatenated : ∀ found, candidates settings python search responses cache = some found →
    found.length < settings.searchResponseLimit →
      ∃ own, List.Forall₂ (fun response own =>
          candidates settings python search [response] cache = some own) responses own ∧
        found = distinctBy ReleaseCandidate.sourceId own.flatten
  others : ∀ found fewer, candidates settings python search responses cache = some found →
    found.length < settings.searchResponseLimit → fewer.Sublist responses →
      ∃ kept, candidates settings python search fewer cache = some kept ∧
        ∀ candidate ∈ kept,
          candidate.sourceId ∈ found.map ReleaseCandidate.sourceId
  idle : ∀ before response after, responses = before ++ response :: after →
    candidates settings python search [response] cache = some [] →
      candidates settings python search (before ++ after) cache =
        candidates settings python search responses cache

/-- Good responses are isolated. -/
theorem isolated_of_readable {responses : List PyValue} (cache : Cache)
    (readable : ∀ response ∈ responses, Readable settings python search response) :
    Isolated settings python search responses cache := by
  have whole := candidates_of_readable cache readable
  have ids : ∀ list : List ReleaseCandidate, ∀ id,
      id ∈ (distinctBy ReleaseCandidate.sourceId list).map ReleaseCandidate.sourceId ↔
        id ∈ list.map ReleaseCandidate.sourceId := by
    intro list id
    rw [distinctBy, mem_map_distinctFrom]
    simp
  -- Below the limit nothing is cut off.
  have uncut : ∀ found, candidates settings python search responses cache = some found →
      found.length < settings.searchResponseLimit →
      found = distinctBy ReleaseCandidate.sourceId
        (responses.flatMap (ownCandidates settings python search)) := by
    intro found ended below
    rw [whole, Option.some.injEq] at ended
    rw [← ended, List.length_take] at below
    rw [← ended]
    apply List.take_of_length_le
    omega
  constructor
  · exact ⟨_, whole⟩
  · intro found ended
    rw [whole, Option.some.injEq] at ended
    rw [← ended, List.map_take]
    exact (nodup_distinctFrom _).sublist (List.take_sublist _ _)
  · intro found ended below
    have full := uncut found ended below
    refine ⟨responses.map fun response =>
      distinctBy ReleaseCandidate.sourceId (ownCandidates settings python search response),
      ?_, ?_⟩
    · rw [List.forall₂_map_right_iff, List.forall₂_same]
      intro response listed
      have single : ∀ other ∈ [response], Readable settings python search other := by
        intro other here
        rw [List.mem_singleton.mp here]
        exact readable response listed
      rw [candidates_of_readable cache single, List.flatMap_singleton, Option.some.injEq]
      apply List.take_of_length_le
      have within : (distinctBy ReleaseCandidate.sourceId
          (ownCandidates settings python search response)).map ReleaseCandidate.sourceId ⊆
          found.map ReleaseCandidate.sourceId := by
        intro id mem
        rw [full, ids]
        rw [ids, List.mem_map] at mem
        obtain ⟨candidate, mem, same⟩ := mem
        exact List.mem_map.mpr ⟨candidate, List.mem_flatMap.mpr ⟨response, listed, mem⟩, same⟩
      have shorter := List.Nodup.length_le_of_subset (nodup_distinctFrom _) within
      rw [List.length_map, List.length_map] at shorter
      have bounded : (distinctBy ReleaseCandidate.sourceId
          (ownCandidates settings python search response)).length ≤ found.length := shorter
      omega
    · rw [full, ← List.flatMap_def, distinctBy, distinctBy, distinctFrom_flatMap]
  · intro found fewer ended below fewer_sublist
    have good : ∀ response ∈ fewer, Readable settings python search response := by
      intro response listed
      exact readable response (fewer_sublist.subset listed)
    refine ⟨_, candidates_of_readable cache good, ?_⟩
    intro candidate mem
    rw [uncut found ended below, ids]
    have mem := List.mem_of_mem_take mem
    have id := (ids _ _).mp (List.mem_map_of_mem (f := ReleaseCandidate.sourceId) mem)
    rw [List.mem_map] at id ⊢
    obtain ⟨other, mem, same⟩ := id
    rw [List.mem_flatMap] at mem
    obtain ⟨response, listed, mem⟩ := mem
    exact ⟨other, List.mem_flatMap.mpr ⟨response, fewer_sublist.subset listed, mem⟩, same⟩
  · intro before response after split nothing
    have listed : response ∈ responses := by
      rw [split]
      exact List.mem_append_right _ List.mem_cons_self
    have single : ∀ other ∈ [response], Readable settings python search other := by
      intro other here
      rw [List.mem_singleton.mp here]
      exact readable response listed
    rw [candidates_of_readable cache single, List.flatMap_singleton, Option.some.injEq,
      List.take_eq_nil_iff] at nothing
    have none_kept := nothing.resolve_left (by omega)
    have none_own : ownCandidates settings python search response = [] := by
      cases own : ownCandidates settings python search response with
      | nil => rfl
      | cons candidate rest =>
          rw [own] at none_kept
          contradiction
    have rest : ∀ other ∈ before ++ after, Readable settings python search other := by
      intro other here
      apply readable other
      rw [split]
      rcases List.mem_append.mp here with front | back
      · exact List.mem_append_left _ front
      · exact List.mem_append_right _ (List.mem_cons_of_mem _ back)
    rw [candidates_of_readable cache rest, whole, split, List.flatMap_append,
      List.flatMap_append, List.flatMap_cons, none_own, List.nil_append]

/-- Whatever the limit is, responses are isolated from one another exactly where each of them
is good. -/
theorem isolated_iff (settings : Settings) (python : Python) (search : Search)
    (responses : List PyValue) (cache : Cache) :
    (∀ limit, Isolated { settings with searchResponseLimit := limit } python search responses
        cache) ↔
      ∀ response ∈ responses, Readable settings python search response := by
  constructor
  · intro isolated response listed
    rw [← none_notMem_responseEvents]
    intro raises
    have events : none ∈ responses.flatMap (responseEvents settings python search) :=
      List.mem_flatMap.mpr ⟨response, listed, raises⟩
    -- A limit that the events cannot reach.
    let limit := (responses.flatMap (responseEvents settings python search)).length + 1
    have raised := foldlM_raised { settings with searchResponseLimit := limit } python search
      (responses.flatMap (responseEvents settings python search))
      { candidates := [], seen := [], cache } events (by simp [limit])
    obtain ⟨found, ended⟩ := (isolated limit).finishes
    have same : responses.flatMap (responseEvents { settings with searchResponseLimit := limit }
        python search) = responses.flatMap (responseEvents settings python search) := rfl
    rw [candidates_eq, same, raised] at ended
    contradiction
  · intro readable limit
    apply isolated_of_readable
    intro response listed
    have good := none_notMem_responseEvents.mpr (readable response listed)
    apply none_notMem_responseEvents.mp
    exact good

end Good

/-! ## A superscript digit -/

/-- A response with one file. -/
def oneFile (username filename : String) : PyValue :=
  .dict
    [(str "username", .str (str username)),
      (str "files", .list
        [.dict [(str "filename", .str (str filename)), (str "size", .int 1000)]])]

/-- Names that are in lower case, and a token. -/
def plainPython : Python where
  repr _ := []
  lower := id
  digest _ := str "0f"

/-- Every folder is long enough. -/
def openSettings : Settings where
  minTracks := 1
  maxFiles := 300
  maxBytes := 0
  searchResponseLimit := 50

/-- A search for anything. -/
def anySearch : Search where
  searchText := str "a"
  artist := []
  album := []
  year := none

/-- `"²".isdigit()` holds, and `int("²")` raises: the other peer's candidate is lost with it. -/
theorem not_isolated_superscript :
    candidates openSettings plainPython anySearch
        [oneFile "one" "album/\u00b2.flac", oneFile "two" "album/2.flac"] none = none ∧
      ¬Isolated openSettings plainPython anySearch
        [oneFile "one" "album/\u00b2.flac", oneFile "two" "album/2.flac"] none := by
  have raised : candidates openSettings plainPython anySearch
      [oneFile "one" "album/\u00b2.flac", oneFile "two" "album/2.flac"] none = none := by rfl
  refine ⟨raised, ?_⟩
  intro isolated
  obtain ⟨found, ended⟩ := isolated.finishes
  rw [raised] at ended
  contradiction

end Mintarr.Soulseek
