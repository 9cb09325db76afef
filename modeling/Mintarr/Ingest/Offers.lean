import Mintarr.Ingest.LocalFolder

/-!
# Offers of local folders

Everything that a search offers can be ingested where the ingest root is spelled as it resolves,
and no directory that the search goes through lists entries that cannot be looked up.
-/

namespace Mintarr.Ingest

open Lib

namespace LocalFolderAdapter

variable (adapter : LocalFolderAdapter) (files : FileSystem) (table : CaseTable) (asked : Query)

/-- A candidate is taken back under its own id, as the directory that was listed for it; that is
strictly inside of the resolved root, and no link is on the way. -/
structure Ingests (candidate : ReleaseCandidate) : Prop where
  normal : adapter.normalizeCandidateId files candidate.sourceId = .ok candidate.sourceId
  source : ∃ top below, resolve files adapter.ingestRoot = .ok ⟨"/", top⟩ ∧ below ≠ [] ∧
    adapter.resolveSourceDir files candidate.sourceId = .ok ⟨"/", top ++ below⟩ ∧
    files.Reaches ((adapter.ingestRoot.child candidate.artist).child candidate.album)
      (top ++ below) ∧
    ∀ front, front <+: below → isSymlink files ⟨"/", top ++ front⟩ = .ok false

/-- All that a search offers can be ingested, and ids are normalized once and for all. -/
structure Offers : Prop where
  search : ∃ candidates, adapter.search files table asked = .ok candidates ∧
    ∀ candidate ∈ candidates, adapter.Ingests files candidate
  normal : ∀ relPath normal, adapter.normalizeCandidateId files relPath = .ok normal →
    adapter.normalizeCandidateId files normal = .ok normal

/-! ## What a search needs -/

/-- A directory whose entries are listed and cannot be looked up. -/
def Locked (files : FileSystem) (path : PurePath) : Prop :=
  ∃ access entries, files.lookup true path = .ok (.directory access entries) ∧
    access.listable = true ∧ access.searchable = false ∧ entries ≠ []

/-- The loop goes into an artist. -/
def Enters (artist : FileName) : Prop :=
  isOwnDir files (adapter.artistDir artist) = .ok true ∧
    mentions table asked.artist artist.text = true

/-- The loop takes an album: it is asked for and has FLAC files. -/
def takes (artist album : FileName) : Bool :=
  (isOwnDir files (adapter.albumDir artist album)).toOption = some true &&
    mentions table asked.album album.text &&
    mentions table asked.query (artist.text ++ " " ++ album.text) &&
    ((flacFiles files table (adapter.albumDir artist album)).toOption.getD []) ≠ []

/-- The albums of an artist that the loop takes. -/
def albums (artist : FileName) : List FileName :=
  if (isOwnDir files (adapter.artistDir artist)).toOption = some true ∧
      mentions table asked.artist artist.text = true then
    (listing files (adapter.artistDir artist)).filter (adapter.takes files table asked artist)
  else []

/-- Where all that a search offers can be ingested. -/
structure Serves : Prop where
  /-- What the root lists can be looked up. -/
  searchable : ¬Locked files adapter.ingestRoot
  /-- So can what an artist lists, or a hundred albums come before. -/
  behind : ∀ before artist after,
    listing files adapter.ingestRoot = before ++ artist :: after →
      adapter.Enters files table asked artist → Locked files (adapter.artistDir artist) →
        100 ≤ (before.flatMap (adapter.albums files table asked)).length
  /-- The root is spelled as it resolves, or there is no album. -/
  spelled : ∀ artist ∈ listing files adapter.ingestRoot,
    adapter.albums files table asked artist ≠ [] →
      resolve files adapter.ingestRoot = .ok adapter.ingestRoot

/-! ## What the loops meet -/

/-- What the inner loop meets in an album. -/
def albumMet (root : PurePath) (artist album : FileName) : List (Except Raised ReleaseCandidate) :=
  match adapter.albumOffer files table asked root artist album with
  | .error raised => [.error raised]
  | .ok none => []
  | .ok (some candidate) => [.ok candidate]

/-- What the outer loop meets in an artist. -/
def artistMet (root : PurePath) (artist : FileName) : List (Except Raised ReleaseCandidate) :=
  match isOwnDir files (adapter.artistDir artist) with
  | .error fault => [.error (.osError fault)]
  | .ok false => []
  | .ok true =>
      if mentions table asked.artist artist.text then
        (listing files (adapter.artistDir artist)).flatMap
          (adapter.albumMet files table asked root artist)
      else []

variable {adapter files table asked} {root path : PurePath} {artist album name : FileName}
  {candidates : List ReleaseCandidate} {candidate : ReleaseCandidate} {here : List String}
  {access : Access} {entries : List (FileName × Node)}

theorem visitAlbum_eq_foldlM : adapter.visitAlbum files table asked root artist candidates album =
    (adapter.albumMet files table asked root artist album).foldlM (collectStep 100) candidates := by
  rw [visitAlbum, albumMet]
  cases adapter.albumOffer files table asked root artist album with
  | error raised => rfl
  | ok offer =>
      cases offer with
      | none => rfl
      | some candidate => exact (bind_pure _).symm

theorem visitArtist_eq_foldlM : adapter.visitArtist files table asked root candidates artist =
    (adapter.artistMet files table asked root artist).foldlM (collectStep 100) candidates := by
  rw [visitArtist, artistMet]
  cases isOwnDir files (adapter.artistDir artist) with
  | error fault => rfl
  | ok entered =>
      cases entered with
      | false => rfl
      | true =>
          change (if mentions table asked.artist artist.text = true then _ else _) = List.foldlM _ _
            (if mentions table asked.artist artist.text = true then _ else _)
          split
          · rw [foldlM_flatMap]
            congr
            funext found album
            exact visitAlbum_eq_foldlM
          · rfl

/-- A search gives what it meets, up to a hundred, if nothing raises before. -/
theorem search_eq_ok_iff (enabled : adapter.isEnabled files = .ok true)
    (asks : asked.blank table = false) (resolved : resolve files adapter.ingestRoot = .ok root) :
    adapter.search files table asked = .ok candidates ↔
      Unhindered 100 ((listing files adapter.ingestRoot).flatMap
        (adapter.artistMet files table asked root)) ∧
      (collected ((listing files adapter.ingestRoot).flatMap
        (adapter.artistMet files table asked root))).take 100 = candidates := by
  have loop : adapter.search files table asked =
      Ending.result (((listing files adapter.ingestRoot).flatMap
        (adapter.artistMet files table asked root)).foldlM (collectStep 100) []) := by
    rw [search, enabled, asks, resolved, foldlM_flatMap]
    have visits : adapter.visitArtist files table asked root =
        fun found artist => (adapter.artistMet files table asked root artist).foldlM
          (collectStep 100) found := by
      funext found artist
      exact visitArtist_eq_foldlM
    rw [← visits]
    rfl
  rw [loop]
  exact @collect_eq_ok_iff Raised ReleaseCandidate 100 _ [] candidates (Nat.succ_pos 99)

/-! ## Directories -/

/-- What is listed is in a directory that the system gets to. -/
theorem exists_of_mem_listing (listed : name ∈ listing files path) :
    ∃ here access entries, files.Reaches path here ∧
      files.tree.find here = .ok (.directory access entries) ∧ access.listable = true ∧
      name ∈ Node.names entries := by
  have read : ∃ names, iterdir files path = .ok names ∧ name ∈ names := by
    rw [listing] at listed
    cases names : iterdir files path with
    | error fault =>
        rw [names] at listed
        contradiction
    | ok names' =>
        rw [names] at listed
        exact ⟨names', rfl, (List.perm_insertionSort _ _).mem_iff.mp listed⟩
  obtain ⟨names, read, member⟩ := read
  rw [iterdir] at read
  cases found : files.lookup true path with
  | error fault =>
      rw [found] at read
      contradiction
  | ok node =>
      rw [found] at read
      obtain ⟨here, reaches, there⟩ := FileSystem.reaches_of_lookup found
      cases node with
      | file size => contradiction
      | special => contradiction
      | symlink target => contradiction
      | directory access entries =>
          have listed : (if access.listable = true then Except.ok (Node.names entries)
            else .error Fault.denied) = .ok names := read
          split at listed
          · next listable =>
              cases listed
              exact ⟨here, access, entries, reaches, there, listable, member⟩
          · contradiction

/-- A locked directory lists something. -/
theorem Locked.listing (locked : Locked files path) : ∃ name, name ∈ listing files path := by
  obtain ⟨access, entries, found, listable, _, nonempty⟩ := locked
  obtain ⟨entry, member⟩ := List.exists_mem_of_ne_nil entries nonempty
  have read : iterdir files path = .ok (Node.names entries) := by
    have whole : iterdir files path =
        if access.listable = true then .ok (Node.names entries) else .error .denied := by
      rw [iterdir, found]
      rfl
    rw [whole, if_pos listable]
  refine ⟨entry.1, ?_⟩
  rw [Mintarr.Ingest.listing, read]
  apply (List.perm_insertionSort _ _).mem_iff.mpr
  rw [Node.names, List.mem_dedup]
  exact List.mem_map_of_mem member

/-- Nothing below a locked directory is looked at. -/
theorem Locked.isOwnDir (locked : Locked files path) (name : FileName) :
    isOwnDir files (path.child name.text) = .error .denied := by
  obtain ⟨access, entries, found, _, closed, _⟩ := locked
  obtain ⟨here, reaches, there⟩ := FileSystem.reaches_of_lookup found
  have denied : files.tree.find (here ++ [name.text]) = .error .denied := by
    rw [Node.find_append, there]
    change (if access.searchable = true then _ else _) = _
    rw [closed]
    rfl
  rw [Mintarr.Ingest.isOwnDir, isSymlink, reaches.lookup_child name.proper.2.1, denied]
  rfl

/-- What another directory lists is looked at. -/
theorem isOwnDir_of_not_locked (unlocked : ¬Locked files path)
    (listed : name ∈ listing files path) :
    ∃ own, isOwnDir files (path.child name.text) = .ok own := by
  obtain ⟨here, access, entries, reaches, there, listable, member⟩ := exists_of_mem_listing listed
  have searchable : access.searchable = true := by
    cases closed : access.searchable with
    | true => rfl
    | false =>
        refine absurd ⟨access, entries, ?_, listable, closed, ?_⟩ unlocked
        · rw [reaches.lookup, there]
        · rintro rfl
          contradiction
  obtain ⟨node, entry⟩ := Option.isSome_iff_exists.mp (Node.isSome_entryNamed member)
  have found : files.tree.find (here ++ [name.text]) = .ok node := by
    rw [Node.find_append, there]
    exact Node.find_singleton searchable entry
  have below := name.proper.2.1
  rw [isOwnDir, isSymlink, reaches.lookup_child below, found]
  cases linked : node.isSymlink with
  | true =>
      refine ⟨false, ?_⟩
      change (if node.isSymlink = true then _ else _) = _
      rw [linked]
      rfl
  | false =>
      refine ⟨node.isDirectory, ?_⟩
      have follows := reaches.lookup_follow below (by
        intro target link
        rw [found, Except.ok.injEq] at link
        rw [link] at linked
        contradiction)
      change (if node.isSymlink = true then _ else isDir files (path.child name.text)) = _
      rw [linked, isDir, follows, found]
      rfl

/-- A directory that is no link is reached below the one it is in. -/
theorem reaches_of_isOwnDir (reaches : files.Reaches path here)
    (own : isOwnDir files (path.child name.text) = .ok true) :
    files.Reaches (path.child name.text) (here ++ [name.text]) ∧
      ∃ access entries,
        files.tree.find (here ++ [name.text]) = .ok (.directory access entries) := by
  have below := name.proper.2.1
  rw [isOwnDir, bind_eq_ok_iff] at own
  obtain ⟨linked, looked, own⟩ := own
  cases linked with
  | true => simp [pure, Except.pure] at own
  | false =>
      have noLink : ∀ target, files.tree.find (here ++ [name.text]) ≠ .ok (.symlink target) := by
        intro target link
        rw [isSymlink, reaches.lookup_child below, link] at looked
        simp [test, Node.isSymlink] at looked
      have directory : isDir files (path.child name.text) = .ok true := own
      rw [isDir, reaches.lookup_follow below noLink] at directory
      obtain ⟨access, entries, found⟩ := directory_of_test directory
      refine ⟨reaches.child below found ?_, access, entries, found⟩
      intro target same
      cases same

/-! ## Albums -/

theorem isFile_of_isFlac {file : PurePath} (keeps : isFlac files table file = .ok true) :
    ∃ size, stSize files file = .ok size := by
  rw [isFlac, bind_eq_ok_iff] at keeps
  obtain ⟨regular, looked, kept⟩ := keeps
  cases regular with
  | false => simp [pure, Except.pure] at kept
  | true =>
      rw [isFile] at looked
      cases found : files.lookup true file with
      | ok node => exact ⟨node.size, by rw [stSize, found]; rfl⟩
      | error fault =>
          rw [found] at looked
          cases fault <;> simp [test] at looked

/-- The files that are kept have sizes. -/
theorem totalSize_flacAmong {paths flac : List PurePath}
    (kept : flacAmong files table paths = .ok flac) :
    ∃ total, totalSize files flac = .ok total := by
  induction paths generalizing flac with
  | nil =>
      cases kept
      exact ⟨0, rfl⟩
  | cons file rest ih =>
      rw [flacAmong, bind_eq_ok_iff] at kept
      obtain ⟨keeps, decided, kept⟩ := kept
      rw [bind_eq_ok_iff] at kept
      obtain ⟨others, among, returned⟩ := kept
      obtain ⟨total, sizes⟩ := ih among
      cases keeps with
      | false =>
          cases returned
          exact ⟨total, sizes⟩
      | true =>
          cases returned
          obtain ⟨size, measured⟩ := isFile_of_isFlac decided
          refine ⟨size + total, ?_⟩
          change (totalSize files (file :: others)) = _
          rw [totalSize, measured, sizes]
          rfl

theorem eq_ok_of_toOption {ε α : Type} {outcome : Except ε α} {value : α}
    (given : outcome.toOption = some value) : outcome = .ok value := by
  cases outcome with
  | error error => contradiction
  | ok other =>
      cases given
      rfl

theorem isOwnDir_of_takes (takes : adapter.takes files table asked artist album = true) :
    isOwnDir files (adapter.albumDir artist album) = .ok true := by
  rw [LocalFolderAdapter.takes] at takes
  simp only [Bool.and_eq_true, decide_eq_true_eq] at takes
  exact eq_ok_of_toOption takes.1.1.1

/-- What is met in an album that the loop takes is its candidate, or what building it raises. -/
theorem albumMet_of_takes (root : PurePath)
    (takes : adapter.takes files table asked artist album = true) :
    ∃ flac total, totalSize files flac = .ok total ∧
      adapter.albumMet files table asked root artist album =
        [adapter.candidateOf files root artist album flac] := by
  have own := isOwnDir_of_takes takes
  rw [LocalFolderAdapter.takes] at takes
  simp only [Bool.and_eq_true, decide_eq_true_eq] at takes
  obtain ⟨⟨⟨_, namesAlbum⟩, namesBoth⟩, some_⟩ := takes
  cases flac : flacFiles files table (adapter.albumDir artist album) with
  | error fault => simp [flac, Except.toOption] at some_
  | ok found =>
      cases found with
      | nil => simp [flac, Except.toOption] at some_
      | cons first others =>
          have kept := flac
          rw [flacFiles, bind_eq_ok_iff] at kept
          obtain ⟨names, _, among⟩ := kept
          obtain ⟨total, sizes⟩ := totalSize_flacAmong among
          refine ⟨first :: others, total, sizes, ?_⟩
          have offer : adapter.albumOffer files table asked root artist album =
              (adapter.candidateOf files root artist album (first :: others)).map some := by
            rw [albumOffer, own]
            change (if (mentions table asked.album album.text &&
              mentions table asked.query (artist.text ++ " " ++ album.text)) = true
              then _ else _) = _
            rw [namesAlbum, namesBoth, flac]
            rfl
          rw [albumMet, offer]
          cases adapter.candidateOf files root artist album (first :: others) <;> rfl

/-- Nothing is met in an album that the loop does not take. -/
theorem albumMet_of_not_takes {own : Bool} (root : PurePath)
    (takes : ¬adapter.takes files table asked artist album = true)
    (looked : isOwnDir files (adapter.albumDir artist album) = .ok own) :
    adapter.albumMet files table asked root artist album = [] := by
  have offer : adapter.albumOffer files table asked root artist album = .ok none := by
    cases own with
    | false =>
        rw [albumOffer, looked]
    | true =>
        rw [albumOffer, looked]
        change (if (mentions table asked.album album.text &&
          mentions table asked.query (artist.text ++ " " ++ album.text)) = true then _ else _) = _
        split
        · next named =>
            rw [Bool.and_eq_true] at named
            cases flac : flacFiles files table (adapter.albumDir artist album) with
            | error fault => rfl
            | ok found =>
                cases found with
                | nil => rfl
                | cons first others =>
                    refine absurd ?_ takes
                    simp [LocalFolderAdapter.takes, looked, named, flac, Except.toOption]
        · rfl
  rw [albumMet, offer]

theorem albumMet_of_locked (root : PurePath) (locked : Locked files (adapter.artistDir artist)) :
    adapter.albumMet files table asked root artist album = [.error (.osError .denied)] := by
  have looked := locked.isOwnDir album
  rw [← albumDir] at looked
  have offer : adapter.albumOffer files table asked root artist album =
      .error (.osError .denied) := by
    rw [albumOffer, looked]
  rw [albumMet, offer]

/-! ## Artists -/

theorem artistMet_of_enters (root : PurePath) (enters : adapter.Enters files table asked artist) :
    adapter.artistMet files table asked root artist =
      (listing files (adapter.artistDir artist)).flatMap
        (adapter.albumMet files table asked root artist) := by
  rw [artistMet, enters.1]
  change (if mentions table asked.artist artist.text = true then _ else _) = _
  rw [if_pos enters.2]

theorem artistMet_of_not_enters {own : Bool} (root : PurePath)
    (enters : ¬adapter.Enters files table asked artist)
    (looked : isOwnDir files (adapter.artistDir artist) = .ok own) :
    adapter.artistMet files table asked root artist = [] := by
  cases own with
  | false => rw [artistMet, looked]
  | true =>
      rw [artistMet, looked]
      change (if mentions table asked.artist artist.text = true then _ else _) = _
      rw [if_neg]
      intro named
      exact enters ⟨looked, named⟩

theorem artistMet_of_locked (root : PurePath) (locked : Locked files adapter.ingestRoot) :
    adapter.artistMet files table asked root artist = [.error (.osError .denied)] := by
  have looked := locked.isOwnDir artist
  rw [← artistDir] at looked
  rw [artistMet, looked]

theorem albums_of_enters (enters : adapter.Enters files table asked artist) :
    adapter.albums files table asked artist =
      (listing files (adapter.artistDir artist)).filter
        (adapter.takes files table asked artist) := by
  rw [albums, if_pos]
  exact ⟨by rw [enters.1]; rfl, enters.2⟩

theorem enters_of_mem_albums (listed : album ∈ adapter.albums files table asked artist) :
    adapter.Enters files table asked artist := by
  rw [albums] at listed
  split at listed
  · next entered => exact ⟨eq_ok_of_toOption entered.1, entered.2⟩
  · contradiction

/-- Nothing is collected of an album that the loop does not take. -/
theorem collected_albumMet_of_not_takes (root : PurePath)
    (listed : album ∈ listing files (adapter.artistDir artist))
    (takes : ¬adapter.takes files table asked artist album = true) :
    collected (adapter.albumMet files table asked root artist album) = [] := by
  by_cases locked : Locked files (adapter.artistDir artist)
  · rw [albumMet_of_locked root locked]
    rfl
  · obtain ⟨own, looked⟩ := isOwnDir_of_not_locked locked listed
    rw [albumMet_of_not_takes root takes looked]
    rfl

/-- No more is collected than the albums that are taken. -/
theorem length_collected_le (root : PurePath)
    (listed : artist ∈ listing files adapter.ingestRoot) :
    (collected (adapter.artistMet files table asked root artist)).length ≤
      (adapter.albums files table asked artist).length := by
  by_cases enters : adapter.Enters files table asked artist
  · rw [artistMet_of_enters root enters, albums_of_enters enters, collected_flatMap,
      filter_eq_flatMap]
    apply length_flatMap_le
    intro album listed
    by_cases takes : adapter.takes files table asked artist album = true
    · obtain ⟨flac, total, _, met⟩ := albumMet_of_takes root takes
      rw [if_pos takes, met]
      exact List.length_filterMap_le _ _
    · rw [collected_albumMet_of_not_takes root listed takes]
      exact Nat.zero_le _
  · by_cases locked : Locked files adapter.ingestRoot
    · rw [artistMet_of_locked root locked]
      exact Nat.zero_le _
    · obtain ⟨own, looked⟩ := isOwnDir_of_not_locked locked listed
      rw [artistMet_of_not_enters root enters looked]
      exact Nat.zero_le _

/-- What is collected is made of an album that the loop takes. -/
theorem exists_of_mem_met (met : .ok candidate ∈ (listing files adapter.ingestRoot).flatMap
      (adapter.artistMet files table asked root)) :
    ∃ artist album flac total, artist ∈ listing files adapter.ingestRoot ∧
      album ∈ adapter.albums files table asked artist ∧ totalSize files flac = .ok total ∧
      adapter.candidateOf files root artist album flac = .ok candidate := by
  obtain ⟨artist, listed, inArtist⟩ := List.mem_flatMap.mp met
  by_cases enters : adapter.Enters files table asked artist
  · rw [artistMet_of_enters root enters] at inArtist
    obtain ⟨album, listedAlbum, inAlbum⟩ := List.mem_flatMap.mp inArtist
    by_cases takes : adapter.takes files table asked artist album = true
    · obtain ⟨flac, total, sizes, shape⟩ := albumMet_of_takes root takes
      rw [shape, List.mem_singleton] at inAlbum
      refine ⟨artist, album, flac, total, listed, ?_, sizes, inAlbum.symm⟩
      rw [albums_of_enters enters]
      exact List.mem_filter.mpr ⟨listedAlbum, takes⟩
    · have nothing := collected_albumMet_of_not_takes root listedAlbum takes
      rw [← mem_collected, nothing] at inAlbum
      contradiction
  · by_cases locked : Locked files adapter.ingestRoot
    · rw [artistMet_of_locked root locked, List.mem_singleton] at inArtist
      cases inArtist
    · obtain ⟨own, looked⟩ := isOwnDir_of_not_locked locked listed
      rw [artistMet_of_not_enters root enters looked] at inArtist
      contradiction

/-! ## A root that is spelled as it resolves -/

/-- An id that is its own normal form spells the whole path, and so the root, as it resolves. -/
theorem spelled_of_normal {flac : List PurePath}
    (resolved : resolve files adapter.ingestRoot = .ok root)
    (made : adapter.candidateOf files root artist album flac = .ok candidate)
    (normal : adapter.normalizeCandidateId files candidate.sourceId = .ok candidate.sourceId) :
    root = adapter.ingestRoot := by
  have rel : ∃ rest, (adapter.albumDir artist album).root = root.root ∧
      root.parts ++ rest = (adapter.albumDir artist album).parts ∧
      candidate.sourceId = PurePath.asPosix ⟨"", rest⟩ := by
    rw [candidateOf] at made
    split at made
    · cases made
    · cases made
    · next path total below sizes =>
        cases made
        rw [PurePath.relativeTo] at below
        split at below
        · next within =>
            cases below
            rw [PurePath.isRelativeTo, Bool.and_eq_true, decide_eq_true_eq,
              List.isPrefixOf_iff_prefix] at within
            obtain ⟨rest, shape⟩ := within.2
            refine ⟨rest, within.1, shape, ?_⟩
            rw [← shape, List.drop_left]
            rfl
        · contradiction
  obtain ⟨rest, sameRoot, shape, sourceId⟩ := rel
  have plain : ∀ part ∈ rest, PurePath.IsPart part := by
    have names : (adapter.albumDir artist album).parts =
        adapter.ingestRoot.parts ++ [artist.text] ++ [album.text] := rfl
    intro part listed
    have member : part ∈ adapter.ingestRoot.parts ++ [artist.text] ++ [album.text] := by
      rw [← names, ← shape]
      exact List.mem_append_right _ listed
    rw [List.mem_append, List.mem_append, List.mem_singleton, List.mem_singleton] at member
    obtain (above | rfl) | rfl := member
    · exact adapter.plain part above
    · exact ⟨artist.proper.1, artist.proper.2.2⟩
    · exact ⟨album.proper.1, album.proper.2.2⟩
  rw [sourceId] at normal
  obtain ⟨top, below, accepts, text⟩ := normalizeCandidateId_eq_ok_iff.mp normal
  have same := accepts.resolved
  rw [resolved, Except.ok.injEq] at same
  obtain ⟨top', below', access, entries, topSame, belowSame, straight, found⟩ := accepts.place
  cases topSame
  rw [PurePath.mk.injEq] at belowSame
  rw [← belowSame.2] at straight found
  have spelled : below = rest := by
    have read := congrArg PurePath.ofString text
    rw [PurePath.ofString_asPosix (isPart_of_find found), PurePath.ofString_asPosix plain] at read
    exact congrArg PurePath.parts read
  rw [spelled] at straight found
  rw [same] at shape sameRoot
  rw [shape] at straight found
  have sound : Node.Sound files.tree (adapter.albumDir artist album).parts := by
    refine ⟨straight, ?_⟩
    rw [found]
    rfl
  have above : Node.Sound files.tree adapter.ingestRoot.parts := by
    apply sound.above
    refine ⟨[artist.text, album.text], ?_⟩
    rw [List.append_cons]
    rfl
  have reaches := FileSystem.reaches_straight above.straight above.found
  have rooted : adapter.ingestRoot = ⟨"/", adapter.ingestRoot.parts⟩ :=
    congrArg (fun root => PurePath.mk root adapter.ingestRoot.parts) sameRoot
  rw [← rooted] at reaches
  rw [resolve_eq_ok_iff, reaches.resolve, ← rooted, Option.some.injEq] at resolved
  exact resolved.symm

/-- An album is taken back by the names of its directories. -/
theorem ingests_of_isOwnDir {total : Nat} (reaches : files.Reaches adapter.ingestRoot here)
    (ownArtist : isOwnDir files (adapter.artistDir artist) = .ok true)
    (ownAlbum : isOwnDir files (adapter.albumDir artist album) = .ok true) :
    adapter.Ingests files (localCandidate artist album
      (PurePath.asPosix ⟨"", [artist.text, album.text]⟩) total) := by
  have resolved := resolve_eq_ok_iff.mpr reaches.resolve
  obtain ⟨reachesArtist, _⟩ := reaches_of_isOwnDir reaches ownArtist
  obtain ⟨reachesAlbum, access, entries, found⟩ := reaches_of_isOwnDir reachesArtist ownAlbum
  rw [List.append_assoc, List.singleton_append] at reachesAlbum found
  have sound := reachesAlbum.sound
  have accepts := accepts_asPosix resolved sound.straight found
  constructor
  · exact normalizeCandidateId_eq_ok_iff.mpr ⟨here, _, accepts, rfl⟩
  · refine ⟨here, [artist.text, album.text], resolved, List.cons_ne_nil _ _,
      resolveSourceDir_eq_ok_iff.mpr ⟨_, accepts⟩, reachesAlbum, ?_⟩
    intro front within
    apply isSymlink_sound
    exact sound.above ((List.prefix_append_right_inj here).mpr within)

/-- What is offered from a root that is spelled as it resolves. -/
theorem candidateOf_self {flac : List PurePath} {total : Nat}
    (sizes : totalSize files flac = .ok total) :
    adapter.candidateOf files adapter.ingestRoot artist album flac =
      .ok (localCandidate artist album
        (PurePath.asPosix ⟨"", [artist.text, album.text]⟩) total) := by
  have below : (adapter.albumDir artist album).relativeTo adapter.ingestRoot =
      some ⟨"", [artist.text, album.text]⟩ := by
    simp [albumDir, artistDir, PurePath.child, PurePath.relativeTo, PurePath.isRelativeTo]
  rw [candidateOf, below, sizes]

/-- Every album that is taken is collected. -/
theorem length_albums_le (artist : FileName) :
    (adapter.albums files table asked artist).length ≤
      (collected (adapter.artistMet files table asked adapter.ingestRoot artist)).length := by
  by_cases enters : adapter.Enters files table asked artist
  · rw [artistMet_of_enters _ enters, albums_of_enters enters, collected_flatMap,
      filter_eq_flatMap]
    apply length_flatMap_le
    intro album listed
    split
    · next takes =>
        obtain ⟨flac, total, sizes, met⟩ := albumMet_of_takes adapter.ingestRoot takes
        rw [met, candidateOf_self sizes]
        exact Nat.le_refl 1
    · exact Nat.zero_le _
  · have none_ : adapter.albums files table asked artist = [] := by
      apply List.eq_nil_iff_forall_not_mem.mpr
      intro album listed
      exact enters (enters_of_mem_albums listed)
    rw [none_]
    exact Nat.zero_le _

/-! ## Offers -/

theorem reaches_of_isEnabled (enabled : adapter.isEnabled files = .ok true) :
    ∃ here, files.Reaches adapter.ingestRoot here := by
  rw [isEnabled, isDir] at enabled
  obtain ⟨access, entries, found⟩ := directory_of_test enabled
  obtain ⟨here, reaches, _⟩ := FileSystem.reaches_of_lookup found
  exact ⟨here, reaches⟩

/-- What raises before anything is collected ends the search. -/
theorem eq_nil_of_unhindered {met : List (Except Raised ReleaseCandidate)} {raised : Raised}
    (unhindered : Unhindered 100 met) (raises : .error raised ∈ met) : collected met ≠ [] := by
  obtain ⟨front, back, rfl⟩ := List.append_of_mem raises
  have enough := unhindered front raised back rfl
  intro nothing
  rw [collected_append, List.append_eq_nil_iff] at nothing
  rw [nothing.1] at enough
  contradiction

/-- A search whose offers can all be ingested has what it needs. -/
theorem Offers.serves (offers : adapter.Offers files table asked)
    (enabled : adapter.isEnabled files = .ok true) (asks : asked.blank table = false) :
    adapter.Serves files table asked := by
  obtain ⟨here, reaches⟩ := reaches_of_isEnabled enabled
  have resolved := resolve_eq_ok_iff.mpr reaches.resolve
  obtain ⟨candidates, searched, ingests⟩ := offers.search
  obtain ⟨unhindered, cut⟩ := (search_eq_ok_iff enabled asks resolved).mp searched
  have parts := unhindered_flatMap.mp unhindered
  constructor
  · intro locked
    obtain ⟨name, listed⟩ := locked.listing
    obtain ⟨first, rest, shape⟩ := List.exists_cons_of_ne_nil (List.ne_nil_of_mem listed)
    have first_ := parts [] first rest shape
    rw [artistMet_of_locked _ locked, unhindered_error] at first_
    contradiction
  · intro before artist after shape enters locked
    have stops := parts before artist after shape
    obtain ⟨name, listed⟩ := locked.listing
    obtain ⟨first, rest, names⟩ := List.exists_cons_of_ne_nil (List.ne_nil_of_mem listed)
    rw [artistMet_of_enters _ enters, names, List.flatMap_cons, albumMet_of_locked _ locked,
      List.singleton_append, unhindered_error, Nat.sub_eq_zero_iff_le, collected_flatMap] at stops
    apply stops.trans
    apply length_flatMap_le
    intro earlier member
    apply length_collected_le
    rw [shape]
    exact List.mem_append_left _ member
  · intro artist listed nonempty
    obtain ⟨album, member⟩ := List.exists_mem_of_ne_nil _ nonempty
    have enters := enters_of_mem_albums member
    rw [albums_of_enters enters, List.mem_filter] at member
    obtain ⟨flac, total, _, met⟩ := albumMet_of_takes ⟨"/", here⟩ member.2
    have outcome : adapter.candidateOf files ⟨"/", here⟩ artist album flac ∈
        (listing files adapter.ingestRoot).flatMap
          (adapter.artistMet files table asked ⟨"/", here⟩) := by
      rw [List.mem_flatMap]
      refine ⟨artist, listed, ?_⟩
      rw [artistMet_of_enters _ enters, List.mem_flatMap]
      refine ⟨album, member.1, ?_⟩
      rw [met]
      exact List.mem_cons_self
    have some_ : collected ((listing files adapter.ingestRoot).flatMap
        (adapter.artistMet files table asked ⟨"/", here⟩)) ≠ [] := by
      cases made : adapter.candidateOf files ⟨"/", here⟩ artist album flac with
      | error raised =>
          rw [made] at outcome
          exact eq_nil_of_unhindered unhindered outcome
      | ok candidate =>
          rw [made] at outcome
          exact List.ne_nil_of_mem (mem_collected.mpr outcome)
    obtain ⟨candidate, rest, first⟩ := List.exists_cons_of_ne_nil some_
    have returned : candidate ∈ candidates := by
      rw [← cut, first, List.take_succ_cons]
      exact List.mem_cons_self
    have inMet : .ok candidate ∈ (listing files adapter.ingestRoot).flatMap
        (adapter.artistMet files table asked ⟨"/", here⟩) := by
      rw [← mem_collected, first]
      exact List.mem_cons_self
    obtain ⟨_, _, _, _, _, _, _, made⟩ := exists_of_mem_met inMet
    rw [resolved, spelled_of_normal resolved made (ingests candidate returned).normal]

/-- A search that has what it needs is not hindered. -/
theorem Serves.unhindered (serves : adapter.Serves files table asked)
    (resolved : resolve files adapter.ingestRoot = .ok root) :
    Unhindered 100 ((listing files adapter.ingestRoot).flatMap
      (adapter.artistMet files table asked root)) := by
  rw [unhindered_flatMap]
  intro before artist after shape
  have listed : artist ∈ listing files adapter.ingestRoot := by
    rw [shape]
    exact List.mem_append_right _ List.mem_cons_self
  have rooted : ∀ other ∈ listing files adapter.ingestRoot,
      adapter.albums files table asked other ≠ [] → root = adapter.ingestRoot := by
    intro other member nonempty
    have same := serves.spelled other member nonempty
    rw [resolved, Except.ok.injEq] at same
    exact same
  by_cases enters : adapter.Enters files table asked artist
  · by_cases locked : Locked files (adapter.artistDir artist)
    · have enough := serves.behind before artist after shape enters locked
      have nonempty : before.flatMap (adapter.albums files table asked) ≠ [] := by
        intro nothing
        rw [nothing] at enough
        contradiction
      obtain ⟨album, member⟩ := List.exists_mem_of_ne_nil _ nonempty
      obtain ⟨other, earlier, some_⟩ := List.mem_flatMap.mp member
      have spelled := rooted other (by rw [shape]; exact List.mem_append_left _ earlier)
        (List.ne_nil_of_mem some_)
      have collects : 100 ≤
          (collected (before.flatMap (adapter.artistMet files table asked root))).length := by
        rw [collected_flatMap, spelled]
        exact enough.trans (length_flatMap_le fun artist _ => length_albums_le artist)
      rw [Nat.sub_eq_zero_of_le collects]
      exact unhindered_zero
    · rw [artistMet_of_enters root enters]
      apply unhindered_of_ok
      intro raised met
      obtain ⟨album, listedAlbum, inAlbum⟩ := List.mem_flatMap.mp met
      by_cases takes : adapter.takes files table asked artist album = true
      · obtain ⟨flac, total, sizes, alone⟩ := albumMet_of_takes root takes
        have some_ : album ∈ adapter.albums files table asked artist := by
          rw [albums_of_enters enters]
          exact List.mem_filter.mpr ⟨listedAlbum, takes⟩
        rw [alone, rooted artist listed (List.ne_nil_of_mem some_), candidateOf_self sizes,
          List.mem_singleton] at inAlbum
        cases inAlbum
      · obtain ⟨own, looked⟩ := isOwnDir_of_not_locked locked listedAlbum
        rw [albumMet_of_not_takes root takes looked] at inAlbum
        contradiction
  · obtain ⟨own, looked⟩ := isOwnDir_of_not_locked serves.searchable listed
    rw [artistMet_of_not_enters root enters looked]
    exact unhindered_of_ok fun _ => List.not_mem_nil

/-- A search that has what it needs offers what can be ingested. -/
theorem Serves.offers (serves : adapter.Serves files table asked)
    (enabled : adapter.isEnabled files = .ok true) (asks : asked.blank table = false) :
    ∃ candidates, adapter.search files table asked = .ok candidates ∧
      ∀ candidate ∈ candidates, adapter.Ingests files candidate := by
  obtain ⟨here, reaches⟩ := reaches_of_isEnabled enabled
  have resolved := resolve_eq_ok_iff.mpr reaches.resolve
  refine ⟨_, (search_eq_ok_iff enabled asks resolved).mpr
    ⟨serves.unhindered resolved, rfl⟩, ?_⟩
  intro candidate returned
  have met := mem_collected.mp (List.mem_of_mem_take returned)
  obtain ⟨artist, album, flac, total, listed, taken, sizes, made⟩ := exists_of_mem_met met
  have enters := enters_of_mem_albums taken
  have spelled := serves.spelled artist listed (List.ne_nil_of_mem taken)
  rw [resolved, Except.ok.injEq] at spelled
  rw [albums_of_enters enters, List.mem_filter] at taken
  rw [spelled, candidateOf_self sizes, Except.ok.injEq] at made
  rw [← made]
  exact ingests_of_isOwnDir reaches enters.1 (isOwnDir_of_takes taken.2)

/-- Ids are normalized once and for all, and what a search offers can be ingested just where it
has what it needs. -/
theorem offers_iff_serves (enabled : adapter.isEnabled files = .ok true) :
    adapter.Offers files table asked ↔
      (asked.blank table = false → adapter.Serves files table asked) := by
  constructor
  · intro offers asks
    exact offers.serves enabled asks
  · intro serves
    constructor
    · cases asks : asked.blank table with
      | true =>
          refine ⟨[], ?_, fun _ listed => absurd listed List.not_mem_nil⟩
          rw [search, enabled, asks]
          rfl
      | false => exact (serves asks).offers enabled asks
    · intro relPath normal
      exact normalizeCandidateId_idem

/-- The lower case of texts without other letters than those of ASCII. -/
def ascii : CaseTable where
  lowerChar c := [c.toLower]
  cased := Char.isAlpha
  ignorable c := c = '.'
  lowerChar_ne_nil _ := List.cons_ne_nil _ _

/-- `/ingest` is a link to `/data`, which holds an album. -/
def linkedRoot : FileSystem where
  access := {}
  entries :=
    [(⟨"data", by decide⟩, .directory {}
      [(⟨"Artist", by decide⟩, .directory {}
        [(⟨"Album", by decide⟩, .directory {} [(⟨"1.flac", by decide⟩, .file 5)])])]),
      (⟨"ingest", by decide⟩, .symlink ⟨"/", ["data"]⟩)]
  cwd := []
  links := 40
  depth := 40
  within := Nat.le_refl 40

/-- The adapter whose root is the link. -/
def linkedAdapter : LocalFolderAdapter where
  ingestRoot := ⟨"/", ["ingest"]⟩
  plain := List.forall_mem_singleton.mpr ⟨by decide, by decide⟩

example : (init (some "/ingest") none).ingestRoot = linkedAdapter.ingestRoot := by rfl

theorem offers_iff_serves_linkedRoot :
    linkedAdapter.Offers linkedRoot ascii ⟨"", "Artist", "Album"⟩ ↔
      ((⟨"", "Artist", "Album"⟩ : Query).blank ascii = false →
        linkedAdapter.Serves linkedRoot ascii ⟨"", "Artist", "Album"⟩) :=
  offers_iff_serves rfl

/-- The album is not below the directory that the link leads to. -/
theorem search_linkedRoot : linkedAdapter.search linkedRoot ascii ⟨"", "Artist", "Album"⟩ =
    .error .valueError := by
  rfl

/-- A search below a root that is a link raises. -/
theorem not_offers_linkedRoot : ¬∀ (adapter : LocalFolderAdapter) (files : FileSystem)
    (table : CaseTable) (asked : Query), adapter.isEnabled files = .ok true →
      adapter.Offers files table asked := by
  intro every
  have offers := every linkedAdapter linkedRoot ascii ⟨"", "Artist", "Album"⟩ rfl
  obtain ⟨candidates, searched, _⟩ := offers.search
  rw [search_linkedRoot] at searched
  contradiction

end LocalFolderAdapter

end Mintarr.Ingest
