import Mathlib.Algebra.GroupWithZero.Nat
import Mathlib.Data.List.Perm.Subperm
import Mintarr.Import.Gates
import Mintarr.Lib.Machine
import Mintarr.Lib.Program
import Mintarr.Lib.PurePath

/-!
# Import progress

A ManualImport is confirmed by what can be seen of it: trackfiles of the albums, records of the
history, sources that are gone.  Between any two requests Lidarr goes on, with this import and
with others.
-/

namespace Mintarr.Import.Progress

open Lib

/-! ## Lidarr -/

/-- The two fields that are read of a history record. -/
structure HistoryRecord where
  downloadId : Option String
  eventType : Option String
  deriving DecidableEq

/-- Lidarr and the output.  `imported` keeps which of the submitted files are imported, and into
which album; nobody reads it. -/
structure World where
  trackfiles : Int → Nat
  /-- The newest record first. -/
  history : List HistoryRecord
  onDisk : PurePath → Bool
  /-- The length of the JSON body that requests are answered with while there is an error. -/
  errorBody : Option Nat := none
  imported : List (PurePath × Int) := []

/-- What happens between two requests. -/
inductive LidarrStep where
  /-- A submitted file is imported: a trackfile, some records, and its source may be moved. -/
  | imports (path : PurePath) (albumId : Int) (downloadId : Option String)
      (records replaced : Nat) (moved : Bool)
  /-- Another file is imported. -/
  | importsOther (albumId : Int) (downloadId : Option String) (records replaced : Nat)
  | deletes (albumId : Int) (count : Nat)
  | logs (record : HistoryRecord)
  /-- Somebody else adds or removes a file of the output. -/
  | places (path : PurePath) (present : Bool)
  /-- An error begins or ends. -/
  | answersWith (errorBody : Option Nat)

namespace World

/-- One trackfile is added to an album, others of it are replaced. -/
def register (world : World) (albumId : Int) (replaced : Nat) : Int → Nat :=
  fun other =>
    if other = albumId then world.trackfiles other - replaced + 1 else world.trackfiles other

/-- An import is written into the history. -/
def record (world : World) (downloadId : Option String) (records : Nat) : List HistoryRecord :=
  List.replicate records ⟨downloadId, some "trackFileImported"⟩ ++ world.history

/-- The outcome of a step. -/
def apply (world : World) : LidarrStep → World
  | .imports path albumId downloadId records replaced moved =>
      { world with
        trackfiles := world.register albumId replaced
        history := world.record downloadId records
        onDisk := fun other => world.onDisk other && !(moved && other = path)
        imported := (path, albumId) :: world.imported }
  | .importsOther albumId downloadId records replaced =>
      { world with
        trackfiles := world.register albumId replaced
        history := world.record downloadId records }
  | .deletes albumId count =>
      { world with
        trackfiles := fun other =>
          if other = albumId then world.trackfiles other - count else world.trackfiles other }
  | .logs record => { world with history := record :: world.history }
  | .places path present =>
      { world with
        onDisk := fun other => if other = path then present else world.onDisk other }
  | .answersWith errorBody => { world with errorBody }

/-- How many submitted files were imported into an album. -/
def importsInto (world : World) (albumId : Int) : Nat :=
  world.imported.countP fun entry => entry.2 = albumId

end World

/-- Lidarr may make any step at any time. -/
def machine : Machine World LidarrStep where
  step world step := some (world.apply step)

/-! ## Requests -/

/-- What the worker asks. -/
inductive Query where
  /-- The trackfiles of an album, before the command. -/
  | preCount (albumId : Int)
  /-- The trackfiles of an album, after it. -/
  | trackfiles (albumId : Int)
  | history
  | sourceExists (path : PurePath)
  | manualImport
  | cancelRequested

/-- The answers; `none` is a raised exception, a list of trackfiles is known by its length. -/
abbrev Answer : Query → Type
  | .preCount _ => Option Nat
  | .trackfiles _ => Option Nat
  | .history => Option (List HistoryRecord)
  | .sourceExists _ => Option Bool
  | .manualImport => Option Int
  | .cancelRequested => Bool

/-- How an attempt is left early. -/
inductive Halt where
  | cancelled
  | raised
  deriving DecidableEq

abbrev Work := Program Query Answer Halt

def request (query : Query) : Work (Answer query) := Program.ask query

/-- `len` of the JSON body that a request for trackfiles is answered with. -/
def World.trackfileBody (world : World) (albumId : Int) : Nat :=
  world.errorBody.getD (world.trackfiles albumId)

/-- The records of the page that a request for the history is answered with. -/
def World.historyPage (world : World) : List HistoryRecord :=
  match world.errorBody with
  | none => world.history.take 100
  | some _ => []

/-- The answers that are possible in a world. -/
def Replies (world : World) : (query : Query) → Answer query → Prop
  | .preCount albumId, answer => answer = none ∨ answer = some (world.trackfileBody albumId)
  | .trackfiles albumId, answer => answer = none ∨ answer = some (world.trackfileBody albumId)
  | .history, answer => answer = none ∨ answer = some world.historyPage
  | .sourceExists path, answer => answer = none ∨ answer = some (world.onDisk path)
  | .manualImport, _ => True
  | .cancelRequested, _ => True

/-- Before a request is answered, Lidarr makes some steps that meet a guard. -/
def lidarr (guard : World → LidarrStep → Prop) : Surroundings Query Answer World where
  answers before query answer after :=
    ∃ steps, machine.RunWhere guard before steps after ∧ Replies after query answer

/-! ## The worker -/

/-- `_lidarr_path_to_output_path`. -/
def lidarrPathToOutputPath (completeRoot : String) (outputBase : PurePath) (path : String) :
    PurePath :=
  let lead := (completeRoot ++ "/").toList
  if lead.isPrefixOf path.toList then
    outputBase.joinpath (.ofString (String.ofList (path.toList.drop lead.length)))
  else .ofString path

/-- An attempt to import some files.  `albums` is the set of their albums, in the order in which
it is gone through. -/
structure Attempt where
  jid : String
  completeRoot : String
  outputBase : PurePath
  files : List ImportFile
  nonempty : files ≠ []
  albums : List Int
  distinct : albums.Nodup
  covers : ∀ albumId, albumId ∈ albums ↔ ∃ file ∈ files, file.albumId = albumId

namespace Attempt

variable (attempt : Attempt)

/-- The file that a submitted path stands for. -/
def source (file : ImportFile) : PurePath :=
  lidarrPathToOutputPath attempt.completeRoot attempt.outputBase file.path

/-- A record of an import under the id of the attempt. -/
def isImport (record : HistoryRecord) : Bool :=
  record.downloadId = some attempt.jid && record.eventType = some "trackFileImported"

/-- `_count_lidarr_imported_history`. -/
def countLidarrImportedHistory : Work Nat := do
  match ← request .history with
  | some records => pure (records.countP attempt.isImport)
  | none => pure 0

/-- `_count_lidarr_trackfiles`. -/
def countLidarrTrackfiles (albumIds : List Int) : Work Nat :=
  albumIds.foldlM (fun total albumId => do
    match ← request (.trackfiles albumId) with
    | some count => pure (total + count)
    | none => pure total) 0

/-- One file of `_count_missing_manualimport_sources`. -/
def countMissing (missing : Nat) (file : ImportFile) : Work Nat := do
  match ← request (.sourceExists (attempt.source file)) with
  | some true => pure missing
  | some false => pure (missing + 1)
  | none => throw .raised

/-- `_count_missing_manualimport_sources`. -/
def countMissingManualimportSources : Work Nat := attempt.files.foldlM attempt.countMissing 0

/-- One album of the first count of `_count_manualimport_progress`. -/
def countAdded (preCounts : Int → Nat) (importedCount : Nat) (albumId : Int) : Work Nat := do
  match ← request (.trackfiles albumId) with
  | some count => pure (importedCount + (count - preCounts albumId))
  | none => pure importedCount

/-- The second count of `_count_manualimport_progress`. -/
def orRecorded (requiredCount importedCount : Nat) : Work Nat :=
  if importedCount < requiredCount then do
    let recorded ← attempt.countLidarrImportedHistory
    pure (max importedCount recorded)
  else pure importedCount

/-- The third count of `_count_manualimport_progress`. -/
def orMissing (requiredCount importedCount : Nat) : Work Nat :=
  if importedCount < requiredCount then do
    let currentTrackfiles ← countLidarrTrackfiles attempt.albums
    let missingSources ← attempt.countMissingManualimportSources
    if currentTrackfiles ≥ requiredCount ∧ missingSources ≥ requiredCount then
      pure currentTrackfiles
    else pure importedCount
  else pure importedCount

/-- `_count_manualimport_progress`; the keys of `preCounts` are the albums. -/
def countManualimportProgress (preCounts : Int → Nat) (requiredCount : Nat) : Work Nat := do
  let added ← attempt.albums.foldlM (countAdded preCounts) 0
  let importedCount ← attempt.orRecorded requiredCount added
  attempt.orMissing requiredCount importedCount

/-- The loop of `_wait_for_manualimport_progress`. -/
def pollProgress (preCounts : Int → Nat) (requiredCount : Nat) : Nat → Nat → Work (Nat × Nat)
  | 0, importedCount => pure (importedCount, requiredCount)
  | attempts + 1, _ => do
      let importedCount ← attempt.countManualimportProgress preCounts requiredCount
      if importedCount ≥ requiredCount then pure (importedCount, requiredCount)
      else pollProgress preCounts requiredCount attempts importedCount

/-- `_wait_for_manualimport_progress`. -/
def waitForManualimportProgress (preCounts : Int → Nat) (timeoutS : Nat := 90)
    (intervalS : Nat := 2) : Work (Nat × Nat) :=
  attempt.pollProgress preCounts (max 1 attempt.files.length)
    (max 1 (timeoutS / intervalS + 1)) 0

/-- One album of the counts before the command. -/
def countBefore (preCounts : Int → Nat) (albumId : Int) : Work (Int → Nat) := do
  match ← request (.preCount albumId) with
  | some count => pure fun other => if other = albumId then count else preCounts other
  | none => pure fun other => if other = albumId then 0 else preCounts other

/-- `_raise_if_job_cancelled`. -/
def raiseIfJobCancelled : Work Unit := do
  if ← request .cancelRequested then throw .cancelled

/-- The ManualImport command, whose status is only logged. -/
def postManualImport : Work Unit := do
  match ← request .manualImport with
  | some _ => pure ()
  | none => throw .raised

/-- Whether `_complete_lidarr_import_without_queue_delete` is called after the wait. -/
def confirmed (counts : Nat × Nat) : Bool := counts.1 ≥ counts.2

/-- `_trigger_lidarr_import` from the counts before the command to the confirmation. -/
def triggerLidarrImport : Work Bool := do
  let preCounts ← attempt.albums.foldlM countBefore fun _ => 0
  raiseIfJobCancelled
  postManualImport
  let counts ← attempt.waitForManualimportProgress preCounts
  pure (confirmed counts)

/-- `_run_manual_import_only` from the counts before the command to the confirmation. -/
def runManualImportOnly : Work Bool := do
  let preCounts ← attempt.albums.foldlM countBefore fun _ => 0
  postManualImport
  raiseIfJobCancelled
  let counts ← attempt.waitForManualimportProgress preCounts
  pure (confirmed counts)

/-- A path is the source of a submitted file. -/
def Submitted (path : PurePath) : Prop := ∃ file ∈ attempt.files, attempt.source file = path

/-- All submitted files are imported. -/
def AllImported (world : World) : Prop :=
  ∀ file ∈ attempt.files, attempt.source file ∈ world.imported.map Prod.fst

/-! ## Evidence of this attempt only -/

/-- The steps that leave no evidence but that of the attempt: a submitted file is imported once
and recorded once, other imports add nothing to the albums and are of other downloads, no source
goes away before its import, and no error body takes the place of a list. -/
def Own (world : World) : LidarrStep → Prop
  | .imports path _ downloadId records _ _ =>
      attempt.Submitted path ∧ path ∉ world.imported.map Prod.fst ∧
        (downloadId = some attempt.jid → records ≤ 1)
  | .importsOther albumId downloadId records replaced =>
      (albumId ∈ attempt.albums → 1 ≤ replaced ∧ 1 ≤ world.trackfiles albumId) ∧
        (downloadId = some attempt.jid → records = 0)
  | .deletes _ _ => True
  | .logs record => attempt.isImport record = false
  | .places path present =>
      present = true ∨ ¬ attempt.Submitted path ∨ path ∈ world.imported.map Prod.fst
  | .answersWith errorBody => errorBody = none

/-- No evidence of an earlier attempt: no import under its id is among the latest records, and
the sources are there. -/
structure Fresh (world : World) : Prop where
  recorded : ∀ record ∈ world.history.take 100, attempt.isImport record = false
  present : ∀ file ∈ attempt.files, world.onDisk (attempt.source file) = true
  healthy : world.errorBody = none
  imported : world.imported = []

/-- A count before the command that raises is taken for zero, and has to be. -/
def PreCounted (_before : World) : (query : Query) → Answer query → World → Prop
  | .preCount albumId, answer, after => answer = none → after.trackfiles albumId = 0
  | _, _, _ => True

/-- All evidence is of submitted files that are imported. -/
structure Accounted (world : World) : Prop where
  once : (world.imported.map Prod.fst).Nodup
  submitted : ∀ path ∈ world.imported.map Prod.fst, attempt.Submitted path
  missing : ∀ path, attempt.Submitted path → world.onDisk path = false →
    path ∈ world.imported.map Prod.fst
  recorded : (world.history.take 100).countP attempt.isImport ≤ world.imported.length
  healthy : world.errorBody = none

/-- What an album has gained since a count is of submitted files. -/
def Gained (albumId : Int) (preCount : Nat) (world : World) : Prop :=
  world.trackfiles albumId ≤ preCount + world.importsInto albumId

variable {attempt}

theorem Fresh.accounted {world : World} (fresh : attempt.Fresh world) :
    attempt.Accounted world where
  once := by simp [fresh.imported]
  submitted := by simp [fresh.imported]
  missing := by
    intro path submitted gone
    obtain ⟨file, listed, rfl⟩ := submitted
    rw [fresh.present file listed] at gone
    cases gone
  recorded := by
    rw [List.countP_eq_zero.mpr]
    · exact Nat.zero_le _
    · intro record shown
      simp [fresh.recorded record shown]
  healthy := fresh.healthy

/-- New records push old ones off the page. -/
theorem countP_take_append (isImport : HistoryRecord → Bool) (added history : List HistoryRecord)
    (page : Nat) : ((added ++ history).take page).countP isImport ≤
      added.countP isImport + (history.take page).countP isImport := by
  rw [List.take_append, List.countP_append]
  apply Nat.add_le_add
  · exact (List.take_sublist page added).countP_le
  · exact (List.take_prefix_take_left (Nat.sub_le page added.length)).sublist.countP_le

/-- The records of one import count if they are under the id of the attempt. -/
theorem countP_replicate_le {downloadId : Option String} {records bound : Nat}
    (bounded : downloadId = some attempt.jid → records ≤ bound) :
    (List.replicate records (⟨downloadId, some "trackFileImported"⟩ : HistoryRecord)).countP
      attempt.isImport ≤ bound := by
  by_cases same : downloadId = some attempt.jid
  · apply Nat.le_trans List.countP_le_length
    rw [List.length_replicate]
    exact bounded same
  · rw [List.countP_eq_zero.mpr]
    · exact Nat.zero_le _
    · intro record mem
      rw [(List.mem_replicate.mp mem).2]
      simp [isImport, same]

/-- What a step of the attempt's own does to the evidence. -/
theorem Accounted.apply {world : World} {step : LidarrStep} (accounted : attempt.Accounted world)
    (own : attempt.Own world step) : attempt.Accounted (world.apply step) := by
  cases step with
  | imports path albumId downloadId records replaced moved =>
      obtain ⟨submitted, new, single⟩ := own
      constructor
      · exact List.nodup_cons.mpr ⟨new, accounted.once⟩
      · intro other mem
        cases List.mem_cons.mp mem with
        | inl same =>
            rw [same]
            exact submitted
        | inr before => exact accounted.submitted other before
      · intro other listed gone
        by_cases same : other = path
        · rw [same]
          exact List.mem_cons_self
        · apply List.mem_cons_of_mem
          apply accounted.missing other listed
          simpa [World.apply, same] using gone
      · apply Nat.le_trans (countP_take_append _ _ _ _)
        have recorded := accounted.recorded
        have added := countP_replicate_le single
        simp only [World.apply, List.length_cons]
        omega
      · exact accounted.healthy
  | importsOther albumId downloadId records replaced =>
      constructor
      · exact accounted.once
      · exact accounted.submitted
      · exact accounted.missing
      · apply Nat.le_trans (countP_take_append _ _ _ _)
        have recorded := accounted.recorded
        have added := countP_replicate_le fun same => Nat.le_of_eq (own.2 same)
        simp only [World.apply]
        omega
      · exact accounted.healthy
  | deletes albumId count =>
      exact ⟨accounted.once, accounted.submitted, accounted.missing, accounted.recorded,
        accounted.healthy⟩
  | logs record =>
      constructor
      · exact accounted.once
      · exact accounted.submitted
      · exact accounted.missing
      · apply Nat.le_trans (countP_take_append _ [record] world.history 100)
        have other : attempt.isImport record = false := own
        simp only [List.countP_cons, List.countP_nil, other]
        have recorded := accounted.recorded
        simpa [World.apply] using recorded
      · exact accounted.healthy
  | places path present =>
      constructor
      · exact accounted.once
      · exact accounted.submitted
      · intro other listed gone
        by_cases same : other = path
        · subst same
          have absent : present = false := by simpa [World.apply] using gone
          rcases own with there | foreign | before
          · rw [there] at absent
            cases absent
          · exact absurd listed foreign
          · exact before
        · apply accounted.missing other listed
          simpa [World.apply, same] using gone
      · exact accounted.recorded
      · exact accounted.healthy
  | answersWith errorBody =>
      exact ⟨accounted.once, accounted.submitted, accounted.missing, accounted.recorded, own⟩

/-- No import is undone. -/
theorem imported_apply (world : World) (step : LidarrStep) :
    world.imported <:+ (world.apply step).imported := by
  cases step with
  | imports path albumId => exact List.suffix_cons (path, albumId) world.imported
  | importsOther => exact List.suffix_refl _
  | deletes => exact List.suffix_refl _
  | logs => exact List.suffix_refl _
  | places => exact List.suffix_refl _
  | answersWith => exact List.suffix_refl _

/-- An album of the attempt gains by the attempt's own steps what they import into it. -/
theorem Gained.apply {world : World} {step : LidarrStep} {albumId : Int} {preCount : Nat}
    (gained : Gained albumId preCount world) (listed : albumId ∈ attempt.albums)
    (own : attempt.Own world step) : Gained albumId preCount (world.apply step) := by
  cases step with
  | imports path into downloadId records replaced moved =>
      simp only [Gained, World.apply, World.register, World.importsInto, List.countP_cons] at *
      by_cases here : albumId = into
      · simp only [here, if_true, decide_true] at *
        omega
      · simp only [if_neg here, if_neg (show ¬ decide (into = albumId) = true by
          simpa using fun same => here same.symm)]
        exact gained
  | importsOther into downloadId records replaced =>
      simp only [Gained, World.apply, World.register, World.importsInto] at *
      by_cases here : albumId = into
      · subst here
        obtain ⟨replaces, some⟩ := own.1 listed
        rw [if_pos rfl]
        omega
      · rw [if_neg here]
        exact gained
  | deletes other count =>
      simp only [Gained, World.apply, World.importsInto] at *
      split
      · omega
      · exact gained
  | logs record => exact gained
  | places path present => exact gained
  | answersWith errorBody => exact gained

/-! ## One request -/

variable (attempt)

/-- The surroundings in which every step is one of the attempt's own. -/
def surroundings : Surroundings Query Answer World := (lidarr attempt.Own).restrict PreCounted

variable {attempt}

/-- The evidence is of imported files, and some albums of the attempt are counted. -/
def Holding (attempt : Attempt) (counted : List Int) (preCounts : Int → Nat)
    (world : World) : Prop :=
  attempt.Accounted world ∧
    ∀ albumId ∈ counted, albumId ∈ attempt.albums ∧ Gained albumId (preCounts albumId) world

/-- What only gets truer the more files are imported. -/
def Grows (holds : World → Prop) : Prop :=
  ∀ before after : World, before.imported <:+ after.imported → holds before → holds after

/-- What an answer finds was brought about by the attempt's own steps. -/
theorem holding_of_answers {before after : World} {counted : List Int} {preCounts : Int → Nat}
    {query : Query} {answer : Answer query} (holding : attempt.Holding counted preCounts before)
    (answered : (lidarr attempt.Own).answers before query answer after) :
    attempt.Holding counted preCounts after ∧ before.imported <:+ after.imported := by
  obtain ⟨steps, run, replied⟩ := answered
  clear replied
  induction run with
  | nil state => exact ⟨holding, List.suffix_refl _⟩
  | cons own stepped _ ih =>
      cases stepped
      have next := ih ⟨holding.1.apply own, fun albumId mem =>
        ⟨(holding.2 albumId mem).1,
          (holding.2 albumId mem).2.apply (holding.2 albumId mem).1 own⟩⟩
      exact ⟨next.1, (imported_apply _ _).trans next.2⟩

/-- The rule of a request: what holds before still holds, and the answer is one of the world
that is found. -/
theorem triple_request {counted : List Int} {preCounts : Int → Nat} {before : World → Prop}
    {query : Query} {after : Answer query → World → Prop} {fail : Halt → World → Prop}
    (grows : Grows before)
    (holds : ∀ answer world, attempt.Holding counted preCounts world → before world →
      Replies world query answer → (∀ start, PreCounted start query answer world) →
      after answer world) :
    attempt.surroundings.Triple
      (fun world => attempt.Holding counted preCounts world ∧ before world) (request query)
      (fun answer world => attempt.Holding counted preCounts world ∧ after answer world)
      fail := by
  apply Surroundings.Triple.ask
  intro start answer world initially answered
  obtain ⟨holding, grown⟩ := holding_of_answers initially.1 answered.1
  obtain ⟨steps, run, replied⟩ := answered.1
  refine ⟨holding, holds answer world holding (grows _ _ grown initially.2) replied ?_⟩
  intro other
  cases query <;> exact answered.2

theorem grows_const (holds : Prop) : Grows fun _ => holds := by
  intro before after grown holds
  exact holds

theorem grows_le_length (count : Nat) : Grows fun world => count ≤ world.imported.length := by
  intro before after grown le
  exact Nat.le_trans le grown.length_le

theorem importsInto_le {before after : World} (grown : before.imported <:+ after.imported)
    (albumId : Int) : before.importsInto albumId ≤ after.importsInto albumId :=
  grown.sublist.countP_le

theorem grows_le_sum (count : Nat) (albums : List Int) :
    Grows fun world => count ≤ (albums.map world.importsInto).sum := by
  intro before after grown le
  apply Nat.le_trans le
  clear le
  induction albums with
  | nil => exact Nat.le_refl _
  | cons albumId albums ih =>
      rw [List.map_cons, List.map_cons, List.sum_cons, List.sum_cons]
      exact Nat.add_le_add (importsInto_le grown albumId) ih

theorem grows_le_countP (count : Nat) (files : List ImportFile) :
    Grows fun world => count ≤ files.countP fun file =>
      attempt.source file ∈ world.imported.map Prod.fst := by
  intro before after grown le
  apply Nat.le_trans le
  apply List.countP_mono_left
  intro file _ mem
  simp only [decide_eq_true_eq] at mem ⊢
  exact (grown.map Prod.fst).subset mem

/-! ## The counts -/

/-- Each import is into one album. -/
theorem sum_importsInto_le {albums : List Int} (distinct : albums.Nodup) (world : World) :
    (albums.map world.importsInto).sum ≤ world.imported.length := by
  have counted : ∀ imported : List (PurePath × Int),
      (albums.map fun albumId => imported.countP fun entry => entry.2 = albumId).sum ≤
        imported.length := by
    induction albums with
    | nil => simp
    | cons albumId albums ih =>
        intro imported
        obtain ⟨new, distinct⟩ := List.nodup_cons.mp distinct
        have others := ih distinct (imported.filter fun entry => ¬ entry.2 = albumId)
        have same : (albums.map fun other => (imported.filter fun entry =>
              ¬ entry.2 = albumId).countP fun entry => entry.2 = other) =
            albums.map fun other => imported.countP fun entry => entry.2 = other := by
          apply List.map_congr_left
          intro other mem
          rw [List.countP_filter]
          apply List.countP_congr
          intro entry _
          have different : other ≠ albumId := by
            intro same
            exact new (same ▸ mem)
          simp only [Bool.and_eq_true, decide_eq_true_eq]
          constructor
          · intro both
            exact both.1
          · intro into
            exact ⟨into, fun same => different (into.symm.trans same)⟩
        rw [same] at others
        have split := List.length_eq_countP_add_countP
          (fun entry : PurePath × Int => decide (entry.2 = albumId)) (l := imported)
        have rest : (imported.filter fun entry => ¬ entry.2 = albumId).length =
            imported.countP fun entry => decide ¬decide (entry.2 = albumId) = true := by
          rw [List.countP_eq_length_filter]
          simp
        rw [List.map_cons, List.sum_cons]
        omega
  exact counted world.imported

/-- If as many files are imported as were submitted, all are. -/
theorem Accounted.allImported {world : World} (accounted : attempt.Accounted world)
    (enough : attempt.files.length ≤ world.imported.length) : attempt.AllImported world := by
  have among : world.imported.map Prod.fst ⊆ attempt.files.map attempt.source := by
    intro path mem
    exact List.mem_map.mpr (accounted.submitted path mem)
  have all := (accounted.once.subperm among).perm_of_length_le (by simpa using enough)
  intro file listed
  exact all.mem_iff.mpr (List.mem_map_of_mem listed)

/-- If as many sources are imported as were submitted, all are. -/
theorem allImported_of_countP {world : World}
    (enough : attempt.files.length ≤ attempt.files.countP fun file =>
      attempt.source file ∈ world.imported.map Prod.fst) : attempt.AllImported world := by
  have all := List.countP_eq_length.mp (Nat.le_antisymm List.countP_le_length enough)
  intro file listed
  simpa using all file listed

/-- The reply to a request for trackfiles, when there is no error. -/
theorem count_of_replies {world : World} {albumId : Int} {count : Nat}
    (accounted : attempt.Accounted world)
    (replied : Replies world (.trackfiles albumId) (some count)) :
    count = world.trackfiles albumId := by
  cases replied with
  | inl none => cases none
  | inr body =>
      cases body
      rw [World.trackfileBody, accounted.healthy]
      rfl

/-- The first count is covered by what was imported into the albums. -/
theorem triple_countAdded {preCounts : Int → Nat} {fail : Halt → World → Prop}
    (rest : List Int) : ∀ (done : List Int) (importedCount : Nat), rest ⊆ attempt.albums →
      attempt.surroundings.Triple
        (fun world => attempt.Holding attempt.albums preCounts world ∧
          importedCount ≤ (done.map world.importsInto).sum)
        (rest.foldlM (countAdded preCounts) importedCount)
        (fun added world => attempt.Holding attempt.albums preCounts world ∧
          added ≤ ((done ++ rest).map world.importsInto).sum) fail := by
  induction rest with
  | nil =>
      intro done importedCount listed
      rw [List.append_nil]
      exact .pure fun _ holds => holds
  | cons albumId rest ih =>
      intro done importedCount listed
      rw [List.cons_subset] at listed
      rw [List.foldlM_cons]
      apply Surroundings.Triple.bind _ fun added => by
        rw [List.append_cons]
        exact ih (done ++ [albumId]) added listed.2
      have asked : attempt.surroundings.Triple
          (fun world => attempt.Holding attempt.albums preCounts world ∧
            importedCount ≤ (done.map world.importsInto).sum)
          (request (.trackfiles albumId))
          (fun answer world => attempt.Holding attempt.albums preCounts world ∧
            importedCount + (Option.getD answer 0 - preCounts albumId) ≤
              ((done ++ [albumId]).map world.importsInto).sum) fail := by
        apply triple_request (grows_le_sum importedCount done)
        intro answer world holding covered replied _
        have gained : Option.getD answer 0 ≤ preCounts albumId + world.importsInto albumId := by
          cases answer with
          | none => exact Nat.zero_le _
          | some count =>
              rw [Option.getD_some, count_of_replies holding.1 replied]
              exact (holding.2 albumId listed.1).2
        rw [List.map_append, List.sum_append, List.map_singleton, List.sum_singleton]
        omega
      apply asked.bind
      intro answer
      cases answer with
      | none =>
          apply Surroundings.Triple.pure
          intro world holds
          rw [Option.getD_none, Nat.zero_sub] at holds
          exact holds
      | some count => exact .pure fun _ holds => holds

/-- The count of the history is covered by what was imported. -/
theorem triple_countLidarrImportedHistory {preCounts : Int → Nat} {fail : Halt → World → Prop}
    (added : Nat) :
    attempt.surroundings.Triple
      (fun world => attempt.Holding attempt.albums preCounts world ∧
        added ≤ world.imported.length)
      attempt.countLidarrImportedHistory
      (fun recorded world => attempt.Holding attempt.albums preCounts world ∧
        max added recorded ≤ world.imported.length) fail := by
  have asked : attempt.surroundings.Triple
      (fun world => attempt.Holding attempt.albums preCounts world ∧
        added ≤ world.imported.length)
      (request .history)
      (fun answer world => attempt.Holding attempt.albums preCounts world ∧
        max added ((Option.getD answer []).countP attempt.isImport) ≤
          world.imported.length) fail := by
    apply triple_request (grows_le_length added)
    intro answer world holding covered replied _
    apply Nat.max_le.mpr ⟨covered, ?_⟩
    cases replied with
    | inl none =>
        rw [none]
        exact Nat.zero_le _
    | inr page =>
        rw [page, Option.getD_some, World.historyPage, holding.1.healthy]
        exact holding.1.recorded
  apply asked.bind
  intro answer
  cases answer with
  | none => exact .pure fun _ holds => holds
  | some records => exact .pure fun _ holds => holds

/-- Counting the trackfiles changes nothing. -/
theorem triple_countLidarrTrackfiles {preCounts : Int → Nat} {fail : Halt → World → Prop}
    {holds : World → Prop} (grows : Grows holds) (albumIds : List Int) :
    attempt.surroundings.Triple
      (fun world => attempt.Holding attempt.albums preCounts world ∧ holds world)
      (countLidarrTrackfiles albumIds)
      (fun _ world => attempt.Holding attempt.albums preCounts world ∧ holds world) fail := by
  apply @Surroundings.Triple.foldlM _ _ _ _ _ _ _ _ (fun _ world =>
    attempt.Holding attempt.albums preCounts world ∧ holds world)
  intro total albumId
  have asked : attempt.surroundings.Triple
      (fun world => attempt.Holding attempt.albums preCounts world ∧ holds world)
      (request (.trackfiles albumId))
      (fun _ world => attempt.Holding attempt.albums preCounts world ∧ holds world) fail :=
    triple_request grows fun answer world holding held replied _ => held
  apply asked.bind
  intro answer
  cases answer with
  | none => exact .pure fun _ holds => holds
  | some count => exact .pure fun _ holds => holds

theorem Grows.and {first second : World → Prop} (grows : Grows first) (other : Grows second) :
    Grows fun world => first world ∧ second world := by
  intro before after grown holds
  exact ⟨grows before after grown holds.1, other before after grown holds.2⟩

/-- A source that is missing was imported. -/
theorem triple_countMissing {preCounts : Int → Nat} {holds : World → Prop} (grows : Grows holds)
    (rest : List ImportFile) : ∀ (done : List ImportFile) (missing : Nat),
      rest ⊆ attempt.files →
      attempt.surroundings.Triple
        (fun world => attempt.Holding attempt.albums preCounts world ∧ holds world ∧
          missing ≤ done.countP fun file => attempt.source file ∈ world.imported.map Prod.fst)
        (rest.foldlM attempt.countMissing missing)
        (fun missing world => attempt.Holding attempt.albums preCounts world ∧ holds world ∧
          missing ≤ (done ++ rest).countP fun file =>
            attempt.source file ∈ world.imported.map Prod.fst) fun _ _ => True := by
  induction rest with
  | nil =>
      intro done missing listed
      rw [List.append_nil]
      exact .pure fun _ holds => holds
  | cons file rest ih =>
      intro done missing listed
      rw [List.cons_subset] at listed
      rw [List.foldlM_cons]
      apply Surroundings.Triple.bind _ fun missing => by
        rw [List.append_cons]
        exact ih (done ++ [file]) missing listed.2
      have asked : attempt.surroundings.Triple
          (fun world => attempt.Holding attempt.albums preCounts world ∧ holds world ∧
            missing ≤ done.countP fun file => attempt.source file ∈ world.imported.map Prod.fst)
          (request (.sourceExists (attempt.source file)))
          (fun answer world => attempt.Holding attempt.albums preCounts world ∧ holds world ∧
            missing + (if answer = some false then 1 else 0) ≤ (done ++ [file]).countP fun file =>
              attempt.source file ∈ world.imported.map Prod.fst) fun _ _ => True := by
        apply triple_request (grows.and (grows_le_countP missing done))
        intro answer world holding both replied _
        apply And.intro both.1
        rw [List.countP_append, List.countP_singleton]
        by_cases gone : answer = some false
        · have imported : attempt.source file ∈ world.imported.map Prod.fst := by
            apply holding.1.missing _ ⟨file, listed.1, rfl⟩
            cases replied with
            | inl none => rw [none] at gone; cases gone
            | inr found => exact (Option.some.inj (gone.symm.trans found)).symm
          rw [if_pos gone, if_pos (decide_eq_true imported)]
          exact Nat.add_le_add_right both.2 1
        · rw [if_neg gone]
          exact Nat.le_trans both.2 (Nat.le_add_right _ _)
      apply asked.bind
      intro answer
      cases answer with
      | none => exact .throw fun _ _ => trivial
      | some found =>
          cases found with
          | true => exact .pure fun _ holds => holds
          | false => exact .pure fun _ holds => holds

/-! ## The wait -/

/-- What a count of the progress says. -/
def Sound (attempt : Attempt) (importedCount : Nat) (world : World) : Prop :=
  importedCount ≥ max 1 attempt.files.length → attempt.AllImported world

theorem sound_of_le {importedCount : Nat} {world : World} (accounted : attempt.Accounted world)
    (covered : importedCount ≤ world.imported.length) : attempt.Sound importedCount world := by
  intro enough
  apply accounted.allImported
  exact Nat.le_trans (Nat.le_max_right _ _) (Nat.le_trans enough covered)

/-- The second count is covered by what was imported. -/
theorem triple_orRecorded {preCounts : Int → Nat} (added : Nat) :
    attempt.surroundings.Triple
      (fun world => attempt.Holding attempt.albums preCounts world ∧
        added ≤ world.imported.length)
      (attempt.orRecorded (max 1 attempt.files.length) added)
      (fun importedCount world => attempt.Holding attempt.albums preCounts world ∧
        importedCount ≤ world.imported.length) fun _ _ => True := by
  rw [orRecorded]
  split
  · exact (triple_countLidarrImportedHistory added).bind fun recorded =>
      .pure fun _ holds => holds
  · exact .pure fun _ holds => holds

/-- The third count is sound: it needs every source to be missing. -/
theorem triple_orMissing {preCounts : Int → Nat} (importedCount : Nat) :
    attempt.surroundings.Triple
      (fun world => attempt.Holding attempt.albums preCounts world ∧
        importedCount ≤ world.imported.length)
      (attempt.orMissing (max 1 attempt.files.length) importedCount)
      (fun importedCount world => attempt.Holding attempt.albums preCounts world ∧
        attempt.Sound importedCount world) fun _ _ => True := by
  rw [orMissing]
  split
  · apply (triple_countLidarrTrackfiles (grows_le_length importedCount) attempt.albums).bind
    intro currentTrackfiles
    have counted : attempt.surroundings.Triple
        (fun world => attempt.Holding attempt.albums preCounts world ∧
          importedCount ≤ world.imported.length)
        attempt.countMissingManualimportSources
        (fun missing world => attempt.Holding attempt.albums preCounts world ∧
          importedCount ≤ world.imported.length ∧ missing ≤ attempt.files.countP fun file =>
            attempt.source file ∈ world.imported.map Prod.fst) fun _ _ => True := by
      apply (triple_countMissing (grows_le_length importedCount) attempt.files [] 0
        (List.Subset.refl _)).imp
      · intro world holds
        exact ⟨holds.1, holds.2, Nat.zero_le _⟩
      · intro missing world holds
        exact holds
      · intro error world raised
        exact raised
    apply counted.bind
    intro missing
    split
    · next enough =>
        apply Surroundings.Triple.pure
        intro world holds
        refine ⟨holds.1, fun _ => allImported_of_countP ?_⟩
        exact Nat.le_trans (Nat.le_max_right _ _) (Nat.le_trans enough.2 holds.2.2)
    · apply Surroundings.Triple.pure
      intro world holds
      exact ⟨holds.1, sound_of_le holds.1.1 holds.2.1⟩
  · apply Surroundings.Triple.pure
    intro world holds
    exact ⟨holds.1, sound_of_le holds.1.1 holds.2⟩

/-- One count of the progress is sound. -/
theorem triple_countManualimportProgress (preCounts : Int → Nat) :
    attempt.surroundings.Triple (attempt.Holding attempt.albums preCounts)
      (attempt.countManualimportProgress preCounts (max 1 attempt.files.length))
      (fun importedCount world => attempt.Holding attempt.albums preCounts world ∧
        attempt.Sound importedCount world) fun _ _ => True := by
  have first : attempt.surroundings.Triple (attempt.Holding attempt.albums preCounts)
      (attempt.albums.foldlM (countAdded preCounts) 0)
      (fun added world => attempt.Holding attempt.albums preCounts world ∧
        added ≤ world.imported.length) fun _ _ => True := by
    apply (triple_countAdded attempt.albums [] 0 (List.Subset.refl _)).imp
    · intro world holding
      exact ⟨holding, Nat.zero_le _⟩
    · intro added world holds
      exact ⟨holds.1, Nat.le_trans holds.2 (sum_importsInto_le attempt.distinct world)⟩
    · intro error world raised
      exact raised
  apply first.bind
  intro added
  exact (triple_orRecorded added).bind triple_orMissing

theorem triple_pollProgress (preCounts : Int → Nat) (attempts : Nat) :
    ∀ importedCount, attempt.surroundings.Triple
      (fun world => attempt.Holding attempt.albums preCounts world ∧
        attempt.Sound importedCount world)
      (attempt.pollProgress preCounts (max 1 attempt.files.length) attempts importedCount)
      (fun counts world => counts.2 = max 1 attempt.files.length ∧ attempt.Sound counts.1 world)
      fun _ _ => True := by
  induction attempts with
  | zero =>
      intro importedCount
      exact .pure fun world holds => ⟨rfl, holds.2⟩
  | succ attempts ih =>
      intro importedCount
      rw [pollProgress]
      have counted : attempt.surroundings.Triple
          (fun world => attempt.Holding attempt.albums preCounts world ∧
            attempt.Sound importedCount world)
          (attempt.countManualimportProgress preCounts (max 1 attempt.files.length))
          (fun importedCount world => attempt.Holding attempt.albums preCounts world ∧
            attempt.Sound importedCount world) fun _ _ => True := by
        apply (triple_countManualimportProgress preCounts).imp
        · intro world holds
          exact holds.1
        · intro importedCount world holds
          exact holds
        · intro error world raised
          exact raised
      apply counted.bind
      intro found
      split
      · exact .pure fun world holds => ⟨rfl, holds.2⟩
      · exact ih found

/-- The wait is sound. -/
theorem triple_waitForManualimportProgress (preCounts : Int → Nat) (timeoutS intervalS : Nat) :
    attempt.surroundings.Triple (attempt.Holding attempt.albums preCounts)
      (attempt.waitForManualimportProgress preCounts timeoutS intervalS)
      (fun counts world => counts.1 ≥ counts.2 → attempt.AllImported world)
      fun _ _ => True := by
  apply (triple_pollProgress preCounts (max 1 (timeoutS / intervalS + 1)) 0).imp
  · intro world holds
    exact ⟨holds, sound_of_le holds.1 (Nat.zero_le _)⟩
  · intro counts world holds enough
    rw [holds.1] at enough
    exact holds.2 enough
  · intro error world raised
    exact raised

/-! ## The whole attempt -/

/-- The counts before the command are those of the albums. -/
theorem triple_countBefore (rest : List Int) : ∀ (counted : List Int) (preCounts : Int → Nat),
    (counted ++ rest).Nodup → rest ⊆ attempt.albums →
    attempt.surroundings.Triple (attempt.Holding counted preCounts)
      (rest.foldlM countBefore preCounts) (attempt.Holding (counted ++ rest))
      fun _ _ => True := by
  induction rest with
  | nil =>
      intro counted preCounts distinct listed
      rw [List.append_nil]
      exact .pure fun _ holds => holds
  | cons albumId rest ih =>
      intro counted preCounts distinct listed
      rw [List.cons_subset] at listed
      rw [List.foldlM_cons]
      rw [List.append_cons] at distinct ⊢
      apply Surroundings.Triple.bind _ fun preCounts => ih (counted ++ [albumId]) preCounts
        distinct listed.2
      have new : albumId ∉ counted := by
        intro mem
        have apart := (List.nodup_append.mp distinct).1
        rw [List.nodup_append] at apart
        exact apart.2.2 albumId mem albumId List.mem_cons_self rfl
      have asked : attempt.surroundings.Triple
          (fun world => attempt.Holding counted preCounts world ∧ True)
          (request (.preCount albumId))
          (fun answer world => attempt.Holding counted preCounts world ∧
            Gained albumId (Option.getD answer 0) world) fun _ _ => True := by
        apply triple_request (grows_const True)
        intro answer world holding _ replied checked
        cases answer with
        | none =>
            have empty := checked world rfl
            rw [Gained, empty]
            exact Nat.zero_le _
        | some count =>
            rw [Option.getD_some, count_of_replies holding.1 replied]
            exact Nat.le_add_right _ _
      have holding_insert : ∀ (count : Nat) (world : World),
          attempt.Holding counted preCounts world ∧ Gained albumId count world →
          attempt.Holding (counted ++ [albumId])
            (fun other => if other = albumId then count else preCounts other) world := by
        intro count world holds
        apply And.intro holds.1.1
        intro other mem
        cases List.mem_append.mp mem with
        | inl before =>
            have different : other ≠ albumId := by
              intro same
              exact new (same ▸ before)
            simp only [if_neg different]
            exact holds.1.2 other before
        | inr here =>
            cases List.mem_singleton.mp here
            simp only [if_true]
            exact ⟨listed.1, holds.2⟩
      have start : attempt.surroundings.Triple (attempt.Holding counted preCounts)
          (request (.preCount albumId))
          (fun answer world => attempt.Holding counted preCounts world ∧
            Gained albumId (Option.getD answer 0) world) fun _ _ => True := by
        apply asked.imp
        · intro world holds
          exact ⟨holds, trivial⟩
        · intro answer world holds
          exact holds
        · intro error world raised
          exact raised
      apply start.bind
      intro answer
      cases answer with
      | none => exact .pure (holding_insert 0)
      | some count => exact .pure (holding_insert count)

/-- A request whose answer says nothing of the import. -/
theorem triple_request_holding {preCounts : Int → Nat} (query : Query) :
    attempt.surroundings.Triple (attempt.Holding attempt.albums preCounts) (request query)
      (fun _ => attempt.Holding attempt.albums preCounts) fun _ _ => True := by
  have asked : attempt.surroundings.Triple
      (fun world => attempt.Holding attempt.albums preCounts world ∧ True) (request query)
      (fun _ world => attempt.Holding attempt.albums preCounts world ∧ True)
      fun _ _ => True :=
    triple_request (grows_const True) fun answer world holding holds replied _ => holds
  apply asked.imp
  · intro world holding
    exact ⟨holding, trivial⟩
  · intro answer world holds
    exact holds.1
  · intro error world raised
    exact raised

theorem triple_countBefore_albums :
    attempt.surroundings.Triple attempt.Fresh
      (attempt.albums.foldlM countBefore fun _ => 0) (attempt.Holding attempt.albums)
      fun _ _ => True := by
  apply (triple_countBefore attempt.albums [] (fun _ => 0) attempt.distinct
    (List.Subset.refl _)).imp
  · intro world fresh
    exact ⟨fresh.accounted, fun albumId mem => absurd mem List.not_mem_nil⟩
  · intro preCounts world holding
    exact holding
  · intro error world raised
    exact raised

theorem triple_raiseIfJobCancelled {preCounts : Int → Nat} :
    attempt.surroundings.Triple (attempt.Holding attempt.albums preCounts) raiseIfJobCancelled
      (fun _ => attempt.Holding attempt.albums preCounts) fun _ _ => True := by
  apply (triple_request_holding .cancelRequested).bind
  intro cancelled
  cases cancelled with
  | true => exact .throw fun _ _ => trivial
  | false => exact .pure fun _ holding => holding

theorem triple_postManualImport {preCounts : Int → Nat} :
    attempt.surroundings.Triple (attempt.Holding attempt.albums preCounts) postManualImport
      (fun _ => attempt.Holding attempt.albums preCounts) fun _ _ => True := by
  apply (triple_request_holding .manualImport).bind
  intro status
  cases status with
  | none => exact .throw fun _ _ => trivial
  | some status => exact .pure fun _ holding => holding

/-- The wait, and what is done after it. -/
theorem triple_confirm (preCounts : Int → Nat) :
    attempt.surroundings.Triple (attempt.Holding attempt.albums preCounts)
      (do
        let counts ← attempt.waitForManualimportProgress preCounts
        pure (confirmed counts))
      (fun completes world => completes = true → attempt.AllImported world)
      fun _ _ => True := by
  apply (triple_waitForManualimportProgress preCounts 90 2).bind
  intro counts
  apply Surroundings.Triple.pure
  intro world sound completes
  exact sound (of_decide_eq_true completes)

theorem triple_triggerLidarrImport :
    attempt.surroundings.Triple attempt.Fresh attempt.triggerLidarrImport
      (fun completes world => completes = true → attempt.AllImported world)
      fun _ _ => True := by
  apply triple_countBefore_albums.bind
  intro preCounts
  apply triple_raiseIfJobCancelled.bind
  intro _
  apply triple_postManualImport.bind
  intro _
  exact triple_confirm preCounts

theorem triple_runManualImportOnly :
    attempt.surroundings.Triple attempt.Fresh attempt.runManualImportOnly
      (fun completes world => completes = true → attempt.AllImported world)
      fun _ _ => True := by
  apply triple_countBefore_albums.bind
  intro preCounts
  apply triple_postManualImport.bind
  intro _
  apply triple_raiseIfJobCancelled.bind
  intro _
  exact triple_confirm preCounts

/-- With evidence of this attempt only, an import that is taken for complete is complete. -/
theorem allImported_of_confirmed (attempt : Attempt) (start : World)
    (fresh : attempt.Fresh start) :
    (∀ (preCounts : Int → Nat) (timeoutS intervalS : Nat) (finish : World)
        (counts : Nat × Nat),
      (∀ albumId ∈ attempt.albums, start.trackfiles albumId ≤ preCounts albumId) →
      attempt.surroundings.Run start
        (attempt.waitForManualimportProgress preCounts timeoutS intervalS) finish (.ok counts) →
      counts.1 ≥ counts.2 → attempt.AllImported finish) ∧
    ∀ program ∈ [attempt.triggerLidarrImport, attempt.runManualImportOnly],
      ∀ finish, attempt.surroundings.Run start program finish (.ok true) →
        attempt.AllImported finish := by
  constructor
  · intro preCounts timeoutS intervalS finish counts counted run
    have holding : attempt.Holding attempt.albums preCounts start := by
      apply And.intro fresh.accounted
      intro albumId mem
      exact ⟨mem, Nat.le_trans (counted albumId mem) (Nat.le_add_right _ _)⟩
    exact Surroundings.Triple.iff_run.mp
      (triple_waitForManualimportProgress preCounts timeoutS intervalS) start finish _
      holding run
  · intro program listed finish run
    cases List.mem_cons.mp listed with
    | inl trigger =>
        rw [trigger] at run
        exact Surroundings.Triple.iff_run.mp triple_triggerLidarrImport start finish _ fresh
          run rfl
    | inr rest =>
        rw [List.mem_singleton.mp rest] at run
        exact Surroundings.Triple.iff_run.mp triple_runManualImportOnly start finish _ fresh
          run rfl

/-! ## Evidence of an earlier attempt -/

/-- One file that is submitted again. -/
def resubmitted : Attempt where
  jid := "job"
  completeRoot := "/downloads/TidalHiRes/complete"
  outputBase := .ofString "/output"
  files := [{ path := "/downloads/TidalHiRes/complete/job/01.flac", artistId := 1, albumId := 7 }]
  nonempty := by decide
  albums := [7]
  distinct := by decide
  covers := by simp [eq_comm]

/-- The file is where it was, with some history. -/
def placed (history : List HistoryRecord) : World where
  trackfiles := fun _ => 0
  history := history
  onDisk := fun path => path = .ofString "/output/job/01.flac"

/-- Every request is answered as it should be, and nothing happens. -/
def quiet (world : World) : (query : Query) → Answer query × World
  | .preCount albumId => (some (world.trackfileBody albumId), world)
  | .trackfiles albumId => (some (world.trackfileBody albumId), world)
  | .history => (some world.historyPage, world)
  | .sourceExists path => (some (world.onDisk path), world)
  | .manualImport => (some 201, world)
  | .cancelRequested => (false, world)

theorem answers_quiet (guard : World → LidarrStep → Prop) (world : World) (query : Query) :
    (lidarr guard).answers world query (quiet world query).1 (quiet world query).2 := by
  cases query with
  | preCount albumId => exact ⟨[], .nil world, .inr rfl⟩
  | trackfiles albumId => exact ⟨[], .nil world, .inr rfl⟩
  | history => exact ⟨[], .nil world, .inr rfl⟩
  | sourceExists path => exact ⟨[], .nil world, .inr rfl⟩
  | manualImport => exact ⟨[], .nil world, trivial⟩
  | cancelRequested => exact ⟨[], .nil world, trivial⟩

/-- An import of the earlier attempt is taken for one of this attempt. -/
theorem not_allImported_of_confirmed :
    let start := placed [⟨some "job", some "trackFileImported"⟩]
    ¬ (∀ finish counts, (lidarr fun _ _ => True).Run start
        (resubmitted.waitForManualimportProgress fun _ => 0) finish (.ok counts) →
      counts.1 ≥ counts.2 → resubmitted.AllImported finish) ∧
    ¬ ∀ finish, (lidarr fun _ _ => True).Run start resubmitted.triggerLidarrImport finish
      (.ok true) → resubmitted.AllImported finish := by
  intro start
  have none : ¬ resubmitted.AllImported start := by
    intro all
    exact absurd (all _ List.mem_cons_self) List.not_mem_nil
  constructor
  · intro sound
    have run := Surroundings.run_play (answers_quiet fun _ _ => True)
      (resubmitted.waitForManualimportProgress fun _ => 0) start
    exact none (sound start (1, 1) run (Nat.le_refl 1))
  · intro sound
    have run := Surroundings.run_play (answers_quiet fun _ _ => True)
      resubmitted.triggerLidarrImport start
    exact none (sound start run)

/-! ### Two files beside another download -/

/-- Two files that are submitted together. -/
def together : Attempt where
  jid := "job"
  completeRoot := "/downloads/TidalHiRes/complete"
  outputBase := .ofString "/output"
  files :=
    [{ path := "/downloads/TidalHiRes/complete/job/01.flac", artistId := 1, albumId := 7 },
      { path := "/downloads/TidalHiRes/complete/job/02.flac", artistId := 1, albumId := 7 }]
  nonempty := by decide
  albums := [7]
  distinct := by decide
  covers := by simp [eq_comm]

/-- The source of the first file. -/
def firstSource : PurePath := .ofString "/output/job/01.flac"

/-- That of the second one. -/
def secondSource : PurePath := .ofString "/output/job/02.flac"

/-- The files are there, and Lidarr has imported something else. -/
def placedTogether : World where
  trackfiles := fun _ => 0
  history := [⟨some "other", some "trackFileImported"⟩, ⟨some "job", some "grabbed"⟩]
  onDisk := fun path => path = firstSource || path = secondSource

/-- The first file is imported and moved, later the second one, behind a file of another
download. -/
def moves (world : World) : List LidarrStep :=
  if firstSource ∈ world.imported.map Prod.fst then
    if secondSource ∈ world.imported.map Prod.fst then []
    else [.importsOther 9 (some "other") 1 0, .imports secondSource 7 (some "job") 1 0 false]
  else [.imports firstSource 7 (some "job") 1 0 true]

/-- That happens before the trackfiles are counted. -/
def importing (world : World) : (query : Query) → Answer query × World
  | .trackfiles albumId => quiet ((moves world).foldl World.apply world) (.trackfiles albumId)
  | query => quiet world query

theorem run_moves (world : World) :
    machine.RunWhere together.Own world (moves world) ((moves world).foldl World.apply world) := by
  rw [moves]
  split_ifs with first second
  · exact .nil _
  · have other : together.Own world (.importsOther 9 (some "other") 1 0) :=
      ⟨fun listed => absurd listed (by decide), fun same => absurd same (by decide)⟩
    have own : together.Own (world.apply (.importsOther 9 (some "other") 1 0))
        (.imports secondSource 7 (some "job") 1 0 false) :=
      ⟨⟨_, List.mem_cons_of_mem _ List.mem_cons_self, rfl⟩, second, fun _ => Nat.le_refl 1⟩
    exact .cons other rfl (.cons own rfl (.nil _))
  · have own : together.Own world (.imports firstSource 7 (some "job") 1 0 true) :=
      ⟨⟨_, List.mem_cons_self, rfl⟩, first, fun _ => Nat.le_refl 1⟩
    exact .cons own rfl (.nil _)

theorem answers_importing (world : World) (query : Query) :
    together.surroundings.answers world query (importing world query).1
      (importing world query).2 := by
  cases query with
  | preCount albumId =>
      refine ⟨answers_quiet _ world (.preCount albumId), ?_⟩
      intro none
      cases none
  | trackfiles albumId => exact ⟨⟨moves world, run_moves world, .inr rfl⟩, trivial⟩
  | history => exact ⟨answers_quiet _ world .history, trivial⟩
  | sourceExists path => exact ⟨answers_quiet _ world (.sourceExists path), trivial⟩
  | manualImport => exact ⟨answers_quiet _ world .manualImport, trivial⟩
  | cancelRequested => exact ⟨answers_quiet _ world .cancelRequested, trivial⟩

theorem fresh_placedTogether : together.Fresh placedTogether where
  recorded := by decide +kernel
  present := by decide +kernel
  healthy := rfl
  imported := rfl

/-- Both files are imported when they are taken for imported. -/
theorem allImported_of_confirmed_moves :
    together.AllImported (Surroundings.play importing
        (together.waitForManualimportProgress fun _ => 0) placedTogether).1 ∧
      together.AllImported
        (Surroundings.play importing together.triggerLidarrImport placedTogether).1 := by
  have sound := allImported_of_confirmed together placedTogether fresh_placedTogether
  constructor
  · have run := Surroundings.run_play answers_importing
      (together.waitForManualimportProgress fun _ => 0) placedTogether
    exact sound.1 (fun _ => 0) 90 2 _ (2, 2) (fun _ _ => Nat.le_refl 0) run (Nat.le_refl 2)
  · have run := Surroundings.run_play answers_importing together.triggerLidarrImport
      placedTogether
    exact sound.2 _ List.mem_cons_self _ run

end Attempt

end Mintarr.Import.Progress
