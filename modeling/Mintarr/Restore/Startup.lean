import Mintarr.Restore.Boundary
import Mintarr.Review.Actions

/-!
# The start of the process

The server module runs from top to bottom.  Reviews that are due expire right after the jobs
are loaded; the boundary of a restore comes hundreds of lines later.  The start therefore
leaves everything to the restore exactly where no review is due.
-/

namespace Mintarr.Restore

open Lib Review

/-! ## Records on disk -/

/-- A sidecar as it is read: its `jid`, where it has one, and its record. -/
structure Sidecar where
  jid : Option String
  record : Record
  deriving DecidableEq, Repr

/-- The platform: JSON and directories. -/
structure Platform where
  /-- `json.loads`; nothing where that raises. -/
  loads : Bytes → Option Sidecar
  /-- `json.dump`. -/
  dump : Sidecar → Bytes
  /-- The order in which `glob` lists files. -/
  glob : List Target → List Target

/-- What the previous process has left. -/
structure Installation where
  disk : Disk
  /-- The sidecars under `DOWNLOAD_BASE`. -/
  raw : String → Option Bytes := fun _ => none
  /-- The output directories in `JOBS_FILE`; nothing where it is missing or unreadable. -/
  jobs : Option (String → Option Directory) := none

/-- What the start does to the files of a download, or asks of Lidarr for it. -/
inductive Effect where
  /-- `_blocklist_grab` posts. -/
  | blocklistRequest (jid : String)
  | archiveWritten (jid : String)
  | sidecarRemoved (jid : String)
  | outputRemoved (jid : String)
  deriving DecidableEq, Repr

/-- A process that starts. -/
structure Start where
  disk : Disk
  raw : String → Option Bytes
  /-- `_jobs.get(jid, {}).get("output_dir")`. -/
  projected : String → Option Directory
  effects : List Effect := []

/-- `_load_jobs`; what it repairs and saves is in the jobs alone. -/
def loadJobs (installation : Installation) : Start where
  disk := installation.disk
  raw := installation.raw
  projected := installation.jobs.getD fun _ => none

/-- The file in a place of a download. -/
def placeTarget (jid : String) : Place → Option Target
  | .folder .output => some (.sidecar jid)
  | .folder .raw => none
  | .blocked => some (.archive .blocked (jid ++ ".json"))
  | .discarded => some (.archive .discarded (jid ++ ".json"))
  | .expired => some (.archive .expired (jid ++ ".json"))

namespace Start

variable (platform : Platform) (start : Start) (jid : String)

/-- The content of a place. -/
def content (place : Place) : Option Bytes :=
  match placeTarget jid place with
  | some target => start.disk.files.lookup target
  | none => start.raw jid

/-- The files of a download, as its records. -/
def desk : Desk where
  file place := (start.content jid place).map fun data =>
    (platform.loads data).map Sidecar.record
  projected := start.projected jid

/-- `_atomic_write_json`. -/
def write (place : Place) (data : Bytes) : Start :=
  match placeTarget jid place with
  | some target =>
      { start with disk := { start.disk with files := start.disk.files.insert target data } }
  | none => { start with raw := Function.update start.raw jid (some data) }

/-- `unlink`. -/
def remove (place : Place) : Start :=
  match placeTarget jid place with
  | some target => { start with disk := { start.disk with files := start.disk.files.erase target } }
  | none => { start with raw := Function.update start.raw jid none }

/-- The effect is noted. -/
def note (effect : Effect) : Start := { start with effects := start.effects ++ [effect] }

end Start

/-! ## The listing -/

/-- The paths that `_verification_records` reads. -/
def recordPaths (platform : Platform) (files : Files) : List Target :=
  platform.glob ((sidecarJids files).map Target.sidecar) ++ Label.all.flatMap fun label =>
    platform.glob ((archiveNames files label).map (Target.archive label))

/-- Each jid is listed once, where it is first read. -/
def listRecords (platform : Platform) (files : Files) :
    List (Option String) → List Target → List Sidecar
  | _, [] => []
  | seen, path :: paths =>
      match (files.lookup path).bind platform.loads with
      | none => listRecords platform files seen paths
      | some sidecar =>
          if sidecar.jid ∈ seen then listRecords platform files seen paths
          else sidecar :: listRecords platform files (sidecar.jid :: seen) paths

/-- `_verification_records`. -/
def verificationRecords (platform : Platform) (files : Files) : List Sidecar :=
  listRecords platform files [] (recordPaths platform files)

/-! ## The expiry -/

/-- What the expiry of a review meets. -/
structure ExpiryReply where
  /-- There is a key and the grab is in Lidarr's history: `_blocklist_grab` posts. -/
  posted : Bool := true
  /-- Lidarr accepts it. -/
  accepted : Bool := true
  /-- The archive is written. -/
  archived : Bool := true
  /-- The sidecar elsewhere can be removed. -/
  unlinked : Bool := true
  outputExists : Bool := true
  /-- The removed tree held no sidecar that stayed. -/
  erased : Bool := true

/-- The record is moved to `EXPIRED_REVIEW_DIR`; `false` where that raises. -/
def Start.archive (reply : ExpiryReply) (jid : String) (place : Place) (data : Bytes)
    (start : Start) : Start × Bool :=
  if !reply.archived then (start, false)
  else
    let written := (start.write jid .expired data).note (.archiveWritten jid)
    if place = .expired || (written.content jid place).isNone then (written, true)
    else if reply.unlinked then ((written.remove jid place).note (.sidecarRemoved jid), true)
    else (written, false)

/-- `_safe_rmtree_under(OUTPUT_BASE, output_dir)`. -/
def Start.rmtree (platform : Platform) (reply : ExpiryReply) (jid : String) (start : Start) :
    Start :=
  if reply.outputExists && (start.desk platform jid).outputDir = .output then
    (if reply.erased then start.remove jid (.folder .output) else start).note
      (.outputRemoved jid)
  else start

/-- The body of the loop of `_expire_review_required_jobs`; `false` where it raises. -/
def expireReview (platform : Platform) (now maxAge : Time) (reply : String → ExpiryReply)
    (row : Sidecar) (start : Start) : Start × Bool :=
  if !row.record.isExpired now maxAge then (start, true)
  else
    match row.jid with
    | none => (start, true)
    | some jid =>
        match (start.desk platform jid).readVerificationSidecar with
        | none => (start, true)
        | some (place, current) =>
            let asks := current.lifecycle.blocklistStatus ≠ some .done && (reply jid).posted
            let asked := if asks then start.note (.blocklistRequest jid) else start
            let expired := current.expire now ((reply jid).posted && (reply jid).accepted)
            match asked.archive (reply jid) jid place
                (platform.dump { jid := some jid, record := expired }) with
            | (archived, false) => (archived, false)
            | (archived, true) => (archived.rmtree platform (reply jid) jid, true)

/-- The loop. -/
def expireReviews (platform : Platform) (now maxAge : Time) (reply : String → ExpiryReply) :
    List Sidecar → Start → Start × Bool
  | [], start => (start, true)
  | row :: rows, start =>
      match expireReview platform now maxAge reply row start with
      | (after, false) => (after, false)
      | (after, true) => expireReviews platform now maxAge reply rows after

/-- `_expire_review_required_jobs`. -/
def expireReviewRequiredJobs (platform : Platform) (now maxAge : Time)
    (reply : String → ExpiryReply) (start : Start) : Start × Bool :=
  expireReviews platform now maxAge reply (verificationRecords platform start.disk.files) start

/-! ## The start -/

/-- What a start meets. -/
structure World where
  reply : String → ExpiryReply := fun _ => {}
  /-- `_restore_enabled`. -/
  enabled : Bool := true
  limits : RestoreLimits := {}
  script : List Reply := []

variable (sqlite : Sqlite) (platform : Platform) (now maxAge : Time)

/-- The module's text before the restore; `false` where it raises. -/
def beforeRestore (world : World) (installation : Installation) : Start × Bool :=
  expireReviewRequiredJobs platform now maxAge world.reply (loadJobs installation)

/-- The module's text: the disk that it leaves, and whether workers start; nothing where the
process does not come up.  What follows the restore starts threads and touches no file. -/
def startUp (world : World) (installation : Installation) : Disk × Option Bool :=
  match beforeRestore platform now maxAge world installation with
  | (start, false) => (start.disk, none)
  | (start, true) =>
      let boot := (fileSystem sqlite).exec
        (applyPendingRestoreAtBoot sqlite world.enabled world.limits) world.script start.disk
      (boot.1, boot.2.bind Except.toOption)

/-- The restore finds what the previous process has left, and a start beside an interrupted
apply leaves all files as they were. -/
structure Untouched (world : World) (installation : Installation) : Prop where
  effects : (beforeRestore platform now maxAge world installation).1.effects = []
  disk : (beforeRestore platform now maxAge world installation).1.disk = installation.disk
  applying : ∀ request, installation.disk.marker = some request → request.state = .applying →
    (startUp sqlite platform now maxAge world installation).1.files = installation.disk.files

/-- A listed review is due, and its sidecar can be read. -/
def Sidecar.Due (start : Start) (row : Sidecar) : Prop :=
  row.record.isExpired now maxAge = true ∧ ∃ jid found, row.jid = some jid ∧
    (start.desk platform jid).readVerificationSidecar = some found

/-! ## The expiry of one download -/

variable {sqlite platform now maxAge} {start : Start} {jid : String} {row : Sidecar}
  {reply : String → ExpiryReply} {effect : Effect}

/-- No two places of a download are the same file. -/
theorem placeTarget_injective {place other : Place}
    (same : placeTarget jid place = placeTarget jid other) : place = other := by
  cases place with
  | folder directory =>
      cases other with
      | folder second => cases directory <;> cases second <;> first | rfl | cases same
      | blocked | discarded | expired => cases directory <;> cases same
  | blocked | discarded | expired =>
      cases other with
      | folder second => cases second <;> cases same
      | blocked | discarded | expired => first | rfl | cases same

@[simp] theorem desk_note : (start.note effect).desk platform jid = start.desk platform jid := rfl

theorem content_write (place other : Place) (data : Bytes) :
    (start.write jid place data).content jid other =
      if other = place then some data else start.content jid other := by
  by_cases same : other = place
  · subst same
    unfold Start.write Start.content
    cases placeTarget jid other with
    | none => simp
    | some file => simp
  · have different : placeTarget jid other ≠ placeTarget jid place :=
      fun equal => same (placeTarget_injective equal)
    rw [if_neg same]
    unfold Start.write Start.content
    cases target : placeTarget jid place with
    | none =>
        cases own : placeTarget jid other with
        | none => exact absurd (own.trans target.symm) different
        | some file => rfl
    | some file =>
        cases own : placeTarget jid other with
        | none => rfl
        | some second =>
            apply AList.lookup_insert_ne
            rintro rfl
            exact different (own.trans target.symm)

theorem content_remove (place other : Place) :
    (start.remove jid place).content jid other =
      if other = place then none else start.content jid other := by
  by_cases same : other = place
  · subst same
    unfold Start.remove Start.content
    cases placeTarget jid other with
    | none => simp
    | some file => simp
  · have different : placeTarget jid other ≠ placeTarget jid place :=
      fun equal => same (placeTarget_injective equal)
    rw [if_neg same]
    unfold Start.remove Start.content
    cases target : placeTarget jid place with
    | none =>
        cases own : placeTarget jid other with
        | none => exact absurd (own.trans target.symm) different
        | some file => rfl
    | some file =>
        cases own : placeTarget jid other with
        | none => rfl
        | some second =>
            apply AList.lookup_erase_ne
            rintro rfl
            exact different (own.trans target.symm)

theorem desk_write {place : Place} {data : Bytes} {sidecar : Sidecar}
    (read : platform.loads data = some sidecar) :
    (start.write jid place data).desk platform jid =
      (start.desk platform jid).write place sidecar.record := by
  have projected : (start.write jid place data).projected = start.projected := by
    unfold Start.write
    split <;> rfl
  unfold Start.desk Desk.write
  rw [projected]
  congr 1
  funext other
  rw [content_write]
  by_cases same : other = place
  · subst same
    simp [read]
  · simp [same]

theorem desk_remove {place : Place} :
    (start.remove jid place).desk platform jid = (start.desk platform jid).remove place := by
  have projected : (start.remove jid place).projected = start.projected := by
    unfold Start.remove
    split <;> rfl
  unfold Start.desk Desk.remove
  rw [projected]
  congr 1
  funext other
  rw [content_remove]
  by_cases same : other = place
  · subst same
    simp
  · simp [same]

/-- What an expiry of the review in `Review.Actions` meets. -/
def ExpiryReply.closing (answers : ExpiryReply) (now maxAge : Time) : CloseReply where
  now
  maxAge
  outputExists := answers.outputExists
  erased := answers.erased
  blocklisted := answers.posted && answers.accepted
  archived := answers.archived
  unlinked := answers.unlinked

theorem desk_archive {answers : ExpiryReply} {place : Place} {data : Bytes} {sidecar : Sidecar}
    (read : platform.loads data = some sidecar) :
    (((start.archive answers jid place data).1.desk platform jid),
        (start.archive answers jid place data).2) =
      (start.desk platform jid).archive (answers.closing now maxAge) place .expired
        sidecar.record := by
  have wrote : (start.write jid .expired data).desk platform jid =
      (start.desk platform jid).write .expired sidecar.record := desk_write read
  have present : ((start.write jid .expired data).content jid place).isNone =
      (((start.desk platform jid).write .expired sidecar.record).file place).isNone := by
    rw [← wrote]
    simp [Start.desk]
  unfold Start.archive Desk.archive
  have closing : (answers.closing now maxAge).archived = answers.archived ∧
      (answers.closing now maxAge).unlinked = answers.unlinked := ⟨rfl, rfl⟩
  rw [closing.1, closing.2]
  by_cases archived : answers.archived = true
  · simp only [archived, Bool.not_true, Bool.false_eq_true, if_false]
    have noted : ((start.write jid .expired data).note (.archiveWritten jid)).content jid
        place = (start.write jid .expired data).content jid place := rfl
    rw [noted, present]
    split
    · rw [desk_note, wrote]
    · by_cases unlinked : answers.unlinked = true
      · rw [if_pos unlinked, if_pos unlinked, desk_note, desk_remove, desk_note, wrote]
      · rw [if_neg unlinked, if_neg unlinked, desk_note, wrote]
  · simp only [archived, Bool.not_false, if_true]

theorem desk_rmtree {answers : ExpiryReply} :
    (start.rmtree platform answers jid).desk platform jid =
      (start.desk platform jid).rmtree (answers.closing now maxAge) := by
  unfold Start.rmtree Desk.rmtree
  have closing : (answers.closing now maxAge).outputExists = answers.outputExists ∧
      (answers.closing now maxAge).erased = answers.erased := ⟨rfl, rfl⟩
  rw [closing.1, closing.2]
  by_cases erased : answers.erased = true
  · simp only [erased, if_true, Bool.and_true]
    split
    · rw [desk_note, desk_remove]
    · rfl
  · simp only [erased, Bool.false_eq_true, if_false, Bool.and_false]
    split <;> rfl

/-- The expiry of a download is the one of `Review.Actions`, where its record is listed. -/
theorem desk_expireReview
    (dumped : ∀ sidecar, platform.loads (platform.dump sidecar) = some sidecar)
    (named : row.jid = some jid)
    (listed : (start.desk platform jid).verificationRecords = some row.record) :
    (expireReview platform now maxAge reply row start).1.desk platform jid =
      Review.expireReviewRequiredJobs ((reply jid).closing now maxAge)
        (start.desk platform jid) := by
  unfold expireReview Review.expireReviewRequiredJobs
  rw [listed, named]
  dsimp only
  have clock : ((reply jid).closing now maxAge).now = now ∧
      ((reply jid).closing now maxAge).maxAge = maxAge ∧
      ((reply jid).closing now maxAge).blocklisted =
        ((reply jid).posted && (reply jid).accepted) := ⟨rfl, rfl, rfl⟩
  rw [clock.1, clock.2.1, clock.2.2]
  split
  · rfl
  · cases (start.desk platform jid).readVerificationSidecar with
    | none => rfl
    | some found =>
        rcases found with ⟨place, current⟩
        dsimp only
        generalize same : (if (current.lifecycle.blocklistStatus ≠ some .done &&
          (reply jid).posted) = true then start.note (.blocklistRequest jid) else start) = asked
        have unchanged : asked.desk platform jid = start.desk platform jid := by
          rw [← same]
          split <;> rfl
        rw [← unchanged]
        generalize current.expire now ((reply jid).posted && (reply jid).accepted) = expired
        have archived : _ = (asked.desk platform jid).archive ((reply jid).closing now maxAge) place
            .expired expired :=
          desk_archive (dumped { jid := some jid, record := expired })
        rw [← archived]
        split
        · next stopped ran => rw [ran]
        · next moved ran =>
            rw [ran]
            exact desk_rmtree

/-! ## What is noted stays noted -/

@[simp] theorem effects_write (place : Place) (data : Bytes) :
    (start.write jid place data).effects = start.effects := by
  unfold Start.write
  split <;> rfl

@[simp] theorem effects_remove (place : Place) :
    (start.remove jid place).effects = start.effects := by
  unfold Start.remove
  split <;> rfl

@[simp] theorem effects_note : (start.note effect).effects = start.effects ++ [effect] := rfl

theorem archive_noted {answers : ExpiryReply} {place : Place} {data : Bytes} {after : Start}
    {done : Bool} (ran : start.archive answers jid place data = (after, done))
    (noted : effect ∈ start.effects) : effect ∈ after.effects := by
  unfold Start.archive at ran
  split at ran
  · cases ran
    exact noted
  · dsimp only at ran
    split at ran
    · cases ran
      simp [noted]
    · split at ran
      · cases ran
        simp [noted]
      · cases ran
        simp [noted]

/-- An archive that is written is noted. -/
theorem archive_notes {answers : ExpiryReply} {place : Place} {data : Bytes} {after : Start}
    {done : Bool} (ran : start.archive answers jid place data = (after, done))
    (archived : answers.archived = true) : .archiveWritten jid ∈ after.effects := by
  unfold Start.archive at ran
  rw [if_neg (by simp [archived])] at ran
  dsimp only at ran
  split at ran
  · cases ran
    simp
  · split at ran
    · cases ran
      simp
    · cases ran
      simp

theorem rmtree_noted {answers : ExpiryReply} (noted : effect ∈ start.effects) :
    effect ∈ (start.rmtree platform answers jid).effects := by
  unfold Start.rmtree
  split
  · rw [effects_note]
    apply List.mem_append_left
    split
    · simpa using noted
    · exact noted
  · exact noted

theorem expireReview_noted {after : Start} {done : Bool}
    (ran : expireReview platform now maxAge reply row start = (after, done))
    (noted : effect ∈ start.effects) : effect ∈ after.effects := by
  unfold expireReview at ran
  split at ran
  · cases ran
    exact noted
  · split at ran
    · cases ran
      exact noted
    · next jid _ =>
        split at ran
        · cases ran
          exact noted
        · next place current _ =>
            dsimp only at ran
            have asked : effect ∈ (if (current.lifecycle.blocklistStatus ≠ some .done &&
                (reply jid).posted) = true then start.note (.blocklistRequest jid)
                else start).effects := by
              split
              · simp [noted]
              · exact noted
            split at ran
            · next stopped same =>
                cases ran
                exact archive_noted same asked
            · next moved same =>
                cases ran
                exact rmtree_noted (archive_noted same asked)

theorem expireReviews_noted {rows : List Sidecar} (noted : effect ∈ start.effects) :
    effect ∈ (expireReviews platform now maxAge reply rows start).1.effects := by
  induction rows generalizing start with
  | nil => exact noted
  | cons row rows ih =>
      unfold expireReviews
      split
      · next after ran => exact expireReview_noted ran noted
      · next after ran => exact ih (expireReview_noted ran noted)

/-! ## Reviews that are not due, and the first that is -/

/-- A review that is not due is left alone. -/
theorem expireReview_skips (early : ¬row.Due platform now maxAge start) :
    expireReview platform now maxAge reply row start = (start, true) := by
  unfold expireReview
  split
  · rfl
  · next expired =>
      split
      · rfl
      · next jid named =>
          split
          · rfl
          · next place current found =>
              have isExpired : row.record.isExpired now maxAge = true := by simpa using expired
              exact absurd ⟨isExpired, jid, _, named, found⟩ early

/-- The archive of a due review is written. -/
theorem expireReview_acts (due : row.Due platform now maxAge start) {after : Start}
    {done : Bool} (ran : expireReview platform now maxAge (fun _ => {}) row start = (after, done)) :
    ∃ jid, .archiveWritten jid ∈ after.effects := by
  rcases due with ⟨expired, jid, found, named, read⟩
  refine ⟨jid, ?_⟩
  unfold expireReview at ran
  rw [if_neg (by simp [expired]), named] at ran
  dsimp only at ran
  rw [read] at ran
  dsimp only at ran
  split at ran
  · next stopped same =>
      cases ran
      exact archive_notes same rfl
  · next moved same =>
      cases ran
      exact rmtree_noted (archive_notes same rfl)

/-- Where no review is due, the loop does nothing. -/
theorem expireReviews_skips {rows : List Sidecar}
    (early : ∀ row ∈ rows, ¬row.Due platform now maxAge start) :
    expireReviews platform now maxAge reply rows start = (start, true) := by
  induction rows with
  | nil => rfl
  | cons row rows ih =>
      unfold expireReviews
      rw [expireReview_skips (early row (List.mem_cons_self ..))]
      apply ih
      intro other mem
      exact early other (List.mem_cons_of_mem _ mem)

/-- Where one is, the first of them is archived. -/
theorem expireReviews_acts {rows : List Sidecar} (mem : row ∈ rows)
    (due : row.Due platform now maxAge start) :
    ∃ jid, .archiveWritten jid ∈
      (expireReviews platform now maxAge (fun _ => {}) rows start).1.effects := by
  induction rows with
  | nil => contradiction
  | cons first rows ih =>
      by_cases early : first.Due platform now maxAge start
      · unfold expireReviews
        split
        · next after ran => exact expireReview_acts early ran
        · next after ran =>
            rcases expireReview_acts early ran with ⟨jid, noted⟩
            exact ⟨jid, expireReviews_noted noted⟩
      · unfold expireReviews
        rw [expireReview_skips early]
        apply ih
        rcases List.mem_cons.mp mem with rfl | later
        · exact absurd due early
        · exact later

/-! ## A start beside an interrupted apply -/

/-- A boot that finds the marker of an interrupted apply replaces nothing, also where it
cannot read it. -/
theorem crash_applying {guard : Disk → Call → Reply → Prop} {request : Marker} {files : Files}
    {enabled : Bool} {limits : RestoreLimits} :
    (operations sqlite guard).CrashTriple (fun disk => disk.Interrupted request files)
      (applyPendingRestore sqlite enabled limits) (fun _ => Disk.Intact files)
      (fun _ => Disk.Intact files) (Disk.Intact files) := by
  have status : ∀ status : Status,
      (safeWriteStatus status).Within Call.KeepsFiles fun _ => True :=
    fun status => within_safeWriteStatus.imp idle_keepsFiles fun _ => id
  have looked : (operations sqlite guard).CrashTriple
      (fun disk => disk.Interrupted request files) (attempt .markerIsFile)
      (fun _ disk => disk.Interrupted request files) (fun _ => Disk.Intact files)
      (Disk.Intact files) := by
    apply Surroundings.CrashTriple.ask
    · exact fun _ interrupted => interrupted.2.2
    · intro before answer after interrupted answered
      rcases answered with ⟨reply, _, responds⟩
      cases responds
      exact interrupted
  have read : (operations sqlite guard).CrashTriple
      (fun disk => disk.Interrupted request files) readJsonFile
      (fun answer disk => answer.state ≠ .staged ∧ disk.Intact files)
      (fun _ => Disk.Intact files) (Disk.Intact files) := by
    have asked : (operations sqlite guard).CrashTriple
        (fun disk => disk.Interrupted request files) (attempt .readMarker)
        (fun answer disk =>
          (∀ marker, (answer : Except String Marker) = .ok marker → marker.state = .applying) ∧
            disk.Intact files)
        (fun _ => Disk.Intact files) (Disk.Intact files) := by
      apply Surroundings.CrashTriple.ask
      · exact fun _ interrupted => interrupted.2.2
      · intro before answer after interrupted answered
        rcases answered with ⟨reply, _, responds⟩
        cases responds
        refine ⟨?_, interrupted.2.2⟩
        intro marker same
        rw [interrupted.2.1] at same
        cases reply with
        | done =>
            cases same
            exact interrupted.1
        | fails text => contradiction
    apply asked.bind
    intro answer
    cases answer with
    | ok marker => exact .pure fun _ holds => ⟨by simp [holds.1 marker rfl], holds.2⟩
    | error text => exact .pure fun _ holds => ⟨by simp, holds.2⟩
  apply looked.bind
  intro isFile
  split
  · exact .pure fun _ interrupted => interrupted.2.2
  · apply read.bind
    intro marker
    apply Surroundings.CrashTriple.of_fact
    intro unstaged
    split
    · exact crash_intact ((status _).bind fun _ => .pure _)
    · split
      · exact .pure fun _ => id
      · exact crash_intact (within_unlinkMarker.bind fun _ => (status _).bind fun _ => .pure _)

theorem boot_applying {disk : Disk} {request : Marker} (marker : disk.marker = some request)
    (applying : request.state = .applying) (enabled : Bool) (limits : RestoreLimits)
    (script : List Reply) :
    ((fileSystem sqlite).exec (applyPendingRestoreAtBoot sqlite enabled limits) script
      disk).1.files = disk.files := by
  rw [exec_atBoot]
  have interrupted : disk.Interrupted request disk.files := ⟨applying, marker, rfl⟩
  have triple : (operations sqlite fun _ _ _ => True).CrashTriple
      (fun other => other.Interrupted request disk.files)
      (applyPendingRestore sqlite enabled limits) (fun _ => Disk.Intact disk.files)
      (fun _ => Disk.Intact disk.files) (Disk.Intact disk.files) := crash_applying
  exact Device.exec_holds triple interrupted Device.meets_true

/-- Whatever the start meets, the restore finds what the previous process has left, exactly
where no listed review is due. -/
theorem start_untouched_iff (sqlite : Sqlite) (platform : Platform) (now maxAge : Time)
    (installation : Installation) :
    (∀ world, Untouched sqlite platform now maxAge world installation) ↔
      ∀ row ∈ verificationRecords platform installation.disk.files,
        ¬row.Due platform now maxAge (loadJobs installation) := by
  constructor
  · intro untouched row mem due
    rcases expireReviews_acts mem due with ⟨jid, noted⟩
    have none_ := (untouched {}).effects
    unfold beforeRestore expireReviewRequiredJobs at none_
    have same : (loadJobs installation).disk = installation.disk := rfl
    rw [same, List.eq_nil_iff_forall_not_mem] at none_
    exact none_ _ noted
  · intro early world
    have before : beforeRestore platform now maxAge world installation =
        (loadJobs installation, true) := expireReviews_skips early
    constructor
    · rw [before]
      rfl
    · rw [before]
      rfl
    · intro request marker applying
      unfold startUp
      rw [before]
      exact boot_applying marker applying ..

/-! ## An expiry beside an interrupted apply -/

/-- A sidecar, as it is written. -/
def dueText : Bytes :=
  ("\x7b\"jid\": \"0123456789ab\", \"v2_verification_decision\": \"REVIEW_REQUIRED\"" ++
    ", \"lifecycle\": \x7b\"state\": \"pending_review\", \"created_at\": 1\x7d\x7d"
    ).toUTF8.data.toList

/-- What it says. -/
def dueSidecar : Sidecar where
  jid := some "0123456789ab"
  record :=
    { decision := .reviewRequired, outcome := .pending
      lifecycle := { state := some .pendingReview, createdAt := some 1 } }

/-- A platform that reads it. -/
def duePlatform : Platform where
  loads data := if data = dueText then some dueSidecar else none
  dump _ := []
  glob paths := paths

/-- An apply was interrupted, and the review is older than its retention. -/
def dueInstallation : Installation where
  disk :=
    { files := AList.insert (.sidecar "0123456789ab") dueText ∅
      marker := some { restoreId := some "r1", state := .applying, stagedZip := .staged "r1.zip" } }

theorem dueSidecar_expired : dueSidecar.record.isExpired 3000000 2592000 = true := by
  simp only [Record.isExpired, Record.createdAt, dueSidecar]
  norm_num

/-- A boot whose file operations all succeed. -/
def dueWorld : World where
  script := List.replicate 20 .done

/-- The workers stay off, and yet the review was closed before the marker was looked at. -/
theorem start_touched :
    (beforeRestore duePlatform 3000000 2592000 dueWorld dueInstallation).1.effects =
        [.blocklistRequest "0123456789ab", .archiveWritten "0123456789ab",
          .sidecarRemoved "0123456789ab", .outputRemoved "0123456789ab"] ∧
      (startUp plainSqlite duePlatform 3000000 2592000 dueWorld dueInstallation).2 =
        some false := by
  have listed : verificationRecords duePlatform (loadJobs dueInstallation).disk.files =
    [dueSidecar] := rfl
  have before : beforeRestore duePlatform 3000000 2592000 dueWorld dueInstallation =
      expireReviews duePlatform 3000000 2592000 dueWorld.reply [dueSidecar]
        (loadJobs dueInstallation) := by
    unfold beforeRestore expireReviewRequiredJobs
    rw [listed]
  simp only [expireReviews, expireReview, dueSidecar_expired] at before
  constructor
  · rw [before]
    rfl
  · unfold startUp
    rw [before]
    rfl

end Mintarr.Restore
