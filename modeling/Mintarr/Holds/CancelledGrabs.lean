import Mintarr.Backend.Row
import Mintarr.Holds.AlbumHolds
import Mintarr.Lib.PyValue

/-!
# Holds that are asked for

An operator who removes a download from Lidarr wants no other release of its album for a while.
The removal holds the album where its id is known: a row has recorded it, or Lidarr's queue still
lists the download.  A hold can also be asked for on the dashboard, for an album that Lidarr has.
-/

namespace Mintarr.Holds

open Lib

/-- An object of `json.loads`. -/
abbrev Fields := List (Py.Str × Py.PyValue)

/-! ## Lidarr's queue -/

section Queue

open Py PyValue

/-- The fields of an object; of anything else there are none. -/
def fieldsOf : PyValue → Fields
  | .dict fields => fields
  | _ => []

/-- The items of a list; of anything else there are none. -/
def itemsOf : PyValue → List PyValue
  | .list items => items
  | _ => []

/-- The value is this text. -/
def isText (text : Str) : PyValue → Bool
  | .str other => other = text
  | _ => false

/-- The first record with this `downloadId`; a record that is no object ends the search. -/
def recordOf (jid : String) : List PyValue → Option Fields
  | .dict record :: records =>
      if isText (Py.str jid) (get record "downloadId") then some record else recordOf jid records
  | _ => none

/-- `_lidarr_queue_record_for_download_id`, with the reply of the queue, if there is one. -/
def lidarrQueueRecordForDownloadId (jid : String) (reply : Option PyValue) : Option Fields :=
  reply.bind fun q => recordOf jid (itemsOf (get (fieldsOf q) "records"))

/-- `album_id` in `_lidarr_album_id_from_record`. -/
def recordedAlbumId (record : Fields) : PyValue :=
  match get record "albumId" with
  | .none => get (fieldsOf (get record "album")) "id"
  | albumId => albumId

/-- `_lidarr_album_id_from_record`; nothing also where `int` overflows, which the caller catches. -/
def lidarrAlbumIdFromRecord (record : Fields) : Option Int := (recordedAlbumId record).toInt

/-- A field of the details, where its value says something. -/
def detail (repr : PyValue → Str) (key : String) (value : PyValue) : Fields :=
  if value.truthy then [(Py.str key, .str (value.toStr repr))] else []

/-- `_album_hold_details_from_lidarr_record`. -/
def albumHoldDetailsFromLidarrRecord (repr : PyValue → Str) (record : Fields) : Fields :=
  let album := fieldsOf (get record "album")
  let artist := fieldsOf (get record "artist")
  let albumArtist := fieldsOf (get album "artist")
  let artistName := ((get albumArtist "artistName").orElse (get albumArtist "name")).orElse
    ((get artist "artistName").orElse (get artist "name"))
  let queueId :=
    match get record "id" with
    | .none | .str [] => []
    | id => [(Py.str "lidarr_queue_id", id)]
  detail repr "album_title" (get album "title") ++ detail repr "artist" artistName ++
    detail repr "download_title" (get record "title") ++ queueId

/-- `fields.setdefault(key, text)`. -/
def setDefault (key : String) (text : String) (fields : Fields) : Fields :=
  if (fields.lookup (Py.str key)).isSome then fields
  else PyValue.setItem fields (Py.str key) (.str (Py.str text))

end Queue

/-! ## The hold of a cancelled grab -/

/-- `_int_or_none`. -/
def intOrNone : Queue.Scalar → Option Int
  | .null => none
  | .int value => if 0 < value then some value else none
  | .str text => (Py.readInt (Py.str text)).filter fun value => 0 < value

/-- The row of a cancelled grab: of `jobs`, or of `backend_jobs`. -/
inductive GrabRow where
  | worker (job : Queue.Job)
  | backend (row : Backend.BackendJob)

namespace GrabRow

/-- `_job_payload_dict(job).get("target_album_id")`. -/
def payloadTarget : GrabRow → Queue.Scalar
  | worker job => job.payload.get? "target_album_id"
  | backend _ => .null

/-- `job.get("target_album_id")`. -/
def target : GrabRow → Queue.Scalar
  | worker _ => .null
  | backend row => row.targetAlbumId.elim .null .int

/-- `job.get("source_type")`. -/
def sourceType : GrabRow → Option String
  | worker job => job.sourceType
  | backend row => some row.sourceType

/-- `job.get("source_id")`. -/
def sourceId : GrabRow → Option String
  | worker job => job.sourceId
  | backend _ => none

/-- `job.get("release_title")`. -/
def releaseTitle : GrabRow → Option String
  | worker _ => none
  | backend row => row.releaseTitle

end GrabRow

/-- What the entry of a grab in `_jobs` has of its source. -/
structure GrabEntry where
  target : Queue.Scalar := .null
  sourceType : Option String := none
  sourceId : Option String := none

/-- What `_create_album_hold_for_cancel` looks at. -/
structure CancelledGrab where
  jid : String
  row : GrabRow
  entry : GrabEntry
  /-- The reply of Lidarr's queue, where it is asked and answers. -/
  queue : Option Py.PyValue

namespace CancelledGrab

/-- The album id that a row has recorded. -/
def recordedId (grab : CancelledGrab) : Option Int :=
  intOrNone grab.row.payloadTarget <|> intOrNone grab.row.target <|> intOrNone grab.entry.target

/-- `queue_record`; the queue is not asked where the album is known. -/
def queueRecord (grab : CancelledGrab) : Option Fields :=
  if grab.recordedId.isSome then none else lidarrQueueRecordForDownloadId grab.jid grab.queue

/-- `album_id`. -/
def albumId (grab : CancelledGrab) : Option Int :=
  grab.recordedId <|> grab.queueRecord.bind lidarrAlbumIdFromRecord

/-- `first or second`, of two texts that may be missing. -/
def firstText (first second : Option String) : Option String :=
  (first.filter (· ≠ "") <|> second).filter (· ≠ "")

/-- The details of the hold. -/
def details (repr : Py.PyValue → Py.Str) (grab : CancelledGrab) : Fields :=
  let found := setDefault "download_id" grab.jid
    (albumHoldDetailsFromLidarrRecord repr (grab.queueRecord.getD []))
  match grab.row.releaseTitle.filter (· ≠ "") with
  | none => found
  | some title => setDefault "download_title" title found

/-- `_create_album_hold_for_cancel`: the hold that it asks for. -/
def hold (dumps : Fields → String) (repr : Py.PyValue → Py.Str) (grab : CancelledGrab) :
    Option HoldRequest :=
  grab.albumId.map fun albumId =>
    { albumId
      reason := "operator_cancelled_active_grab"
      sourceJid := some grab.jid
      sourceType := firstText grab.row.sourceType grab.entry.sourceType
      sourceId := firstText grab.row.sourceId grab.entry.sourceId
      actor := some "lidarr_delete"
      detailsJson := dumps (grab.details repr) }

end CancelledGrab

/-! ## The hold of the dashboard -/

/-- A label of `label_map`. -/
structure AlbumLabel where
  artist : String
  album : String
  lidarrUrl : String

/-- A request of `album_hold_create`. -/
structure DashboardHold where
  albumId : Nat
  /-- What `label_map` finds. -/
  label : Option AlbumLabel
  /-- The body, where it is JSON. -/
  body : Option Py.PyValue

/-- The text as it can be stored: SQLite takes no half of a surrogate pair. -/
def storedText (text : Py.Str) : Option String :=
  (text.mapM fun c : Py.CodePoint =>
    match c with
    | .char c => some c
    | .surrogate _ => none).map String.ofList

/-- The reason in the body; nothing where the body has no fields to look in. -/
def DashboardHold.reason (repr : Py.PyValue → Py.Str) (request : DashboardHold) :
    Option String :=
  let reasonOf := fun fields : Fields =>
    storedText
      (((Py.PyValue.get fields "reason").orElse (.str (Py.str "user_dashboard"))).toStr repr)
  match request.body.filter Py.PyValue.truthy with
  | none => reasonOf []
  | some (.dict fields) => reasonOf fields
  | some _ => none

/-- `album_hold_create`: the hold that it asks for. -/
def DashboardHold.hold (dumps : Fields → String) (repr : Py.PyValue → Py.Str)
    (request : DashboardHold) : Option HoldRequest :=
  match request.label, request.reason repr with
  | some label, some reason =>
      some
        { albumId := request.albumId
          reason
          actor := some "user_dashboard"
          sourceType := some "user_dashboard"
          detailsJson := dumps
            [(Py.str "artist", .str (Py.str label.artist)),
              (Py.str "album_title", .str (Py.str label.album)),
              (Py.str "lidarr_url", .str (Py.str label.lidarrUrl))] }
  | _, _ => none

end Mintarr.Holds
