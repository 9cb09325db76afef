import Mintarr.Evidence.Measure
import Mintarr.Lib.Path
import Mintarr.Lib.Value

/-!
# The reply of the Detective service

What `measure_trackfile_spectral` reads of the JSON that the service returns for one file.
Authenticity is the absence of a bad word: a verdict that says nothing counts as authentic,
and a verdict that is no string raises.
-/

namespace Mintarr.Evidence

open Lib

/-! ## Reading the reply -/

/-- An object of the reply. -/
abbrev Fields := List (String × Value)

/-- `_match_detective_file`. -/
def matchDetectiveFile (result : Value) (mapped : String) : Option Fields :=
  match result with
  | .object fields =>
      match Value.get fields "files" with
      | .array items =>
          items.findSome? fun item =>
            match item with
            | .object entry =>
                match Value.get entry "path" with
                | .string path => if normpath path = normpath mapped then some entry else none
                | _ => none
            | _ => none
      | _ => none
  | _ => none

/-- `entry.get("verdict") or result.get("overall_verdict") or ""`. -/
def appliedVerdict (result : Value) (entry : Fields) : Value :=
  let overall :=
    match result with
    | .object fields => Value.get fields "overall_verdict"
    | _ => .null
  (Value.get entry "verdict").orElse (overall.orElse (.string ""))

/-- `bool(entry.get("is_fake_high_res"))`. -/
def isFlagged (entry : Fields) : Bool := (Value.get entry "is_fake_high_res").truthy

/-- The answer in a reply, where `upper` is `str.upper`; the error that reading it
raises. -/
def spectralAnswer (upper : String → String) (result : Value) (mapped : String) :
    Except String SpectralAnswer :=
  match matchDetectiveFile result mapped with
  | none => .ok .unmatched
  | some entry =>
      match (appliedVerdict result entry).asString with
      | some text =>
          .ok (.matched
            { verdict := if upper text = "" then none else some (upper text)
              isFakeHighRes := isFlagged entry })
      | none => .error "object has no attribute 'upper'"

/-- The measurement that an answer makes. -/
def SpectralAnswer.measurement : SpectralAnswer → SpectralMeasurement
  | .unreachable => { status := "unmeasured", reason := some "detective unreachable" }
  | .unmatched => { status := "unmeasured", reason := some "no detective result for file" }
  | .matched entry =>
      let fake := entry.isFakeHighRes || entry.verdict.any (· ∈ fakeVerdicts)
      { status := "measured", authentic := .bool (!fake), verdict := entry.verdict }

/-- `measure_trackfile_spectral` with a client, which returns nothing where it raises. -/
def Library.measureSpectral (library : Library) (upper : String → String) (enabled : Bool)
    (client : String → Option Value) (lidarrPath : String) :
    Except String SpectralMeasurement :=
  if !enabled then .ok { status := "unmeasured", reason := some "spectral disabled" }
  else if !library.configured then
    .ok { status := "unmeasured", reason := some "library not mounted" }
  else
    match library.resolve lidarrPath with
    | .error reason => .ok { status := "unmeasured", reason := some reason }
    | .ok mapped =>
        match client mapped with
        | none => .ok SpectralAnswer.unreachable.measurement
        | some result => (spectralAnswer upper result mapped).map SpectralAnswer.measurement

variable {library : Library} {upper : String → String} {enabled : Bool}
  {client : String → Option Value} {lidarrPath : String}

/-- On a file that is there, a reply that can be read makes the measurement of its
answer. -/
theorem measureSpectral_eq {mapped : String} {file : FileId} {result : Value}
    {answer : SpectralAnswer} (resolved : library.resolve lidarrPath = .ok mapped)
    (present : library.file mapped = some file) (replied : client mapped = some result)
    (read : spectralAnswer upper result mapped = .ok answer) :
    library.measureSpectral upper enabled client lidarrPath =
      .ok (library.measureTrackfileSpectral enabled lidarrPath answer) := by
  unfold Library.measureSpectral Library.measureTrackfileSpectral Library.probedFile
  cases enabled with
  | false => rfl
  | true =>
      cases configured : library.configured with
      | false => rfl
      | true =>
          simp only [Bool.not_true, Bool.false_eq_true, if_false, if_true, resolved, replied,
            present, read]
          cases answer <;> rfl

/-! ## What vouches for a file -/

/-- The verdicts that affirm a file. -/
def affirmativeVerdicts : List String := ["AUTHENTIC", "WARNING"]

/-- The reply has an entry for the path, without an error or a fake hi-res flag, whose
verdict affirms the file. -/
structure Vouches (upper : String → String) (result : Value) (mapped : String) (entry : Fields) :
    Prop where
  matched : matchDetectiveFile result mapped = some entry
  unflagged : isFlagged entry = false
  without_error : (Value.get entry "error").truthy = false
  affirmative : ∃ text ∈ (appliedVerdict result entry).asString,
    upper text ∈ affirmativeVerdicts

/-- The measurement exists, and says authentic only where the service vouched for the
file. -/
def NeverAssumed (library : Library) (upper : String → String) (enabled : Bool)
    (client : String → Option Value) (lidarrPath : String) : Prop :=
  ∃ measurement, library.measureSpectral upper enabled client lidarrPath = .ok measurement ∧
    (measurement.authentic = .unknown ∨ measurement.authentic = .bool false ∨
      ∃ mapped result entry, library.resolve lidarrPath = .ok mapped ∧
        client mapped = some result ∧ Vouches upper result mapped entry)

/-- The entry decides: its verdict is a string, and the entry is flagged, the verdict
condemns the file, or it affirms the file and there is no error. -/
def decides (upper : String → String) (result : Value) (entry : Fields) : Bool :=
  match (appliedVerdict result entry).asString with
  | some text =>
      isFlagged entry || upper text ∈ fakeVerdicts ||
        (upper text ∈ affirmativeVerdicts && !(Value.get entry "error").truthy)
  | none => false

/-- The verdict of a condemned file does not affirm it. -/
theorem fake_not_affirmative {verdict : String} (fake : verdict ∈ fakeVerdicts) :
    verdict ∉ affirmativeVerdicts := by
  simp only [fakeVerdicts, List.mem_cons, List.not_mem_nil, or_false] at fake
  obtain rfl | rfl | rfl := fake <;> decide

/-- What a matched entry is measured as, if its verdict is a string. -/
theorem measurement_of_matched {result : Value} {mapped : String} {entry : Fields}
    (matched : matchDetectiveFile result mapped = some entry) :
    (spectralAnswer upper result mapped).map SpectralAnswer.measurement =
      match (appliedVerdict result entry).asString with
      | some text =>
          .ok
            { status := "measured"
              authentic := .bool (!(isFlagged entry || upper text ∈ fakeVerdicts))
              verdict := if upper text = "" then none else some (upper text) }
      | none => .error "object has no attribute 'upper'" := by
  unfold spectralAnswer
  rw [matched]
  dsimp only
  cases (appliedVerdict result entry).asString with
  | none => rfl
  | some text =>
      by_cases empty : upper text = ""
      · have genuine : "" ∉ fakeVerdicts := by decide
        simp [SpectralAnswer.measurement, Except.map, empty, genuine]
      · simp [SpectralAnswer.measurement, Except.map, empty]

/-- The client's reply never makes the measurement assume, or raise, exactly where no entry
matches or the matching one decides. -/
theorem reply_never_assumed_iff {result : Value} {mapped : String} :
    (∃ measurement, (spectralAnswer upper result mapped).map SpectralAnswer.measurement =
        .ok measurement ∧
      (measurement.authentic = .unknown ∨ measurement.authentic = .bool false ∨
        ∃ entry, Vouches upper result mapped entry)) ↔
      ∀ entry, matchDetectiveFile result mapped = some entry →
        decides upper result entry = true := by
  cases matched : matchDetectiveFile result mapped with
  | none =>
      constructor
      · intro _ entry found
        contradiction
      · intro _
        exact ⟨SpectralAnswer.unmatched.measurement, by rw [spectralAnswer, matched]; rfl,
          .inl rfl⟩
  | some entry =>
      rw [measurement_of_matched matched]
      simp only [Option.some.injEq, forall_eq', decides]
      cases verdict : (appliedVerdict result entry).asString with
      | none => simp
      | some text =>
          have vouched : (∃ entry, Vouches upper result mapped entry) ↔
              isFlagged entry = false ∧ (Value.get entry "error").truthy = false ∧
                upper text ∈ affirmativeVerdicts := by
            constructor
            · rintro ⟨other, vouches⟩
              cases matched.symm.trans vouches.matched
              obtain ⟨own, spelled, affirmative⟩ := vouches.affirmative
              cases verdict.symm.trans spelled
              exact ⟨vouches.unflagged, vouches.without_error, affirmative⟩
            · intro clean
              exact ⟨entry, matched, clean.1, clean.2.1, text, verdict, clean.2.2⟩
          simp only [Except.ok.injEq, exists_eq_left', vouched]
          cases isFlagged entry <;> by_cases fake : upper text ∈ fakeVerdicts <;> simp [fake, and_comm]

/-- The letters that the verdicts need. -/
def upperAscii (text : String) : String := String.ofList (text.toList.map Char.toUpper)

/-- A mount on which every path is its own. -/
def plainLibrary : Library where
  configured := true
  resolve path := .ok path
  file _ := none

/-- A client that reports one file, with a verdict and an overall verdict. -/
def reportingClient (verdict overall : Value) (path : String) : Option Value :=
  some (.object
    [("overall_verdict", overall),
     ("files", .array [.object [("path", .string path), ("verdict", verdict)]])])

end Mintarr.Evidence
