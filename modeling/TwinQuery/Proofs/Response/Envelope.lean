import TwinQuery.Response.Summary

/-!
# Opening envelopes

An answer is of one of four forms: an envelope around an object, an envelope that raises a failure,
an envelope that does neither, or no envelope at all (`form`). Opening it gives the object in the
first case and the answer itself in the last. In the third, what stands under `data` is lost.
-/

namespace TwinQuery

def Json.without (name : String) : Json → Json
  | .object fields => .object (Dictionary.erase name fields)
  | other => other

theorem Json.field?_without_self (name : String) (value : Json) :
    (value.without name).field? name = none := by
  cases value with
  | object fields => exact Dictionary.find?_erase_self name fields
  | _ => rfl

namespace Response

/-! ## The forms of an answer -/

/-- An answer with the two fields of an envelope. -/
def Enveloped (answer : Json) : Prop :=
  answer.field? "data" ≠ none ∧ answer.field? "success" ≠ none

/-- An envelope around an object. -/
def Wraps (answer : Json) (payload : Dictionary Json) : Prop :=
  answer.field? "success" ≠ none ∧ answer.field? "data" = some (.object payload)

/-- Something other than an object stands under `data`. -/
def HoldsOther (answer : Json) : Prop :=
  ∃ data, answer.field? "data" = some data ∧ ∀ payload, data ≠ .object payload

/-- An envelope that reports a failure and holds no object: the failure is raised for a reason. -/
def Raises (answer : Json) (reason : String) : Prop :=
  answer.field? "success" = some (.bool false) ∧ HoldsOther answer ∧
    ((answer.field? "error").bind errorText?).getD "request failed" = reason

/-- An envelope that reports no failure and holds no object: what stands under `data` is lost. -/
def LosesData (answer : Json) : Prop :=
  (∃ success, answer.field? "success" = some success ∧ success ≠ .bool false) ∧ HoldsOther answer

/-- An answer that is meant for its reader as a whole: it neither wraps an object nor raises a
failure. -/
def Whole (answer : Json) : Prop :=
  (∀ payload, ¬Wraps answer payload) ∧ ∀ reason, ¬Raises answer reason

/-- Each answer is of one of four forms. -/
inductive Form (answer : Json) : Prop where
  | wraps (payload : Dictionary Json) (h : Wraps answer payload)
  | raises (reason : String) (h : Raises answer reason)
  | losesData (h : LosesData answer)
  | plain (h : ¬Enveloped answer)

/-- Every answer is of one of the four forms, which exclude each other. -/
theorem form (answer : Json) : Form answer := by
  by_cases henveloped : Enveloped answer
  · obtain ⟨hdata, hsuccess⟩ := henveloped
    obtain ⟨data, hdata⟩ := Option.ne_none_iff_exists'.1 hdata
    by_cases hobject : ∃ payload, data = .object payload
    · obtain ⟨payload, rfl⟩ := hobject
      exact .wraps payload ⟨hsuccess, hdata⟩
    · have hother : HoldsOther answer := ⟨data, hdata, fun payload heq => hobject ⟨payload, heq⟩⟩
      obtain ⟨success, hsuccess⟩ := Option.ne_none_iff_exists'.1 hsuccess
      by_cases hfailed : success = .bool false
      · exact .raises _ ⟨hfailed ▸ hsuccess, hother, rfl⟩
      · exact .losesData ⟨⟨success, hsuccess, hfailed⟩, hother⟩
  · exact .plain henveloped

section Forms

variable {answer : Json} {payload : Dictionary Json} {reason : String}

theorem Wraps.enveloped (hwraps : Wraps answer payload) : Enveloped answer := by
  refine ⟨?_, hwraps.1⟩
  rw [hwraps.2]
  exact Option.some_ne_none _

theorem HoldsOther.not_wraps (hother : HoldsOther answer) : ¬Wraps answer payload := by
  rintro ⟨_, hdata⟩
  obtain ⟨data, hheld, hnot⟩ := hother
  rw [hheld] at hdata
  exact hnot payload (Option.some.inj hdata)

theorem Raises.enveloped (hraises : Raises answer reason) : Enveloped answer := by
  obtain ⟨hsuccess, ⟨data, hdata, _⟩, _⟩ := hraises
  rw [Enveloped, hdata, hsuccess]
  exact ⟨Option.some_ne_none _, Option.some_ne_none _⟩

/-- An answer without an envelope is meant for its reader as a whole. -/
theorem whole_of_not_enveloped (hplain : ¬Enveloped answer) : Whole answer :=
  ⟨fun _ hwraps => hplain hwraps.enveloped, fun _ hraises => hplain hraises.enveloped⟩

theorem LosesData.not_raises (hloses : LosesData answer) : ¬Raises answer reason := by
  rintro ⟨hfailed, _⟩
  obtain ⟨⟨success, hsuccess, hnot⟩, _⟩ := hloses
  rw [hfailed] at hsuccess
  exact hnot (Option.some.inj hsuccess).symm

/-- Where data is lost, no failure is raised and nothing is wrapped either. -/
theorem LosesData.whole (hloses : LosesData answer) : Whole answer :=
  ⟨fun _ => hloses.2.not_wraps, fun _ => hloses.not_raises⟩

/-! ## Opening an answer -/

/-- In an envelope the answer depends on what stands under its two fields. -/
theorem unwrap_of_enveloped {data success : Json} (hdata : answer.field? "data" = some data)
    (hsuccess : answer.field? "success" = some success) :
    unwrap answer =
      match data, success with
      | .object payload, _ => .ok (.object payload)
      | _, .bool false =>
          .error (.query (((answer.field? "error").bind errorText?).getD "request failed"))
      | _, _ => .ok (answer.without "data") := by
  cases answer with
  | object fields =>
      have hdata : Dictionary.find? "data" fields = some data := hdata
      have hsuccess : Dictionary.find? "success" fields = some success := hsuccess
      have hboth : (Dictionary.contains "data" fields && Dictionary.contains "success" fields) =
          true := by
        rw [Dictionary.contains, Dictionary.contains, hdata, hsuccess]
        rfl
      rw [unwrap, if_pos hboth, hdata, hsuccess]
      cases data with
      | object payload => rfl
      | _ =>
          cases success with
          | bool stated => cases stated <;> rfl
          | _ => rfl
  | _ => cases hdata

/-- An object in an envelope is taken out, whatever the envelope says. -/
theorem unwrap_of_wraps (hwraps : Wraps answer payload) :
    unwrap answer = .ok (.object payload) := by
  obtain ⟨hsuccess, hdata⟩ := hwraps
  obtain ⟨success, hsuccess⟩ := Option.ne_none_iff_exists'.1 hsuccess
  rw [unwrap_of_enveloped hdata hsuccess]

/-- A failure that an envelope reports is raised for its reason. -/
theorem unwrap_of_raises (hraises : Raises answer reason) :
    unwrap answer = .error (.query reason) := by
  obtain ⟨hsuccess, ⟨data, hdata, hother⟩, rfl⟩ := hraises
  rw [unwrap_of_enveloped hdata hsuccess]
  cases data with
  | object payload => exact absurd rfl (hother payload)
  | _ => rfl

/-- Of an envelope of success without an object everything but its data is left. -/
theorem unwrap_of_losesData (hloses : LosesData answer) :
    unwrap answer = .ok (answer.without "data") := by
  obtain ⟨⟨success, hsuccess, hstated⟩, data, hdata, hother⟩ := hloses
  rw [unwrap_of_enveloped hdata hsuccess]
  cases data with
  | object payload => exact absurd rfl (hother payload)
  | _ =>
      cases success with
      | bool stated =>
          cases stated with
          | false => exact absurd rfl hstated
          | true => rfl
      | _ => rfl

/-- An answer without an envelope is left as it is. -/
theorem unwrap_of_not_enveloped (hplain : ¬Enveloped answer) : unwrap answer = .ok answer := by
  cases answer with
  | object fields =>
      have hnot : ¬(Dictionary.contains "data" fields && Dictionary.contains "success" fields) =
          true := by
        intro hboth
        obtain ⟨hdata, hsuccess⟩ := Bool.and_eq_true_iff.1 hboth
        exact hplain ⟨Option.isSome_iff_ne_none.1 hdata, Option.isSome_iff_ne_none.1 hsuccess⟩
      rw [unwrap, if_neg hnot]
  | _ => rfl

/-- The failure that opening an answer raises. -/
theorem unwrap_eq_error_iff {error : Error} :
    unwrap answer = .error error ↔ ∃ reason, Raises answer reason ∧ error = .query reason := by
  constructor
  case mp =>
    intro hfailed
    rcases form answer with ⟨payload, hwraps⟩ | ⟨reason, hraises⟩ | hloses | hplain
    · rw [unwrap_of_wraps hwraps] at hfailed
      cases hfailed
    · rw [unwrap_of_raises hraises] at hfailed
      cases hfailed
      exact ⟨reason, hraises, rfl⟩
    · rw [unwrap_of_losesData hloses] at hfailed
      cases hfailed
    · rw [unwrap_of_not_enveloped hplain] at hfailed
      cases hfailed
  case mpr =>
    rintro ⟨reason, hraises, rfl⟩
    exact unwrap_of_raises hraises

end Forms

end Response

end TwinQuery
