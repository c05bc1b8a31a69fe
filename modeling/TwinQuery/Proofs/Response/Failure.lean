import TwinQuery.Proofs.Response.Readers

/-!
# Failures that a service reports

A service reports a failure by a flag among the fields of its answer. Whether that failure is raised
depends on what stands under `data`: an object there is taken for the answer, and the fields
around it are not looked at. A write whose answer has no `data` at all is read from its fields,
among which the flag is none that a summary has.
-/

namespace TwinQuery.Response

/-- The flag of a failure among the fields of an answer. -/
def ReportsFailure (fields : Dictionary Json) : Prop :=
  Dictionary.find? "success" fields = some (.bool false)

/-- What fields say of themselves: success is what they state, and where they state nothing it is
that they hold no error. -/
def ClaimsSuccess (fields : Dictionary Json) : Prop :=
  match (Dictionary.find? "success" fields).bind Json.bool? with
  | some stated => stated = true
  | none => (Dictionary.find? "error" fields).getD .null = .null

/-- The flag of a failure is hidden by an object under `data` that claims success. -/
def Masked (fields : Dictionary Json) : Prop :=
  ∃ data, Dictionary.find? "data" fields = some (.object data) ∧ ClaimsSuccess data

/-! ## Texts of errors -/

/-- Every error but null has a text. -/
theorem errorText?_eq_none_iff (error : Json) : errorText? error = none ↔ error = .null := by
  constructor
  case mp =>
    intro hnone
    cases error with
    | null => rfl
    | object fields =>
        unfold errorText? at hnone
        dsimp only at hnone
        split at hnone
        next => cases hnone
        next =>
          split at hnone
          next => cases hnone
          next => cases hnone
    | _ => cases hnone
  case mpr =>
    rintro rfl
    rfl

theorem reportedError?_eq_none_iff (fields : Dictionary Json) :
    reportedError? fields = none ↔ (Dictionary.find? "error" fields).getD .null = .null := by
  unfold reportedError?
  cases Dictionary.find? "error" fields with
  | none => simp
  | some error => exact errorText?_eq_none_iff error

/-! ## Envelopes -/

section Unwrap

variable {fields : Dictionary Json}

/-- Without `data` there is no envelope, whatever else an answer has. -/
theorem not_enveloped_of_no_data (hdata : Dictionary.find? "data" fields = none) :
    ¬Enveloped (.object fields) :=
  fun henveloped => henveloped.1 hdata

theorem unwrap_of_no_data (hdata : Dictionary.find? "data" fields = none) :
    unwrap (.object fields) = .ok (.object fields) :=
  unwrap_of_not_enveloped (not_enveloped_of_no_data hdata)

/-- An object under `data` is taken out in spite of the flag of a failure. -/
theorem unwrap_of_object (hfailure : ReportsFailure fields) {data : Dictionary Json}
    (hdata : Dictionary.find? "data" fields = some (.object data)) :
    unwrap (.object fields) = .ok (.object data) := by
  have hsuccess : Json.field? "success" (.object fields) = some (.bool false) := hfailure
  refine unwrap_of_wraps ⟨?_, hdata⟩
  rw [hsuccess]
  exact Option.some_ne_none _

/-- With anything but an object under `data`, the failure is raised. -/
theorem unwrap_of_other (hfailure : ReportsFailure fields) {value : Json}
    (hdata : Dictionary.find? "data" fields = some value)
    (hother : ∀ data, value ≠ .object data) :
    unwrap (.object fields) = .error (.query ((reportedError? fields).getD "request failed")) :=
  unwrap_of_raises ⟨hfailure, ⟨value, hdata, hother⟩, rfl⟩

end Unwrap

/-! ## Answers with rows -/

namespace Rows

/-- What the reply to a request for rows comes to: the rows, or the failure of the request or the
failure that the reply reports. -/
def ofReply (reply : Except Error Json) : Except Error Rows := do
  (← ofJson (← reply)).checked

/-- The rows of an answer are marked as a success exactly where its fields claim one. -/
theorem success_ofFields_iff (fields : Dictionary Json) :
    (ofFields fields).success = true ↔ ClaimsSuccess fields := by
  have herror := reportedError?_eq_none_iff fields
  unfold ClaimsSuccess
  simp only [ofFields]
  cases (Dictionary.find? "success" fields).bind Json.bool? with
  | some stated => rfl
  | none =>
      rw [Option.getD_none, Option.isNone_iff_eq_none]
      exact herror

theorem not_claimsSuccess {fields : Dictionary Json} (hfailure : ReportsFailure fields) :
    ¬ClaimsSuccess fields := by
  have hsuccess : Dictionary.find? "success" fields = some (.bool false) := hfailure
  simp [ClaimsSuccess, hsuccess, Json.bool?]

variable {fields body : Dictionary Json}

/-- Rows that claim success are handed over. -/
theorem ofReply_of_claimsSuccess (hunwrap : unwrap (.object fields) = .ok (.object body))
    (hclaims : ClaimsSuccess body) : ofReply (.ok (.object fields)) = .ok (ofFields body) := by
  have hsuccess := (success_ofFields_iff body).2 hclaims
  simp [ofReply, ofJson, hunwrap, checked, hsuccess, bind, Except.bind, pure, Except.pure]

/-- Rows that claim no success are raised as a failure. -/
theorem ofReply_of_not_claimsSuccess (hunwrap : unwrap (.object fields) = .ok (.object body))
    (hclaims : ¬ClaimsSuccess body) :
    ∃ reason, ofReply (.ok (.object fields)) = .error (.query reason) := by
  have hsuccess : ¬(ofFields body).success = true :=
    fun hstated => hclaims ((success_ofFields_iff body).1 hstated)
  refine ⟨((ofFields body).error?).getD "query reported failure", ?_⟩
  simp [ofReply, ofJson, hunwrap, checked, hsuccess, bind, Except.bind, pure, Except.pure]

/-- A failure that is masked is lost, and the object that masks it is the answer. -/
theorem ofReply_of_masked (hfailure : ReportsFailure fields) (hmasked : Masked fields) :
    ∃ rows, ofReply (.ok (.object fields)) = .ok rows := by
  obtain ⟨data, hdata, hclaims⟩ := hmasked
  exact ⟨_, ofReply_of_claimsSuccess (unwrap_of_object hfailure hdata) hclaims⟩

/-- A failure that is not masked is raised. -/
theorem ofReply_of_not_masked (hfailure : ReportsFailure fields) (hmasked : ¬Masked fields) :
    ∃ reason, ofReply (.ok (.object fields)) = .error (.query reason) := by
  cases hdata : Dictionary.find? "data" fields with
  | none =>
      exact ofReply_of_not_claimsSuccess (unwrap_of_no_data hdata) (not_claimsSuccess hfailure)
  | some value =>
      by_cases hobject : ∃ data, value = .object data
      · obtain ⟨data, rfl⟩ := hobject
        exact ofReply_of_not_claimsSuccess (unwrap_of_object hfailure hdata)
          fun hclaims => hmasked ⟨data, hdata, hclaims⟩
      · have hunwrap := unwrap_of_other hfailure hdata fun data heq => hobject ⟨data, heq⟩
        refine ⟨(reportedError? fields).getD "request failed", ?_⟩
        simp [ofReply, ofJson, hunwrap, bind, Except.bind]

end Rows

/-! ## Answers to writes -/

/-- The fields that go with the flag of a failure, besides `data`. -/
def failureFields : List String := ["error", "metadata", "success"]

/-- An answer that holds nothing but the flag of a failure and what goes with it. -/
def Bare (fields : Dictionary Json) : Prop :=
  ∀ entry ∈ fields, entry.1 ∈ failureFields

/-- A bare answer has no fields but the flag of a failure and those that go with it. -/
theorem find?_of_bare {fields : Dictionary Json} (hbare : Bare fields) {name : String}
    (hname : name ∉ failureFields) : Dictionary.find? name fields = none := by
  rw [Dictionary.find?, List.lookup_eq_none_iff]
  intro entry hentry
  rw [bne_iff_ne]
  rintro rfl
  exact hname (hbare entry hentry)

/-- How the answer to a write is read: a failure is raised where the envelope raises it, and an
answer without `data` never raises one. Where such an answer is bare, it is read as `nothing`. -/
structure ReadsSummary {α : Type} (read : Json → Except Error α) (nothing : α) : Prop where
  raised : ∀ fields error, unwrap (.object fields) = .error error →
    read (.object fields) = .error error
  overlooked : ∀ fields, Dictionary.find? "data" fields = none →
    ∀ reason, read (.object fields) ≠ .error (.query reason)
  bare : ∀ fields, Dictionary.find? "data" fields = none → Bare fields →
    read (.object fields) = .ok nothing

section Bare

variable {fields : Dictionary Json}

/-- A summary that is read as a record knows none of the fields of a failure. -/
theorem summaryOfBody_of_bare {α : Type} {what : String} (type : String) (start : α)
    (known : List (String × (α → Json → Except Json.Mismatch α)))
    (hunknown : ∀ name ∈ failureFields, name ∉ known.map Prod.fst) (hbare : Bare fields) :
    summaryOfBody what (Json.decodeRecord type start known) (.object fields) = .ok start := by
  rw [summaryOfBody, Json.decodeRecord_of_unknown _ _ _ fun entry hentry =>
    hunknown entry.1 (hbare entry hentry)]

theorem InsertSummary.ofBody_of_bare (hbare : Bare fields) : ofBody (.object fields) = .ok {} :=
  summaryOfBody_of_bare _ _ _ (by decide) hbare

theorem UpdateSummary.ofBody_of_bare (hbare : Bare fields) : ofBody (.object fields) = .ok {} :=
  summaryOfBody_of_bare _ _ _ (by decide) hbare

theorem DeleteSummary.ofBody_of_bare (hbare : Bare fields) :
    ofBody (withoutNull (.object fields)) = .ok {} := by
  rw [withoutNull, find?_of_bare hbare (by decide)]
  exact summaryOfBody_of_bare _ _ _ (by decide) hbare

/-- A reader that opens one envelope raises what the envelope raises, and reads a bare answer as a
write that did nothing. -/
theorem OpensOne.readsSummary {α : Type} {read ofBody : Json → Except Error α} {nothing : α}
    (hread : OpensOne read ofBody)
    (hbare : ∀ {fields}, Bare fields → ofBody (.object fields) = .ok nothing) :
    ReadsSummary read nothing where
  raised fields error hunwrap := by
    rw [hread.opens, hunwrap]
    rfl
  overlooked fields hdata reason hraised :=
    not_enveloped_of_no_data hdata (hread.raises_iff.1 hraised).enveloped
  bare fields hdata hfields := by
    rw [hread.of_whole (whole_of_not_enveloped (not_enveloped_of_no_data hdata))]
    exact hbare hfields

end Bare

theorem InsertSummary.readsSummary : ReadsSummary ofJson {} :=
  opensOne.readsSummary ofBody_of_bare

theorem UpdateSummary.readsSummary : ReadsSummary ofJson {} :=
  opensOne.readsSummary ofBody_of_bare

/-- The second opening of the reader of deletions makes no difference to answers that have no
`data`. -/
theorem DeleteSummary.readsSummary : ReadsSummary ofJson {} where
  raised fields error hunwrap := by
    rw [ofJson_eq, hunwrap]
    rfl
  overlooked fields hdata reason hraised := by
    have hwhole := whole_of_not_enveloped (not_enveloped_of_no_data hdata)
    obtain hraises | ⟨payload, hwraps, _⟩ := raises_iff.1 hraised
    · exact hwhole.2 reason hraises
    · exact hwhole.1 payload hwraps
  bare fields hdata hbare := by
    rw [ofJson_of_whole (whole_of_not_enveloped (not_enveloped_of_no_data hdata))]
    exact ofBody_of_bare hbare

end TwinQuery.Response
