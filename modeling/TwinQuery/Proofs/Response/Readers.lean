import TwinQuery.Proofs.Response.Envelope

/-!
# What the readers make of an envelope

Opening an answer may lose what stands under `data`, but no reader asks for it
(`opened_iff_not_losesData`). All readers open one envelope and go on from what is left, except that
the reader of deletions opens a second one (`opensEnvelopes`).
-/

namespace TwinQuery

/-- A field that a record does not know has no part in how it is read from an object. -/
theorem Json.decodeRecord_erase {α : Type} (type : String) (start : α)
    {known : List (String × (α → Json → Except Mismatch α))} {name : String}
    (hunknown : name ∉ known.map Prod.fst) (fields : Dictionary Json) :
    decodeRecord type start known (.object (Dictionary.erase name fields)) =
      decodeRecord type start known (.object fields) := by
  have hnone : known.lookup name = none := by
    rw [List.lookup_eq_none_iff]
    intro field hfield
    rw [bne_iff_ne]
    rintro rfl
    exact hunknown (List.mem_map_of_mem hfield)
  rw [decodeRecord, decodeRecord]
  induction fields generalizing start with
  | nil => rfl
  | cons entry rest ih =>
      by_cases hentry : entry.1 = name
      · rw [Dictionary.erase, List.filter_cons_of_neg (by simp [hentry]), List.foldlM_cons, hentry,
          hnone]
        exact ih start
      · rw [Dictionary.erase, List.filter_cons_of_pos (by simpa using hentry), List.foldlM_cons,
          List.foldlM_cons]
        apply bind_congr
        exact ih

namespace Response

/-! ## Reading what was opened -/

def Rows.ofBody : Json → Except Error Rows
  | .object fields => .ok (ofFields fields)
  | other => .error (.decode ("expected an object for query result, got " ++ other.text))

def summaryOfBody {α : Type} (what : String) (decoder : Json.Decoder α) (body : Json) :
    Except Error α :=
  match decoder body with
  | .ok read => .ok read
  | .error mismatch => .error (.decode (what ++ ": " ++ mismatch.message))

def InsertSummary.ofBody (body : Json) : Except Error InsertSummary :=
  summaryOfBody "insert result" decode body

def UpdateSummary.ofBody (body : Json) : Except Error UpdateSummary :=
  summaryOfBody "update result" decode body

def DeleteSummary.ofBody (body : Json) : Except Error DeleteSummary :=
  summaryOfBody "delete result" decode body

/-- How a reader goes on from an answer: it opens one envelope and reads what is left as `ofBody`
does, which neither asks for `data` nor raises a failure of the service. -/
structure OpensOne {α : Type} (read ofBody : Json → Except Error α) : Prop where
  opens : ∀ answer, read answer = (unwrap answer).bind ofBody
  ignores : ∀ body, ofBody (body.without "data") = ofBody body
  quiet : ∀ body reason, ofBody body ≠ .error (.query reason)

namespace OpensOne

variable {α : Type} {read ofBody : Json → Except Error α} {answer : Json}

/-- A wrapped object is read in place of the answer. -/
theorem of_wraps (hread : OpensOne read ofBody) {payload : Dictionary Json}
    (hwraps : Wraps answer payload) : read answer = ofBody (.object payload) := by
  rw [hread.opens, unwrap_of_wraps hwraps]
  rfl

/-- An answer that wraps nothing is read as it stands: losing its `data` does not matter. -/
theorem of_whole (hread : OpensOne read ofBody) (hwhole : Whole answer) :
    read answer = ofBody answer := by
  rw [hread.opens]
  rcases form answer with ⟨payload, hwraps⟩ | ⟨reason, hraises⟩ | hloses | hplain
  · exact absurd hwraps (hwhole.1 payload)
  · exact absurd hraises (hwhole.2 reason)
  · rw [unwrap_of_losesData hloses]
    exact hread.ignores answer
  · rw [unwrap_of_not_enveloped hplain]
    rfl

/-- A reader raises a failure of the service exactly where the envelope reports it, for the same
reason. -/
theorem raises_iff (hread : OpensOne read ofBody) {reason : String} :
    read answer = .error (.query reason) ↔ Raises answer reason := by
  rw [hread.opens]
  constructor
  case mp =>
    intro hfailed
    cases hopened : unwrap answer with
    | ok body =>
        rw [hopened] at hfailed
        exact absurd hfailed (hread.quiet body reason)
    | error error =>
        rw [hopened] at hfailed
        cases hfailed
        obtain ⟨raised, hraised, hsame⟩ := unwrap_eq_error_iff.1 hopened
        cases hsame
        exact hraised
  case mpr =>
    intro hraises
    rw [unwrap_of_raises hraises]
    rfl

end OpensOne

/-- The reader of rows does not look at `data`. -/
theorem Rows.ofFields_erase (fields : Dictionary Json) :
    ofFields (Dictionary.erase "data" fields) = ofFields fields := by
  have hfind : ∀ name, name ≠ "data" →
      Dictionary.find? name (Dictionary.erase "data" fields) = Dictionary.find? name fields :=
    fun name hne => Dictionary.find?_erase_of_ne hne fields
  simp (disch := decide) only [ofFields, reportedError?, hfind]

theorem Rows.opensOne : OpensOne ofJson ofBody where
  opens answer := by
    rw [ofJson]
    cases unwrap answer with
    | ok body => cases body <;> rfl
    | error error => rfl
  ignores body := by
    cases body with
    | object fields => exact congrArg Except.ok (ofFields_erase fields)
    | _ => rfl
  quiet body reason := by
    cases body <;> exact fun hfailed => by cases hfailed

/-- A summary that is read as a record with no field of the name `data`. -/
theorem OpensOne.of_record {α : Type} {what : String} (type : String) (start : α)
    (known : List (String × (α → Json → Except Json.Mismatch α)))
    (hunknown : "data" ∉ known.map Prod.fst) :
    OpensOne (summary what (Json.decodeRecord type start known))
      (summaryOfBody what (Json.decodeRecord type start known)) where
  opens answer := by
    rw [summary]
    cases unwrap answer with
    | ok body => rfl
    | error error => rfl
  ignores body := by
    cases body with
    | object fields =>
        rw [Json.without, summaryOfBody, Json.decodeRecord_erase type start hunknown]
        rfl
    | _ => rfl
  quiet body reason := by
    rw [summaryOfBody]
    split
    next => exact fun hfailed => by cases hfailed
    next => exact fun hfailed => by cases hfailed

theorem InsertSummary.opensOne : OpensOne ofJson ofBody :=
  .of_record _ _ _ (by decide)

theorem UpdateSummary.opensOne : OpensOne ofJson ofBody :=
  .of_record _ _ _ (by decide)

namespace DeleteSummary

variable {answer body : Json} {payload : Dictionary Json} {reason : String}

/-- The reader that goes on from an answer without a null. -/
theorem opensOne : OpensOne (summary "delete result" decode) ofBody :=
  .of_record _ _ _ (by decide)

theorem field?_withoutNull {name : String} (hne : name ≠ "cascaded_deletes") (body : Json) :
    (withoutNull body).field? name = body.field? name := by
  cases body with
  | object fields =>
      rw [withoutNull]
      split
      next => exact Dictionary.find?_erase_of_ne hne fields
      next => rfl
  | _ => rfl

theorem wraps_withoutNull_iff : Wraps (withoutNull body) payload ↔ Wraps body payload := by
  rw [Wraps, Wraps, field?_withoutNull (by decide), field?_withoutNull (by decide)]

/-- Leaving a null out of an answer neither hides nor makes a failure. -/
theorem raises_withoutNull_iff : Raises (withoutNull body) reason ↔ Raises body reason := by
  rw [Raises, Raises, HoldsOther, HoldsOther, field?_withoutNull (by decide),
    field?_withoutNull (by decide), field?_withoutNull (by decide)]

/-- Taking a null out makes no envelope. -/
theorem whole_withoutNull (hwhole : Whole body) : Whole (withoutNull body) :=
  ⟨fun payload hwraps => hwhole.1 payload (wraps_withoutNull_iff.1 hwraps),
    fun reason hraises => hwhole.2 reason (raises_withoutNull_iff.1 hraises)⟩

theorem withoutNull_without (body : Json) :
    withoutNull (body.without "data") = (withoutNull body).without "data" := by
  cases body with
  | object fields =>
      have hfind : Dictionary.find? "cascaded_deletes" (Dictionary.erase "data" fields) =
          Dictionary.find? "cascaded_deletes" fields :=
        Dictionary.find?_erase_of_ne (by decide) fields
      rw [Json.without, withoutNull, withoutNull, hfind]
      split
      next =>
        apply congrArg Json.object
        simp only [Dictionary.erase, List.filter_filter, Bool.and_comm]
      next => rfl
  | _ => rfl

/-- The reader of deletions opens one envelope, and the summary in it opens another. -/
theorem ofJson_eq (answer : Json) :
    ofJson answer =
      (unwrap answer).bind fun body => summary "delete result" decode (withoutNull body) := by
  rw [ofJson]
  cases unwrap answer with
  | ok body => rfl
  | error error => rfl

/-- What was in an envelope is taken for an answer once more. -/
theorem ofJson_of_wraps (hwraps : Wraps answer payload) :
    ofJson answer = summary "delete result" decode (withoutNull (.object payload)) := by
  rw [ofJson_eq, unwrap_of_wraps hwraps]
  rfl

/-- An object in two envelopes is read as it stands, a null in it included. -/
theorem ofJson_of_inner {inner : Dictionary Json} (hwraps : Wraps answer payload)
    (hinner : Wraps (.object payload) inner) : ofJson answer = ofBody (.object inner) := by
  rw [ofJson_of_wraps hwraps]
  exact opensOne.of_wraps (wraps_withoutNull_iff.2 hinner)

/-- A wrapped object that is whole is read as the summary. -/
theorem ofJson_of_payload (hwraps : Wraps answer payload) (hwhole : Whole (.object payload)) :
    ofJson answer = ofBody (withoutNull (.object payload)) := by
  rw [ofJson_of_wraps hwraps]
  exact opensOne.of_whole (whole_withoutNull hwhole)

theorem ofJson_of_whole (hwhole : Whole answer) :
    ofJson answer = ofBody (withoutNull answer) := by
  rw [ofJson_eq]
  rcases form answer with ⟨payload, hwraps⟩ | ⟨reason, hraises⟩ | hloses | hplain
  · exact absurd hwraps (hwhole.1 payload)
  · exact absurd hraises (hwhole.2 reason)
  · -- the field is gone when the second envelope is looked for, so there is none
    rw [unwrap_of_losesData hloses]
    have hgone : ¬Enveloped (answer.without "data") := by
      rintro ⟨hdata, _⟩
      exact hdata (Json.field?_without_self _ _)
    calc summary "delete result" decode (withoutNull (answer.without "data"))
        = ofBody (withoutNull (answer.without "data")) :=
          opensOne.of_whole (whole_withoutNull (whole_of_not_enveloped hgone))
      _ = ofBody ((withoutNull answer).without "data") := by rw [withoutNull_without]
      _ = ofBody (withoutNull answer) := opensOne.ignores _
  · rw [unwrap_of_not_enveloped hplain]
    exact opensOne.of_whole (whole_withoutNull hwhole)

/-- A failure is raised out of the envelope or out of an envelope in it. -/
theorem raises_iff :
    ofJson answer = .error (.query reason) ↔
      Raises answer reason ∨ ∃ payload, Wraps answer payload ∧ Raises (.object payload) reason := by
  constructor
  case mp =>
    intro hfailed
    rcases form answer with ⟨payload, hwraps⟩ | ⟨raised, hraises⟩ | hloses | hplain
    · rw [ofJson_of_wraps hwraps, opensOne.raises_iff, raises_withoutNull_iff] at hfailed
      exact Or.inr ⟨payload, hwraps, hfailed⟩
    · rw [ofJson_eq, unwrap_of_raises hraises] at hfailed
      cases hfailed
      exact Or.inl hraises
    · rw [ofJson_of_whole hloses.whole] at hfailed
      exact absurd hfailed (opensOne.quiet _ reason)
    · rw [ofJson_of_whole (whole_of_not_enveloped hplain)] at hfailed
      exact absurd hfailed (opensOne.quiet _ reason)
  case mpr =>
    rintro (hraises | ⟨payload, hwraps, hraises⟩)
    · rw [ofJson_eq, unwrap_of_raises hraises]
      rfl
    · rw [ofJson_of_wraps hwraps]
      exact opensOne.raises_iff.2 (raises_withoutNull_iff.2 hraises)

end DeleteSummary

/-! ## What the readers are given -/

/-- The readers of an answer read `body`. The reader of deletions takes it for an answer once more,
which makes no difference unless it is an object that came out of an envelope and is one itself. -/
structure ReadFrom (answer body : Json) : Prop where
  rows : Rows.ofJson answer = Rows.ofBody body
  insert : InsertSummary.ofJson answer = InsertSummary.ofBody body
  update : UpdateSummary.ofJson answer = UpdateSummary.ofBody body
  delete : DeleteSummary.ofJson answer =
    summary "delete result" DeleteSummary.decode (DeleteSummary.withoutNull body)
  delete_plain : (∀ payload, Wraps answer payload → ¬Enveloped (.object payload)) →
    DeleteSummary.ofJson answer = DeleteSummary.ofBody (DeleteSummary.withoutNull body)

section Given

variable {answer : Json}

/-- All readers read an object that an envelope wraps. -/
theorem readFrom_of_wraps {payload : Dictionary Json} (hwraps : Wraps answer payload) :
    ReadFrom answer (.object payload) where
  rows := Rows.opensOne.of_wraps hwraps
  insert := InsertSummary.opensOne.of_wraps hwraps
  update := UpdateSummary.opensOne.of_wraps hwraps
  delete := DeleteSummary.ofJson_of_wraps hwraps
  delete_plain hplain :=
    DeleteSummary.ofJson_of_payload hwraps (whole_of_not_enveloped (hplain payload hwraps))

/-- All readers read an answer that wraps nothing as it stands. -/
theorem readFrom_of_whole (hwhole : Whole answer) : ReadFrom answer answer where
  rows := Rows.opensOne.of_whole hwhole
  insert := InsertSummary.opensOne.of_whole hwhole
  update := UpdateSummary.opensOne.of_whole hwhole
  delete :=
    (DeleteSummary.ofJson_of_whole hwhole).trans
      (DeleteSummary.opensOne.of_whole (DeleteSummary.whole_withoutNull hwhole)).symm
  delete_plain _ := DeleteSummary.ofJson_of_whole hwhole

/-- What is left of an answer that was opened is the object in its envelope or the answer itself,
except that it is the answer without `data` where something else stands there and no failure is
reported. The readers are given the object or the whole answer all the same. -/
theorem opened_iff_not_losesData {opened : Json} (hopened : unwrap answer = .ok opened) :
    (((∃ payload, Wraps answer payload ∧ opened = .object payload) ∨ opened = answer) ↔
        ¬LosesData answer) ∧
      (LosesData answer → opened = answer.without "data") ∧
      (∀ payload, Wraps answer payload → ReadFrom answer (.object payload)) ∧
      ((∀ payload, ¬Wraps answer payload) → ReadFrom answer answer) := by
  have hlost : LosesData answer → opened = answer.without "data" := by
    intro hloses
    rw [unwrap_of_losesData hloses] at hopened
    cases hopened
    rfl
  have hquiet : ∀ reason, ¬Raises answer reason := by
    intro reason hraises
    rw [unwrap_of_raises hraises] at hopened
    cases hopened
  refine ⟨⟨?_, ?_⟩, hlost, fun payload hwraps => readFrom_of_wraps hwraps,
    fun hwraps => readFrom_of_whole ⟨hwraps, hquiet⟩⟩
  · rintro (⟨payload, hwraps, _⟩ | hsame) hloses
    · exact hloses.2.not_wraps hwraps
    · -- the field is there before and gone afterwards
      obtain ⟨data, hdata, _⟩ := hloses.2
      rw [← hsame, hlost hloses, Json.field?_without_self] at hdata
      cases hdata
  · intro hkept
    rcases form answer with ⟨payload, hwraps⟩ | ⟨reason, hraises⟩ | hloses | hplain
    · rw [unwrap_of_wraps hwraps] at hopened
      cases hopened
      exact Or.inl ⟨payload, hwraps, rfl⟩
    · exact absurd hraises (hquiet reason)
    · exact absurd hloses hkept
    · rw [unwrap_of_not_enveloped hplain] at hopened
      cases hopened
      exact Or.inr rfl

end Given

def listed : Json :=
  .object [("data", .array [.object [("id", .int 1)]]), ("success", .bool true)]

theorem losesData_listed : LosesData listed :=
  ⟨⟨.bool true, rfl, fun heq => by cases heq⟩, _, rfl, fun _ heq => by cases heq⟩

/-- The list is gone when the answer was opened. -/
theorem opened_iff_not_losesData_listed :
    unwrap listed = .ok (.object [("success", .bool true)]) ∧ LosesData listed ∧
      ReadFrom listed listed := by
  have hopened : unwrap listed = .ok (.object [("success", .bool true)]) := rfl
  have hnone : ∀ payload, ¬Wraps listed payload := fun _ => losesData_listed.2.not_wraps
  exact ⟨hopened, losesData_listed, (opened_iff_not_losesData hopened).2.2.2 hnone⟩

/-- What was opened is neither an object in the envelope nor the answer itself. -/
theorem opened_ne_listed :
    ∃ opened, unwrap listed = .ok opened ∧
      ¬((∃ payload, Wraps listed payload ∧ opened = .object payload) ∨ opened = listed) := by
  refine ⟨.object [("success", .bool true)], rfl, ?_⟩
  rintro (⟨payload, hwraps, _⟩ | hsame)
  · exact losesData_listed.2.not_wraps hwraps
  · exact Option.some_ne_none _ (congrArg (Json.field? "data") hsame).symm

/-- What the readers of writes make of an answer. A failure that its envelope reports is raised by
all of them, and one that is reported by an envelope in it by the reader of deletions only. An
object in one envelope is what they read; where it wraps another object, that one is what the reader
of deletions reads. Any other answer is read as a whole. -/
structure OpensEnvelopes (answer : Json) : Prop where
  insert_raises : ∀ reason,
    InsertSummary.ofJson answer = .error (.query reason) ↔ Raises answer reason
  update_raises : ∀ reason,
    UpdateSummary.ofJson answer = .error (.query reason) ↔ Raises answer reason
  delete_raises : ∀ reason,
    DeleteSummary.ofJson answer = .error (.query reason) ↔
      Raises answer reason ∨ ∃ payload, Wraps answer payload ∧ Raises (.object payload) reason
  insert_payload : ∀ payload, Wraps answer payload →
    InsertSummary.ofJson answer = InsertSummary.ofBody (.object payload)
  update_payload : ∀ payload, Wraps answer payload →
    UpdateSummary.ofJson answer = UpdateSummary.ofBody (.object payload)
  delete_payload : ∀ payload, Wraps answer payload → Whole (.object payload) →
    DeleteSummary.ofJson answer =
      DeleteSummary.ofBody (DeleteSummary.withoutNull (.object payload))
  delete_inner : ∀ payload inner, Wraps answer payload → Wraps (.object payload) inner →
    DeleteSummary.ofJson answer = DeleteSummary.ofBody (.object inner)
  whole : Whole answer → ReadFrom answer answer

/-- What the readers of writes raise and read is settled for every answer. Those of insertions and
updates open one envelope, and that of deletions opens another one inside it. -/
theorem opensEnvelopes (answer : Json) : OpensEnvelopes answer where
  insert_raises _ := InsertSummary.opensOne.raises_iff
  update_raises _ := UpdateSummary.opensOne.raises_iff
  delete_raises _ := DeleteSummary.raises_iff
  insert_payload _ := InsertSummary.opensOne.of_wraps
  update_payload _ := UpdateSummary.opensOne.of_wraps
  delete_payload _ := DeleteSummary.ofJson_of_payload
  delete_inner _ _ := DeleteSummary.ofJson_of_inner
  whole := readFrom_of_whole

/-- A failure that is reported inside an envelope of success is raised for a deletion, while an
insertion and an update are read as having done nothing. -/
theorem delete_raises_inner :
    let failure : Dictionary Json :=
      [("data", .null), ("error", .string "locked"), ("success", .bool false)]
    let answer : Json := .object [("data", .object failure), ("success", .bool true)]
    DeleteSummary.ofJson answer = .error (.query "locked") ∧
      UpdateSummary.ofJson answer = .ok {} ∧ InsertSummary.ofJson answer = .ok {} ∧
      DeleteSummary.ofBody (.object failure) = .ok {} :=
  ⟨rfl, rfl, rfl, rfl⟩

end Response

end TwinQuery
