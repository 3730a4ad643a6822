import Reconcile.Http.Exchange

namespace Reconcile.Http

variable {url : String} {r : Response} {result : Except Failure Json}

def Response.text (r : Response) : List Char := Text.Utf8.decodeLossy r.body

def Says (body : List Char) (message : String) : Prop :=
  ∃ tree error, Json.tree? body = some tree ∧ tree.value.get? "error" = some error ∧
    error.get? "message" = some (.str message)

theorem asStr?_eq_some_iff {j : Json} {s : String} : j.asStr? = some s ↔ j = .str s := by
  cases j <;> simp [Json.asStr?]

theorem reported?_eq_some_iff {body : List Char} {message : String} :
    reported? body = some message ↔ Says body message := by
  simp [reported?, Says, Option.bind_eq_some_iff, asStr?_eq_some_iff]

inductive Means (url : String) (r : Response) : Except Failure Json → Prop
  | cutOff : r.isWhole = false →
      Means url r (.error (.transport (some r.status) .unreadBody))
  | missing : r.isWhole = true → r.status = 404 →
      Means url r (.error (.notFound url))
  | explained {message : String} : r.isWhole = true → r.status ≠ 404 → ¬ isSuccess r.status →
      Says r.text message →
      Means url r (.error (.transport (some r.status) (.reported message)))
  | unexplained : r.isWhole = true → r.status ≠ 404 → ¬ isSuccess r.status →
      (∀ message, ¬ Says r.text message) →
      Means url r (.error (.transport (some r.status)
        (.reported ((reason? r.status).getD "unknown error"))))
  | empty : r.isWhole = true → isSuccess r.status → r.text = [] →
      Means url r (.ok .null)
  | value {tree : Json.Tree} : r.isWhole = true → isSuccess r.status → r.text ≠ [] →
      Json.tree? r.text = some tree →
      Means url r (.ok tree.value)
  | garbled : r.isWhole = true → isSuccess r.status → r.text ≠ [] → Json.tree? r.text = none →
      Means url r (.error (.transport (some r.status) .notJson))

theorem ne_missing_of_isSuccess {status : Nat} (h : isSuccess status) : status ≠ 404 := by
  rintro rfl
  exact absurd h (by decide)

theorem means_outcome (url : String) (r : Response) : Means url r (outcome url r) := by
  unfold outcome
  dsimp only
  split
  · next hcut => exact .cutOff (by simpa using hcut)
  next hwhole =>
  have hwhole : r.isWhole = true := by simpa using hwhole
  split
  · next hmissing => exact .missing hwhole hmissing
  next hother =>
  split
  · next hrefused =>
      have hrefused : ¬ isSuccess r.status := by simpa using hrefused
      unfold apiMessage
      cases hsaid : reported? (Text.Utf8.decodeLossy r.body) with
      | some message =>
          exact .explained hwhole hother hrefused (reported?_eq_some_iff.1 hsaid)
      | none =>
          refine .unexplained hwhole hother hrefused ?_
          intro message hsays
          rw [Response.text, ← reported?_eq_some_iff, hsaid] at hsays
          cases hsays
  next hsuccess =>
  have hsuccess : isSuccess r.status := by simpa using hsuccess
  split
  · next hempty => exact .empty hwhole hsuccess (List.isEmpty_iff.1 hempty)
  next hnonempty =>
  have hnonempty : r.text ≠ [] := fun h => hnonempty (List.isEmpty_iff.2 h)
  split
  · next tree htree => exact .value hwhole hsuccess hnonempty htree
  · next htree => exact .garbled hwhole hsuccess hnonempty htree

theorem outcome_of_means (h : Means url r result) : outcome url r = result := by
  cases h with
  | cutOff hcut => simp [outcome, hcut]
  | missing hwhole hmissing => simp [outcome, hwhole, hmissing]
  | explained hwhole hother hrefused hsays =>
      have hsaid := reported?_eq_some_iff.2 hsays
      rw [Response.text] at hsaid
      simp [outcome, hwhole, hother, hrefused, apiMessage, hsaid]
  | unexplained hwhole hother hrefused hsilent =>
      have hsaid : reported? r.text = none := by
        rw [Option.eq_none_iff_forall_ne_some]
        exact fun message h => hsilent message (reported?_eq_some_iff.1 h)
      rw [Response.text] at hsaid
      simp [outcome, hwhole, hother, hrefused, apiMessage, hsaid]
  | empty hwhole hsuccess hempty =>
      rw [Response.text] at hempty
      simp [outcome, hwhole, ne_missing_of_isSuccess hsuccess, hsuccess, hempty]
  | value hwhole hsuccess hnonempty htree =>
      rw [Response.text] at hnonempty htree
      simp [outcome, hwhole, ne_missing_of_isSuccess hsuccess, hsuccess, hnonempty, htree]
  | garbled hwhole hsuccess hnonempty htree =>
      rw [Response.text] at hnonempty htree
      simp [outcome, hwhole, ne_missing_of_isSuccess hsuccess, hsuccess, hnonempty, htree]

theorem outcome_eq_iff : outcome url r = result ↔ Means url r result :=
  ⟨fun h => h ▸ means_outcome url r, outcome_of_means⟩

example : apiMessage 503 "\x7b\"error\":\x7b\"code\":503,\"message\":\"busy\"\x7d\x7d".toList =
    "busy" := by
  decide +kernel

example : apiMessage 502 "<html>".toList = "Bad Gateway" := by
  decide +kernel

theorem outcome_eq_notFound_iff :
    outcome url r = .error (.notFound url) ↔ r.isWhole = true ∧ r.status = 404 := by
  rw [outcome_eq_iff]
  constructor
  · intro h
    cases h with
    | missing hwhole hmissing => exact ⟨hwhole, hmissing⟩
  · rintro ⟨hwhole, hmissing⟩
    exact .missing hwhole hmissing

theorem exchange_of_response {link : Link} {token : String} {request : Request}
    (hsent : refusal? token request.url = none) (hreply : link request = some r) :
    (exchange link token request).1 = outcome request.url r := by
  simp only [exchange, hsent, hreply]

/-- A request that is answered has the outcome that its response means. The object is reported as
missing exactly for the status 404, if and only if a 404 comes with its whole body. -/
theorem response_classified_iff (link : Link) (token : String) (request : Request)
    (response : Response) (hsent : refusal? token request.url = none)
    (hreply : link request = some response) :
    (∀ result, (exchange link token request).1 = result ↔ Means request.url response result) ∧
    (((exchange link token request).1 = .error (.notFound request.url) ↔ response.status = 404) ↔
      (response.status = 404 → response.isWhole = true)) := by
  rw [exchange_of_response hsent hreply]
  refine ⟨fun result => outcome_eq_iff, ?_⟩
  rw [outcome_eq_notFound_iff, and_iff_right_iff_imp]

namespace Gone

def request : Request :=
  ⟨.get, "https://compute.googleapis.com/compute/v1/projects/p1/global/routes/gone", none⟩

def page (isWhole : Bool) : Response := ⟨404, Text.Utf8.encode "<html>".toList, isWhole⟩

theorem sendable : refusal? "t0k" request.url = none := by
  decide +kernel

theorem page_reported_missing :
    refusal? "t0k" request.url = none ∧
    (exchange (fun _ => some (page true)) "t0k" request).1 = .error (.notFound request.url) :=
  ⟨sendable, ((response_classified_iff _ "t0k" request (page true) sendable rfl).1 _).2
    (.missing rfl rfl)⟩

/-- The same page, cut off, is a failure to read and no word that the object is missing. -/
theorem cut_off_page_not_missing :
    refusal? "t0k" request.url = none ∧ (page false).status = 404 ∧
    (exchange (fun _ => some (page false)) "t0k" request).1 =
      .error (.transport (some 404) .unreadBody) ∧
    (exchange (fun _ => some (page false)) "t0k" request).1 ≠ .error (.notFound request.url) := by
  have hresult : (exchange (fun _ => some (page false)) "t0k" request).1 =
      .error (.transport (some 404) .unreadBody) := by
    have hreply : (fun _ => some (page false) : Link) request = some (page false) := rfl
    rw [exchange_of_response sendable hreply]
    rfl
  refine ⟨sendable, rfl, hresult, ?_⟩
  rw [hresult]
  exact nofun

end Gone

end Reconcile.Http
