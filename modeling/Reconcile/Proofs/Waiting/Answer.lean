import Mathlib.Data.List.Forall2
import Reconcile.Operation
import Reconcile.Proofs.Json.Record

namespace Reconcile

inductive Json.IsDone : Json → Prop
  | text : IsDone (.str "DONE")
  | key : IsDone (.obj [("DONE", .null)])

structure Json.ReportsDone (body : Json) : Prop where
  done : ∃ status, body.part? "status" 1 = some status ∧ status.IsDone
  clean : ∀ error, body.part? "error" 7 = some error → error = .null

structure Json.IsFault (entry : Json) (f : Fault) : Prop where
  code : (entry.part? "code" 0).getD (.str "") = .str f.code
  message : (entry.part? "message" 1).getD (.str "") = .str f.message
  location : (entry.part? "location" 2).getD .null = f.location.elim .null .str

def Json.Lists (error : Json) (faults : List Fault) : Prop :=
  ∃ entries, (error.part? "errors" 0).getD (.arr []) = .arr entries ∧
    List.Forall₂ Json.IsFault entries faults

structure Json.ReportsFaults (body : Json) (faults : List Fault) : Prop where
  done : ∃ status, body.part? "status" 1 = some status ∧ status.IsDone
  listed : ∃ error, body.part? "error" 7 = some error ∧ error ≠ .null ∧ error.Lists faults

theorem Json.not_reportsDone_null : ¬ Json.null.ReportsDone := by
  rintro ⟨⟨_, hpart, _⟩, _⟩
  cases hpart

theorem Status.ofText_eq_done_iff {text : String} : ofText text = .done ↔ text = "DONE" := by
  unfold ofText
  split <;> simp_all

theorem Status.decode_eq_done_iff {j : Json} : decode j = .ok .done ↔ j.IsDone := by
  constructor
  · intro h
    unfold decode at h
    split at h
    · rw [Except.ok.injEq, ofText_eq_done_iff] at h
      subst h
      exact .text
    · split at h
      · rw [Except.ok.injEq, ofText_eq_done_iff] at h
        subst h
        exact .key
      · cases h
    · cases h
    · cases h
  · rintro (_ | _) <;> rfl

theorem Decode.optional_eq_none_iff {α : Type} {read : Json → Except Error α} {j : Json} :
    optional read j = .ok none ↔ j = .null := by
  constructor
  · intro h
    unfold optional at h
    split at h
    · rfl
    · obtain ⟨_, _, hsome⟩ := map_eq_ok_iff.1 h
      cases hsome
  · rintro rfl
    rfl

theorem Decode.eq_str_of_string {j : Json} {text : String} (h : string j = .ok text) :
    j = .str text := by
  cases j with
  | str t => exact congrArg Json.str (Except.ok.inj h)
  | _ => cases h

theorem Decode.eq_elim_of_optional_string {j : Json} {text : Option String}
    (h : optional string j = .ok text) : j = text.elim .null .str := by
  cases j with
  | null =>
      cases h
      rfl
  | str t =>
      cases h
      rfl
  | _ => cases h

theorem Decode.forall₂_of_list {α : Type} {read : Json → Except Error α} {j : Json}
    {values : List α} (h : list read j = .ok values) :
    ∃ entries, j = .arr entries ∧ List.Forall₂ (fun entry value => read entry = .ok value) entries
      values := by
  cases j with
  | arr entries =>
      refine ⟨entries, rfl, ?_⟩
      have hread : entries.mapM read = .ok values := h
      clear h
      induction entries generalizing values with
      | nil =>
          cases hread
          exact .nil
      | cons entry rest ih =>
          rw [List.mapM_cons, bind_eq_ok_iff] at hread
          obtain ⟨value, hvalue, hread⟩ := hread
          obtain ⟨more, hmore, hread⟩ := bind_eq_ok_iff.1 hread
          cases hread
          exact .cons hvalue (ih hmore)
  | _ => cases h

theorem Json.getD_part_of_read {τ : Type} {read : Json → Except Decode.Error τ} {write : τ → Json}
    (hwrite : ∀ {j v}, read j = .ok v → j = write v) {part : Option Json} {start v : τ}
    (h : (part.map read).getD (.ok start) = .ok v) : part.getD (write start) = write v := by
  cases part with
  | none => exact congrArg write (Except.ok.inj h)
  | some j => exact hwrite h

namespace Fault

theorem owns_code : Decode.Owns fields "code" 0 (·.code) Decode.string where
  owner := ⟨fields[0], rfl, rfl, .of_map (fun _ _ => rfl) fun _ _ => rfl⟩
  others := by
    simp only [fields, List.eraseIdx_cons_zero, List.forall_mem_cons]
    refine ⟨?_, ?_, nofun⟩ <;> exact ⟨by decide, .of_map (fun _ _ => rfl) fun _ _ => rfl⟩

theorem owns_message : Decode.Owns fields "message" 1 (·.message) Decode.string where
  owner := ⟨fields[1], rfl, rfl, .of_map (fun _ _ => rfl) fun _ _ => rfl⟩
  others := by
    simp only [fields, List.eraseIdx_cons_succ, List.eraseIdx_cons_zero, List.forall_mem_cons]
    refine ⟨?_, ?_, nofun⟩ <;> exact ⟨by decide, .of_map (fun _ _ => rfl) fun _ _ => rfl⟩

theorem owns_location :
    Decode.Owns fields "location" 2 (·.location) (Decode.optional Decode.string) where
  owner := ⟨fields[2], rfl, rfl, .of_map (fun _ _ => rfl) fun _ _ => rfl⟩
  others := by
    simp only [fields, List.eraseIdx_cons_succ, List.eraseIdx_cons_zero, List.forall_mem_cons]
    refine ⟨?_, ?_, nofun⟩ <;> exact ⟨by decide, .of_map (fun _ _ => rfl) fun _ _ => rfl⟩

theorem owns_listField : Decode.Owns [listField] "errors" 0 id (Decode.list decode) where
  owner := ⟨listField, rfl, rfl, fun _ _ _ h => h⟩
  others := nofun

theorem isFault_of_decode {entry : Json} {f : Fault} (h : decode entry = .ok f) :
    entry.IsFault f where
  code := Json.getD_part_of_read Decode.eq_str_of_string (owns_code.record h)
  message := Json.getD_part_of_read Decode.eq_str_of_string (owns_message.record h)
  location := Json.getD_part_of_read Decode.eq_elim_of_optional_string (owns_location.record h)

theorem lists_of_decodeList {error : Json} {faults : List Fault}
    (h : decodeList error = .ok faults) : error.Lists faults := by
  have hlist := owns_listField.record h
  cases hpart : error.part? "errors" 0 with
  | none =>
      rw [hpart] at hlist
      obtain rfl := Except.ok.inj hlist
      exact ⟨[], by rw [hpart]; rfl, .nil⟩
  | some list =>
      rw [hpart] at hlist
      obtain ⟨entries, rfl, hentries⟩ := Decode.forall₂_of_list hlist
      exact ⟨entries, by rw [hpart]; rfl, hentries.imp fun _ _ => isFault_of_decode⟩

end Fault

theorem Decode.of_optional {α : Type} {read : Json → Except Error α} {j : Json} {v : α}
    (hj : j ≠ .null) (h : optional read j = .ok (some v)) : read j = .ok v := by
  unfold optional at h
  split at h
  · exact absurd rfl hj
  · obtain ⟨_, hread, hsome⟩ := map_eq_ok_iff.1 h
    cases hsome
    exact hread

namespace Operation

variable {op : Operation} {body : Json}

theorem phase_eq_polling_iff : op.phase = .polling ↔ op.status ≠ .done := by
  obtain ⟨_, status, _, _, _, _, _, error⟩ := op
  cases status <;> cases error <;> simp [phase]

theorem owns_status : Decode.Owns fields "status" 1 (·.status) Status.decode where
  owner := ⟨statusField, rfl, rfl, .of_map (fun _ _ => rfl) fun _ _ => rfl⟩
  others := by
    simp only [fields, List.eraseIdx_cons_succ, List.eraseIdx_cons_zero, List.forall_mem_cons]
    refine ⟨?_, ?_, ?_, ?_, ?_, ?_, ?_, nofun⟩ <;>
      exact ⟨by decide, .of_map (fun _ _ => rfl) fun _ _ => rfl⟩

theorem owns_error :
    Decode.Owns fields "error" 7 (·.error) (Decode.optional Fault.decodeList) where
  owner := ⟨errorField, rfl, rfl, .of_map (fun _ _ => rfl) fun _ _ => rfl⟩
  others := by
    simp only [fields, List.eraseIdx_cons_succ, List.eraseIdx_cons_zero, List.forall_mem_cons]
    refine ⟨?_, ?_, ?_, ?_, ?_, ?_, ?_, nofun⟩ <;>
      exact ⟨by decide, .of_map (fun _ _ => rfl) fun _ _ => rfl⟩

theorem record_of_ofAnswer (hbody : body ≠ .null) (h : ofAnswer body = .ok op) :
    Decode.record "Operation" fields blank body = .ok op := by
  unfold ofAnswer at h
  split at h
  · exact absurd rfl hbody
  · split at h
    · next hrecord => rwa [← Except.ok.inj h]
    · cases h

theorem isDone_of_status {status : Option Json}
    (h : (status.map Status.decode).getD (.ok blank.status) = .ok .done) :
    ∃ j, status = some j ∧ j.IsDone := by
  cases status with
  | none => cases h
  | some j => exact ⟨j, rfl, Status.decode_eq_done_iff.1 h⟩

theorem phase_of_ofAnswer (h : ofAnswer body = .ok op) :
    op.phase = .succeeded ↔ body = .null ∨ body.ReportsDone := by
  by_cases hbody : body = .null
  · subst hbody
    cases h
    exact iff_of_true rfl (.inl rfl)
  have hrecord := record_of_ofAnswer hbody h
  have hstatus := owns_status.record hrecord
  have herror := owns_error.record hrecord
  rw [phase_eq_succeeded_iff, or_iff_right hbody]
  constructor
  · rintro ⟨hdone, hclean⟩
    rw [hdone] at hstatus
    refine ⟨isDone_of_status hstatus, ?_⟩
    intro error hpart
    rw [hpart, hclean] at herror
    exact Decode.optional_eq_none_iff.1 herror
  · rintro ⟨⟨status, hpart, hdone⟩, hclean⟩
    constructor
    · rw [hpart, Option.map_some, Option.getD_some, Status.decode_eq_done_iff.2 hdone] at hstatus
      exact (Except.ok.inj hstatus).symm
    · cases hpart : body.part? "error" 7 with
      | none =>
          rw [hpart] at herror
          exact (Except.ok.inj herror).symm
      | some error =>
          rw [hpart, hclean error hpart] at herror
          exact (Except.ok.inj herror).symm

theorem reportsFaults_of_ofAnswer {faults : List Fault} (h : ofAnswer body = .ok op)
    (hdone : op.status = .done) (hfaults : op.error = some faults) : body.ReportsFaults faults := by
  have hbody : body ≠ .null := by
    rintro rfl
    cases h
    cases hfaults
  have hrecord := record_of_ofAnswer hbody h
  have hstatus := owns_status.record hrecord
  have herror := owns_error.record hrecord
  rw [hdone] at hstatus
  rw [hfaults] at herror
  refine ⟨isDone_of_status hstatus, ?_⟩
  cases hpart : body.part? "error" 7 with
  | none =>
      rw [hpart] at herror
      cases herror
  | some error =>
      rw [hpart, Option.map_some, Option.getD_some] at herror
      have hnull : error ≠ .null := by
        rintro rfl
        cases herror
      exact ⟨error, rfl, hnull, Fault.lists_of_decodeList (Decode.of_optional hnull herror)⟩

end Operation

end Reconcile
