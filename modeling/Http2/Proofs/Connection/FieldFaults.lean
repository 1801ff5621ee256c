import Http2.Proofs.Connection.LifeCycle

/-!
Failures for the fields of a request. A request fails so exactly if the check of its fields refuses
them, and no frame of the peer makes the wait for the response fail so.
-/

namespace Http2

/-- A failure that lies in the fields of a request. -/
def Error.IsField : Error → Prop
  | .field _ => True
  | _ => False

theorem Error.IsBreach.not_isField {e : Error} (h : e.IsBreach) : ¬ e.IsField := by
  cases e with
  | field _ => exact h.elim
  | _ => exact id

namespace Endpoint

variable {e : Endpoint} {target : Nat} {err : Error}

theorem Effect.not_isField {f : Frame} {r : Reaction} (h : Effect e target f r)
    (hr : r.outcome = .error err) : ¬ err.IsField := by
  cases h with
  | breach _ _ hb =>
    cases hr
    exact hb.not_isField
  | reset | refuse =>
    cases hr
    exact id
  | skip | absorb | acked | settings | ping | drain => cases hr

theorem not_isField_of_awaitFault? (h : e.awaitFault? target = some err) : ¬ err.IsField := by
  have hstream (h : e.streamFault? target = some err) : ¬ err.IsField := by
    unfold streamFault? at h
    simp only at h
    split at h
    · cases h
    · cases h
      exact id
  unfold awaitFault? at h
  split at h
  · cases h
    exact id
  · cases h
    exact id
  · split at h
    · cases h
      exact id
    · exact hstream h
  · exact hstream h

/-- A request is turned down for its fields by the check of its fields, and by nothing else. -/
theorem prepare_eq_field_iff (e : Endpoint) (fs : List Field) (fault : Field.Fault) :
    (e.prepare fs).1 = .error (.field fault) ↔
      e.phase = .ready ∧ Field.validateRequest fs = .error (.field fault) := by
  unfold prepare
  split
  · next hp =>
    simp only [hp, true_and, Field.compress]
    cases hv : Field.validateRequest fs with
    | error err => simp
    | ok u =>
      simp only [Stream.Registry.create, Frame.make]
      -- every other failure to prepare a request is of another kind
      split
      · simp
      · split
        · next h =>
          split at h
          · cases h
          · cases h
            simp
        · split
          · split <;> simp
          · simp
  · next hp => simp [hp]

end Endpoint

namespace Connection

variable {c c' : Connection} {target : Nat}

/-! ### Responses -/

theorem not_isField_readFailure (e : Error) : ¬ (readFailure e).IsField := by
  unfold readFailure
  split
  · split <;> exact id
  · exact id
  · exact id

theorem not_isField_of_readFrame {e : Error} (h : c.readFrame = (.error e, c')) : ¬ e.IsField := by
  unfold readFrame at h
  split at h
  · cases h
    exact not_isField_readFailure _
  · cases h

theorem not_isField_of_handle {f : Frame} {e : Error} (h : c.handle target f = (.error e, c')) :
    ¬ e.IsField := by
  obtain ⟨r, heff, ⟨-, hr⟩ | ⟨g, session, -, -, ⟨-, hr⟩ | ⟨cause, sent, -, hr⟩⟩⟩ :=
    handle_cases c target f
  · rw [h] at hr
    exact heff.not_isField (congrArg Prod.fst hr).symm
  · rw [h] at hr
    cases hr
  · rw [h] at hr
    cases hr
    exact id

theorem LastRound.not_isField {e : Error} (h : LastRound target c (.error e) c') : ¬ e.IsField := by
  cases h with
  | unread hread => exact not_isField_of_readFrame hread
  | failed _ hhandle => exact not_isField_of_handle hhandle

theorem not_isField_of_recvResponse {e : Error} (h : (c.recvResponse target).1 = .error e) :
    ¬ e.IsField := by
  cases hf : c.awaitFault? target with
  | some err =>
    simp only [recvResponse, hf] at h
    cases h
    exact Endpoint.not_isField_of_awaitFault? hf
  | none =>
    obtain ⟨mid, outcome, d, -, hl, ⟨e', rfl, heq⟩ | ⟨-, heq⟩⟩ := recvResponse_rounds hf
    · rw [heq] at h
      cases h
      exact hl.not_isField
    · rw [heq] at h
      cases h

/-! ### Requests -/

variable (c) (method authority path : String) (extra : List Field) (fault : Field.Fault)

theorem sendRequest_eq_field_iff :
    (c.sendRequest method authority path extra).1 = .error (.field fault) ↔
      c.phase = .ready ∧
        Field.validateRequest (Endpoint.requestFields method authority path extra) =
          .error (.field fault) := by
  rw [← Endpoint.prepare_eq_field_iff]
  obtain ⟨ep, -, ⟨e, hp, hs⟩ | ⟨f, session, hp, ⟨cause, sent, -, hs⟩ | ⟨-, hs⟩⟩⟩ :=
    sendRequest_cases c method authority path extra
  · simp [hp, hs]
  · simp [hp, hs]
  · simp [hp, hs]

/-- **A request fails for its fields exactly if their check refuses them**, whatever the peer
sends. -/
theorem request_eq_field_iff :
    (c.request method authority path extra).1 = .error (.field fault) ↔
      c.phase = .ready ∧
        Field.validateRequest (Endpoint.requestFields method authority path extra) =
          .error (.field fault) := by
  rw [← sendRequest_eq_field_iff]
  unfold request
  split
  · next h => simp [h]
  · next id c' h =>
    rw [h]
    refine iff_of_false (fun hr => ?_) (by simp)
    exact not_isField_of_recvResponse hr trivial

end Connection

end Http2
