import Http2.Proofs.Connection.Run

/-!
Runs that can be evaluated. A wait recurses on what is left of the input; with a bound on its
frames it recurses on the bound, and where that suffices both give the same.
-/

namespace Http2.Connection

variable {c : Connection} {target fuel : Nat}

/-- Waits for the end of a stream over `fuel` frames at most. -/
def awaitWithin (c : Connection) (target : Nat) : Nat → Option (Except Error Unit × Connection)
  | 0 => none
  | fuel + 1 =>
    match c.readFrame with
    | (.error e, c') => some (.error e, c')
    | (.ok f, read) =>
      match (read.noted target).handle target f with
      | (.error e, c') => some (.error e, c'.afterFailure e)
      | (.ok true, c') => some (.ok (), c')
      | (.ok false, c') => c'.awaitWithin target fuel

def recvWithin (c : Connection) (target fuel : Nat) :
    Option (Except Error Response × Connection) :=
  match c.awaitFault? target with
  | some e => some (.error e, c)
  | none =>
    match c.awaitWithin target fuel with
    | none => none
    | some (.error e, c) => some (.error e, c)
    | some (.ok (), c) => some (.ok (c.responseOn target), { c with toEndpoint := c.taken target })

def requestWithin (c : Connection) (method authority path : String) (extra : List Field)
    (fuel : Nat) : Option (Except Error Response × Connection) :=
  match c.sendRequest method authority path extra with
  | (.error e, c) => some (.error e, c)
  | (.ok id, c) => c.recvWithin id fuel

/-- What a call answers, and the connection after it. -/
def performWithin (c : Connection) (fuel : Nat) : Call → Option (Answer × Connection)
  | .sendRequest method authority path extra =>
    some (.sent (c.sendRequest method authority path extra).1,
      (c.sendRequest method authority path extra).2)
  | .recvResponse target => (c.recvWithin target fuel).map fun x => (.response x.1, x.2)
  | .request method authority path extra =>
    (c.requestWithin method authority path extra fuel).map fun x => (.response x.1, x.2)
  | .get authority path =>
    (c.requestWithin "GET" authority path [] fuel).map fun x => (.response x.1, x.2)
  | .close => some (.closed c.close.1, c.close.2)

def runWithin (c : Connection) (fuel : Nat) : List Call → Option (List Answer × Connection)
  | [] => some ([], c)
  | call :: calls =>
    match c.performWithin fuel call with
    | none => none
    | some (answer, c') =>
      match c'.runWithin fuel calls with
      | none => none
      | some (answers, c'') => some (answer :: answers, c'')

/-! ### The bound does not matter -/

theorem awaitEnd_of_awaitWithin {x : Except Error Unit × Connection}
    (h : c.awaitWithin target fuel = some x) : c.awaitEnd target = x := by
  induction fuel generalizing c with
  | zero => cases h
  | succ fuel ih =>
    unfold awaitWithin at h
    split at h
    · next hread =>
      cases h
      exact awaitEnd_of_readFrame_error hread
    · next hread =>
      split at h
      · next hh =>
        cases h
        exact awaitEnd_of_handle_error hread hh
      · next hh =>
        cases h
        exact awaitEnd_of_handle_ok hread hh
      · next hh => exact (awaitEnd_of_handle_ok hread hh).trans (ih h)

theorem recvResponse_of_recvWithin {x : Except Error Response × Connection}
    (h : c.recvWithin target fuel = some x) : c.recvResponse target = x := by
  unfold recvWithin at h
  unfold recvResponse
  cases hf : c.awaitFault? target with
  | some e =>
    simp only [hf] at h ⊢
    exact Option.some.inj h
  | none =>
    simp only [hf] at h ⊢
    cases hw : c.awaitWithin target fuel with
    | none =>
      rw [hw] at h
      cases h
    | some ended =>
      rw [hw] at h
      rw [awaitEnd_of_awaitWithin hw]
      rcases ended with ⟨e | u, d⟩
      · exact Option.some.inj h
      · exact Option.some.inj h

theorem request_of_requestWithin {method authority path : String} {extra : List Field}
    {x : Except Error Response × Connection}
    (h : c.requestWithin method authority path extra fuel = some x) :
    c.request method authority path extra = x := by
  unfold requestWithin at h
  unfold request
  generalize c.sendRequest method authority path extra = sent at h ⊢
  rcases sent with ⟨e | id, d⟩
  · exact Option.some.inj h
  · exact recvResponse_of_recvWithin h

theorem answer_of_performWithin {call : Call} {answer : Answer} {c' : Connection}
    (h : c.performWithin fuel call = some (answer, c')) :
    c.answer call = answer ∧ c.perform call = c' := by
  cases call with
  | sendRequest | close =>
    cases h
    exact ⟨rfl, rfl⟩
  | recvResponse target =>
    obtain ⟨x, hx, heq⟩ := Option.map_eq_some_iff.1 h
    cases heq
    rw [Connection.answer, perform, recvResponse_of_recvWithin hx]
    exact ⟨rfl, rfl⟩
  | request method authority path extra =>
    obtain ⟨x, hx, heq⟩ := Option.map_eq_some_iff.1 h
    cases heq
    rw [Connection.answer, perform, request_of_requestWithin hx]
    exact ⟨rfl, rfl⟩
  | get authority path =>
    obtain ⟨x, hx, heq⟩ := Option.map_eq_some_iff.1 h
    cases heq
    rw [Connection.answer, perform, get, request_of_requestWithin hx]
    exact ⟨rfl, rfl⟩

theorem run_of_runWithin {calls : List Call} {x : List Answer × Connection}
    (h : c.runWithin fuel calls = some x) : (c.answers calls, c.run calls) = x := by
  induction calls generalizing c x with
  | nil => exact Option.some.inj h
  | cons call calls ih =>
    unfold runWithin at h
    split at h
    · cases h
    · next hc =>
      split at h
      · cases h
      · next hr =>
        cases h
        obtain ⟨hanswer, hperform⟩ := answer_of_performWithin hc
        obtain ⟨hanswers, hrun⟩ := Prod.mk.inj (ih hr)
        rw [answers, hanswer, hperform, hanswers]
        exact Prod.ext rfl (by rw [← hrun, ← hperform]; rfl)

/-- **What a bounded run shows of a run** holds of it. -/
theorem of_runWithin {α : Type} {calls : List Call} {view : List Answer × Connection → α} {a : α}
    (h : (c.runWithin fuel calls).map view = some a) : view (c.answers calls, c.run calls) = a := by
  obtain ⟨x, hx, rfl⟩ := Option.map_eq_some_iff.1 h
  rw [run_of_runWithin hx]

end Http2.Connection
