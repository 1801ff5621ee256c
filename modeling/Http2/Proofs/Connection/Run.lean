import Mathlib.Logic.Relation
import Http2.Proofs.Connection.Reaction
import Http2.Proofs.Frame.Transfer

/-!
Runs of a connection: the calls that a program makes one after another and, inside the wait for a
response, its rounds of one frame each. What every call keeps a run keeps, and a wait is any
number of rounds that go on and a last one that ends it.
-/

namespace Http2

inductive Call where
  | sendRequest (method authority path : String) (extra : List Field)
  | recvResponse (target : Nat)
  | request (method authority path : String) (extra : List Field)
  | get (authority path : String)
  | close
  deriving DecidableEq, Repr

/-- The fields of the request that a call makes, if it makes one. -/
def Call.fields : Call → List (List Field)
  | .sendRequest method authority path extra | .request method authority path extra =>
    [Endpoint.requestFields method authority path extra]
  | .get authority path => [Endpoint.requestFields "GET" authority path []]
  | .recvResponse _ | .close => []

/-- What a call answers. -/
inductive Answer where
  | sent (outcome : Except Error Nat)
  | response (outcome : Except Error Response)
  | closed (outcome : Except Error Unit)

def Answer.isOk : Answer → Bool
  | .sent outcome => outcome.isOk
  | .response outcome => outcome.isOk
  | .closed outcome => outcome.isOk

/-- The connection is still in use: it is open, or drains. -/
def Phase.IsUsable : Phase → Prop
  | .ready | .draining _ => True
  | .failed | .closed => False

theorem Phase.not_isUsable_iff {p : Phase} : ¬ p.IsUsable ↔ p = .failed ∨ p = .closed := by
  cases p <;> simp [IsUsable]

namespace Connection

/-! ### Calls -/

/-- The connection after a call. -/
def perform (c : Connection) : Call → Connection
  | .sendRequest method authority path extra => (c.sendRequest method authority path extra).2
  | .recvResponse target => (c.recvResponse target).2
  | .request method authority path extra => (c.request method authority path extra).2
  | .get authority path => (c.get authority path).2
  | .close => c.close.2

/-- The connection after calls one after another. -/
def run (c : Connection) (calls : List Call) : Connection :=
  calls.foldl perform c

def answer (c : Connection) : Call → Answer
  | .sendRequest method authority path extra =>
    .sent (c.sendRequest method authority path extra).1
  | .recvResponse target => .response (c.recvResponse target).1
  | .request method authority path extra => .response (c.request method authority path extra).1
  | .get authority path => .response (c.get authority path).1
  | .close => .closed c.close.1

/-- What calls one after another answer. -/
def answers (c : Connection) : List Call → List Answer
  | [] => []
  | call :: calls => c.answer call :: answers (c.perform call) calls

/-- A request with its response is a request and then, if it went out, a wait. -/
theorem request_cases {P : Connection → Prop} {c : Connection} {method authority path : String}
    {extra : List Field} (send : P (c.sendRequest method authority path extra).2)
    (recv : ∀ d target, P d → P (d.recvResponse target).2) :
    P (c.request method authority path extra).2 := by
  unfold request
  split
  · next h =>
    rw [h] at send
    exact send
  · next id c' h =>
    rw [h] at send
    exact recv c' id send

section Induction

variable {P : Connection → Prop}
  (send : ∀ c method authority path extra, P c → P (c.sendRequest method authority path extra).2)
  (recv : ∀ c target, P c → P (c.recvResponse target).2) (close : ∀ c, P c → P c.close.2)
include send recv close

theorem perform_induction (call : Call) {c : Connection} (h : P c) : P (c.perform call) := by
  cases call with
  | sendRequest method authority path extra => exact send c method authority path extra h
  | recvResponse target => exact recv c target h
  | request method authority path extra =>
    exact request_cases (send c method authority path extra h) recv
  | get authority path => exact request_cases (send c "GET" authority path [] h) recv
  | close => exact close c h

/-- **What requests, waits and closing keep, every run keeps.** -/
theorem run_induction (calls : List Call) {c : Connection} (h : P c) : P (c.run calls) := by
  induction calls generalizing c with
  | nil => exact h
  | cons call calls ih => exact ih (perform_induction send recv close call h)

end Induction

/-- A connection that was just opened, on a transport without events. -/
def fresh : Connection := (openOn { protocol := some protocolName } none).2

theorem openOn_fresh : openOn { protocol := some protocolName } none = (.ok (), fresh) :=
  Prod.ext (by cbv) rfl

theorem nextId_fresh : fresh.streams.nextId = 1 := by cbv

/-! ### Frames -/

/-- Nothing but the session and, after a failure, the phase changes when a frame is read. -/
theorem readFrame_ok {c c' : Connection} {f : Frame} (h : c.readFrame = (.ok f, c')) :
    c'.toEndpoint = c.toEndpoint ∧
      ∃ raw, c.session.Pulled c'.session raw ∧ Frame.decode? raw = some (f, []) := by
  unfold readFrame at h
  split at h
  · cases h
  · next hr =>
    cases h
    exact ⟨rfl, Session.pulled_readFrameUpTo hr⟩

theorem not_endsStream_readFailure (e : Error) : ¬ (readFailure e).EndsStream := by
  unfold readFailure
  split
  · split <;> exact id
  · exact id
  · exact id

theorem readFrame_error {c c' : Connection} {e : Error} (h : c.readFrame = (.error e, c')) :
    c'.toEndpoint = { c.toEndpoint with phase := .failed } ∧ ¬ e.EndsStream ∧
      ∃ raw, c.session.Pulled c'.session raw := by
  unfold readFrame at h
  split at h
  · next hr =>
    cases h
    exact ⟨rfl, not_endsStream_readFailure _, Session.pulled_readFrameUpTo_of_error hr⟩
  · cases h

theorem handle_of_reply_none {c : Connection} {target : Nat} {f : Frame}
    (h : (c.toEndpoint.receive target f).reply = none) :
    c.handle target f = ((c.toEndpoint.receive target f).outcome,
      ⟨(c.toEndpoint.receive target f).endpoint, c.session⟩) := by
  simp only [handle, h, sendReply]

theorem handle_of_reply_some {c : Connection} {target : Nat} {f g : Frame}
    (h : (c.toEndpoint.receive target f).reply = some g) :
    c.handle target f =
      match c.session.writeFrame g with
      | (.error e, session) => (.error e, ⟨(c.toEndpoint.receive target f).endpoint, session⟩)
      | (.ok (), session) => ((c.toEndpoint.receive target f).outcome,
          ⟨(c.toEndpoint.receive target f).endpoint, session⟩) := by
  rcases hw : c.session.writeFrame g with ⟨_ | _, session⟩ <;>
    simp only [handle, h, sendReply, hw]

/-- What handling a frame comes to: an effect without an answer, or one whose answer was written,
or one whose answer could not be written. -/
theorem handle_cases (c : Connection) (target : Nat) (f : Frame) :
    ∃ r, c.toEndpoint.Effect target f r ∧
      ((r.reply = none ∧ c.handle target f = (r.outcome, ⟨r.endpoint, c.session⟩)) ∨
        ∃ g session, r.reply = some g ∧ r.outcome = .ok false ∧
          ((c.session.Pushed session g.encode ∧
              c.handle target f = (.ok false, ⟨r.endpoint, session⟩)) ∨
            ∃ cause sent, c.session.Pushed session sent ∧
              c.handle target f = (.error (.io cause), ⟨r.endpoint, session⟩))) := by
  have heff := Endpoint.effect_receive c.toEndpoint target f
  refine ⟨_, heff, ?_⟩
  cases hr : (c.toEndpoint.receive target f).reply with
  | none => exact .inl ⟨rfl, handle_of_reply_none hr⟩
  | some g =>
    have hout := heff.outcome_of_reply hr
    refine .inr ?_
    rw [handle_of_reply_some hr, hout]
    rcases hw : c.session.writeFrame g with ⟨_ | _, session⟩
    · obtain ⟨⟨cause, rfl⟩, sent, hs, -⟩ := Session.pushed_writeFrame_of_error hw
      exact ⟨g, session, rfl, rfl, .inr ⟨cause, sent, hs, rfl⟩⟩
    · exact ⟨g, session, rfl, rfl, .inl ⟨Session.pushed_writeFrame hw, rfl⟩⟩

/-! ### Rounds -/

/-- The connection once a frame was read for the response on `target`. -/
def noted (c : Connection) (target : Nat) : Connection :=
  { c with toEndpoint := c.noteFrame target }

theorem toEndpoint_noted {c read : Connection} {f : Frame} (h : c.readFrame = (.ok f, read))
    (target : Nat) : (read.noted target).toEndpoint = c.noteFrame target := by
  rw [noted, (readFrame_ok h).1]

/-- A round of the wait for a response that does not end it. -/
def Round (target : Nat) (c c' : Connection) : Prop :=
  ∃ f read, c.readFrame = (.ok f, read) ∧ (read.noted target).handle target f = (.ok false, c')

/-- The last round of a wait, with its outcome and the connection after it. -/
inductive LastRound (target : Nat) (c : Connection) : Except Error Unit → Connection → Prop
  | unread {e : Error} {c' : Connection} (hread : c.readFrame = (.error e, c')) :
      LastRound target c (.error e) c'
  | failed {f : Frame} {read c' : Connection} {e : Error} (hread : c.readFrame = (.ok f, read))
      (hhandle : (read.noted target).handle target f = (.error e, c')) :
      LastRound target c (.error e) (c'.afterFailure e)
  | ended {f : Frame} {read c' : Connection} (hread : c.readFrame = (.ok f, read))
      (hhandle : (read.noted target).handle target f = (.ok true, c')) :
      LastRound target c (.ok ()) c'

/-- **A wait is a number of rounds and a last one.** -/
theorem awaitEnd_rounds (c : Connection) (target : Nat) :
    ∃ mid, Relation.ReflTransGen (Round target) c mid ∧
      LastRound target mid (c.awaitEnd target).1 (c.awaitEnd target).2 := by
  fun_induction awaitEnd c target with
  | case1 c e c' h => exact ⟨c, .refl, .unread h⟩
  | case2 c f c' h noted e c'' hh => exact ⟨c, .refl, .failed h hh⟩
  | case3 c f c' h noted c'' hh => exact ⟨c, .refl, .ended h hh⟩
  | case4 c f c' h noted c'' hh _ ih =>
    obtain ⟨mid, hrounds, hlast⟩ := ih
    exact ⟨mid, .head ⟨f, c', h, hh⟩ hrounds, hlast⟩

theorem awaitEnd_of_readFrame_error {c c' : Connection} {target : Nat} {e : Error}
    (hread : c.readFrame = (.error e, c')) : c.awaitEnd target = (.error e, c') := by
  rw [awaitEnd]
  split
  · next h =>
    rw [hread] at h
    cases h
    rfl
  · next h =>
    rw [hread] at h
    cases h

theorem awaitEnd_of_handle_error {c read c' : Connection} {target : Nat} {f : Frame} {e : Error}
    (hread : c.readFrame = (.ok f, read))
    (hh : (read.noted target).handle target f = (.error e, c')) :
    c.awaitEnd target = (.error e, c'.afterFailure e) := by
  unfold noted at hh
  rw [awaitEnd]
  split
  · next h =>
    rw [hread] at h
    cases h
  · next h =>
    rw [hread] at h
    cases h
    simp only
    split
    · next h =>
      rw [hh] at h
      cases h
      rfl
    · next h =>
      rw [hh] at h
      cases h
    · next h =>
      rw [hh] at h
      cases h

theorem awaitEnd_of_handle_ok {c read c' : Connection} {target : Nat} {f : Frame} {ended : Bool}
    (hread : c.readFrame = (.ok f, read))
    (hh : (read.noted target).handle target f = (.ok ended, c')) :
    c.awaitEnd target = if ended then (.ok (), c') else c'.awaitEnd target := by
  unfold noted at hh
  rw [awaitEnd]
  split
  · next h =>
    rw [hread] at h
    cases h
  · next h =>
    rw [hread] at h
    cases h
    simp only
    split
    · next h =>
      rw [hh] at h
      cases h
    · next h =>
      rw [hh] at h
      cases h
      rfl
    · next h =>
      rw [hh] at h
      cases h
      rfl

theorem awaitEnd_eq_of_rounds {c mid : Connection} {target : Nat}
    (hr : Relation.ReflTransGen (Round target) c mid) :
    c.awaitEnd target = mid.awaitEnd target := by
  induction hr with
  | refl => rfl
  | tail _ hlast ih =>
    obtain ⟨f, read, hread, hh⟩ := hlast
    rw [ih, awaitEnd_of_handle_ok hread hh]
    rfl

theorem rounds_induction {P : Connection → Prop} {target : Nat}
    (round : ∀ c c', P c → Round target c c' → P c') {c mid : Connection} (h : P c)
    (hr : Relation.ReflTransGen (Round target) c mid) : P mid := by
  induction hr with
  | refl => exact h
  | tail _ hlast ih => exact round _ _ ih hlast

end Connection

end Http2
