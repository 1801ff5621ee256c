import Mathlib.Data.List.Induction
import Http2.Proofs.Stream.Arrival

/-!
Runs of one stream, in which its response may be taken at any time. Main statement: what was taken
and what is left are together all that arrived, in order, but for the interim blocks before the
final status, which stays once it came.
-/

namespace Http2.Stream

/-! ### Runs -/

/-- What is done with a stream. -/
inductive Operation where
  | sendHeaders
  | frameReceived
  | receiveHeaders (fs : List Field)
  | receiveData (data : Bytes)
  | close
  | takeResponse
  deriving DecidableEq, Repr

/-- A change that may fail, and then leaves the stream as it was. -/
def attempt (s : Stream) : Except Error Stream → Except Error (Option Response) × Stream
  | .ok t => (.ok none, t)
  | .error e => (.error e, s)

/-- What an operation answers, which is a response if one is taken, and the stream after it. -/
def perform (s : Stream) : Operation → Except Error (Option Response) × Stream
  | .sendHeaders => s.attempt s.sendHeaders
  | .frameReceived => (.ok none, s.frameReceived)
  | .receiveHeaders fs => s.attempt (s.receiveHeaders fs)
  | .receiveData data => (.ok none, s.receiveData data)
  | .close => (.ok none, s.close)
  | .takeResponse => (.ok (some s.response), s.taken)

def run (s : Stream) (ops : List Operation) : Stream :=
  ops.foldl (fun s op => (s.perform op).2) s

abbrev Event := Operation × Except Error (Option Response)

/-- Operations one after another with their answers. -/
def history (s : Stream) : List Operation → List Event
  | [] => []
  | op :: ops => (op, (s.perform op).1) :: history (s.perform op).2 ops

theorem history_append (s : Stream) (ops more : List Operation) :
    s.history (ops ++ more) = s.history ops ++ (s.run ops).history more := by
  induction ops generalizing s with
  | nil => rfl
  | cons op ops ih => exact congrArg _ (ih _)

theorem run_concat (s : Stream) (ops : List Operation) (op : Operation) :
    s.run (ops ++ [op]) = ((s.run ops).perform op).2 := by
  simp [run]

theorem run_induction {P : Stream → Prop} (step : ∀ s op, P s → P (s.perform op).2)
    (ops : List Operation) {s : Stream} (h : P s) : P (s.run ops) := by
  induction ops generalizing s with
  | nil => exact h
  | cons op ops ih => exact ih (step s op h)

def Event.data : Event → Bytes
  | (.receiveData data, _) => data
  | _ => []

/-- The block that an event brings, if it was not refused. -/
def Event.blocks : Event → List (List Field)
  | (.receiveHeaders fs, .ok _) => [fs]
  | _ => []

/-- The response that was taken, if it was. -/
def Event.responses : Event → List Response
  | (_, .ok (some r)) => [r]
  | _ => []

/-! ### One operation -/

variable (s : Stream)

theorem perform_of_error {op : Operation} {e : Error} (h : (s.perform op).1 = .error e) :
    (s.perform op).2 = s := by
  have hattempt {r : Except Error Stream} (h : (s.attempt r).1 = .error e) :
      (s.attempt r).2 = s := by
    cases r with
    | ok t => cases h
    | error e' => rfl
  cases op with
  | sendHeaders | receiveHeaders fs => exact hattempt h
  | frameReceived | receiveData data | close | takeResponse => cases h

theorem perform_sendHeaders_isOk_iff :
    (∃ r, (s.perform .sendHeaders).1 = .ok r) ↔ s.state = .idle := by
  rw [perform, sendHeaders]
  split
  · next h => exact ⟨fun _ => h, fun _ => ⟨none, rfl⟩⟩
  · next h => exact ⟨nofun, fun hi => absurd hi h⟩

theorem perform_receiveHeaders (fs : List Field) :
    BadStatus fs ∧ (∃ e, s.perform (.receiveHeaders fs) = (.error e, s)) ∨
      ¬ BadStatus fs ∧ s.perform (.receiveHeaders fs) = (.ok none, s.takeBlock fs) := by
  rw [perform, receiveHeaders]
  by_cases h : BadStatus fs
  · obtain ⟨e, he⟩ := blockStatus_of_bad h
    rw [he]
    exact .inl ⟨h, e, rfl⟩
  · rw [blockStatus_of_not_bad h]
    exact .inr ⟨h, rfl⟩

theorem perform_receiveHeaders_isOk_iff (fs : List Field) :
    (∃ r, (s.perform (.receiveHeaders fs)).1 = .ok r) ↔ ¬ BadStatus fs := by
  rcases s.perform_receiveHeaders fs with ⟨hbad, e, h⟩ | ⟨hgood, h⟩
  · rw [h]
    exact ⟨nofun, fun hgood => absurd hbad hgood⟩
  · rw [h]
    exact ⟨fun _ => hgood, fun _ => ⟨none, rfl⟩⟩

theorem rank_perform (op : Operation) : s.state.rank ≤ (s.perform op).2.state.rank := by
  cases op with
  | sendHeaders =>
    rw [perform]
    cases h : s.sendHeaders with
    | ok t => exact rank_sendHeaders h
    | error e => exact Nat.le_refl _
  | frameReceived => exact s.rank_frameReceived
  | receiveHeaders fs =>
    rcases s.perform_receiveHeaders fs with ⟨-, e, h⟩ | ⟨-, h⟩
    · simp [h]
    · simp [h, takeBlock]
  | receiveData data => exact Nat.le_refl _
  | close => exact s.rank_close
  | takeResponse => exact Nat.le_refl _

theorem status_perform {n : Nat} (op : Operation) (hs : s.status = some n) :
    (s.perform op).2.status = some n := by
  cases op with
  | sendHeaders =>
    rw [perform, sendHeaders]
    split <;> exact hs
  | frameReceived =>
    rw [perform, frameReceived]
    split <;> exact hs
  | receiveHeaders fs =>
    rcases s.perform_receiveHeaders fs with ⟨-, e, h⟩ | ⟨-, h⟩
    · rw [h]
      exact hs
    · rw [h, takeBlock_eq]
      simp [hs]
  | receiveData data | close | takeResponse => exact hs

/-! ### Taking and putting back -/

/-- The stream with responses that were taken put back in front of what it holds. -/
def putBack (s : Stream) (rs : List Response) : Stream :=
  { s with headers := rs.flatMap Response.headers ++ s.headers
           body := rs.flatMap Response.body ++ s.body }

@[simp] theorem putBack_nil : s.putBack [] = s := rfl

theorem takeBlock_putBack (rs : List Response) (fs : List Field) :
    (s.putBack rs).takeBlock fs = (s.takeBlock fs).putBack rs := by
  rw [takeBlock_eq, takeBlock_eq, putBack, putBack]
  split
  · rfl
  · simp

/-- With everything put back an operation adds what it brings, and may change the state. -/
theorem putBack_perform (op : Operation) (rs : List Response) :
    (s.perform op).2.putBack (rs ++ Event.responses (op, (s.perform op).1)) =
      { (s.putBack rs).absorb (Event.blocks (op, (s.perform op).1))
          (Event.data (op, (s.perform op).1)) with state := (s.perform op).2.state } := by
  cases op with
  | sendHeaders =>
    rw [perform, sendHeaders]
    split <;> simp [attempt, Event.responses, Event.blocks, Event.data, sent, putBack]
  | frameReceived =>
    rw [perform, frameReceived]
    split <;> simp [Event.responses, Event.blocks, Event.data, putBack]
  | receiveHeaders fs =>
    rcases s.perform_receiveHeaders fs with ⟨-, e, h⟩ | ⟨-, h⟩
    · simp [h, Event.responses, Event.blocks, Event.data, putBack]
    · rw [h]
      simp only [Event.responses, Event.blocks, Event.data, List.append_nil, absorb_block]
      rw [takeBlock_putBack]
      rfl
  | receiveData data =>
    simp [perform, Event.responses, Event.blocks, Event.data, absorb, receiveData, putBack]
  | close => simp [perform, Event.responses, Event.blocks, Event.data, close, putBack]
  | takeResponse =>
    simp [perform, Event.responses, Event.blocks, Event.data, response, taken, putBack]

/-- **With everything put back** that a run took, the stream is the one that took in all that
arrived, but for its state. -/
theorem putBack_run (ops : List Operation) :
    (s.run ops).putBack ((s.history ops).flatMap Event.responses) =
      { s.absorb ((s.history ops).flatMap Event.blocks) ((s.history ops).flatMap Event.data) with
        state := (s.run ops).state } := by
  induction ops using List.reverseRecOn with
  | nil => simp [run, history]
  | append_singleton ops op ih =>
    have hlog : s.history (ops ++ [op]) = s.history ops ++ [(op, ((s.run ops).perform op).1)] := by
      rw [history_append]
      rfl
    rw [hlog, run_concat]
    simp only [List.flatMap_append, List.flatMap_singleton]
    rw [putBack_perform, ih, absorb_of_state, absorb_absorb]

theorem absorb_new (id : Nat) (blocks : List (List Field)) (data : Bytes) :
    (new id).absorb blocks data =
      { new id with
        status := Response.finalStatus? blocks
        headers := (Response.counted blocks).flatMap regularFields
        body := data } := by
  have h : blocks.foldl takeBlock (new id) = _ := foldl_takeBlock_of_none rfl blocks
  rw [absorb, h]
  simp [receiveData, new]

/-! ### Accounts -/

theorem not_badStatus_of_mem_history {ops : List Operation} {fs : List Field}
    (h : fs ∈ (s.history ops).flatMap Event.blocks) : ¬ BadStatus fs := by
  induction ops generalizing s with
  | nil => cases h
  | cons op ops ih =>
    rw [history, List.flatMap_cons, List.mem_append] at h
    rcases h with h | h
    · cases op with
      | receiveHeaders gs =>
        rcases s.perform_receiveHeaders gs with ⟨-, e, hp⟩ | ⟨hgood, hp⟩
        · rw [hp] at h
          cases h
        · rw [hp] at h
          rwa [List.mem_singleton.1 h]
      | _ => cases h
    · exact ih _ h

theorem isInterim_eq_false_iff {n : Nat} (h : 100 ≤ n) :
    isInterim n = false ↔ n = 101 ∨ 200 ≤ n := by
  simp only [isInterim, Bool.and_eq_false_iff, decide_eq_false_iff_not, bne_eq_false_iff_eq]
  omega

/-- The stream and what was taken from it hold all that the events brought, but for the interim
blocks before the final status. -/
structure Accounts (log : List Event) (s : Stream) : Prop where
  body : (log.flatMap Event.responses).flatMap Response.body ++ s.body = log.flatMap Event.data
  status : s.status = Response.finalStatus? (log.flatMap Event.blocks)
  headers : (log.flatMap Event.responses).flatMap Response.headers ++ s.headers =
    (Response.counted (log.flatMap Event.blocks)).flatMap regularFields
  statuses : ∀ fs ∈ log.flatMap Event.blocks, ∀ n, namedStatus fs = some n →
    100 ≤ n ∧ n ≤ 999 ∧ (isInterim n = false ↔ n = 101 ∨ 200 ≤ n)

theorem accounts_run (id : Nat) (ops : List Operation) :
    Accounts ((new id).history ops) ((new id).run ops) := by
  have h := putBack_run (new id) ops
  rw [absorb_new] at h
  exact {
    body := congrArg Stream.body h
    status := congrArg Stream.status h
    headers := congrArg Stream.headers h
    statuses := fun fs hfs n hn => by
      obtain ⟨hlo, hhi⟩ := bounds_of_not_badStatus (not_badStatus_of_mem_history _ hfs) hn
      exact ⟨hlo, hhi, isInterim_eq_false_iff hlo⟩ }

/-- **Whatever is done with a stream** one after another, nothing that arrived is lost or doubled.
Its state and its status once there is one never go back, the request goes out only from the first
state, just a block with a bad status is refused, and what is refused changes nothing. -/
theorem accounts_of_operations (id : Nat) (ops : List Operation) :
    let s := (new id).run ops
    Accounts ((new id).history ops) s ∧
      (∀ more, s.state.rank ≤ (s.run more).state.rank) ∧
      (∀ n, s.status = some n → ∀ more, (s.run more).status = some n) ∧
      ((∃ r, (s.perform .sendHeaders).1 = .ok r) ↔ s.state = .idle) ∧
      (∀ fs, (∃ r, (s.perform (.receiveHeaders fs)).1 = .ok r) ↔ ¬ BadStatus fs) ∧
      ∀ op e, (s.perform op).1 = .error e → (s.perform op).2 = s := by
  intro s
  refine ⟨accounts_run id ops, fun more => ?_, fun n hn more => ?_,
    perform_sendHeaders_isOk_iff s, perform_receiveHeaders_isOk_iff s,
    fun op e => perform_of_error s⟩
  · exact run_induction (P := fun t => s.state.rank ≤ t.state.rank)
      (fun t op h => Nat.le_trans h (t.rank_perform op)) more (Nat.le_refl _)
  · exact run_induction (fun t op => t.status_perform op) more hn

-- an interim block, a response taken early, and trailers that name a status again
example : ((new 1).run
    [.sendHeaders, .receiveHeaders [(":status", "103"), ("link", "a")],
     .receiveHeaders [("age", "1"), (":status", "200")], .receiveData [1, 2], .takeResponse,
     .receiveHeaders [(":status", "100"), ("digest", "b")], .receiveData [3]]).response =
      ⟨1, some 200, [("digest", "b")], [3]⟩ := by
  decide +kernel

end Http2.Stream
