import Http2.Proofs.Transport.Calls
import Http2.Proofs.Transport.Segmentation

/-!
The end of a session. Whatever a program does with a session, its transport is closed once at most,
at the first closing, and from then on reads and writes are refused and call nothing. Flushing alone
still goes through, so a session is cut off exactly where nothing is flushed after it was closed.
-/

namespace Http2.Session

/-! ### What a program does -/

/-- What a program does with a session: its own operations, and those of a stream of bytes. -/
inductive Operation where
  | read (want : Nat)
  | write (bytes : Bytes)
  | close
  | setTimeout (timeout : Option Nat)
  | pull (want : Nat)
  | push (bytes : Bytes)
  | readExact (want : Nat)
  | writeAll (bytes : Bytes)
  | flush
  deriving DecidableEq, Repr

inductive Outcome where
  | given (outcome : Except TransportError Bytes)
  | taken (outcome : Except TransportError Nat)
  | closed (outcome : Except TransportError Unit)
  | timeoutSet
  | pulled (outcome : Except SystemError Bytes)
  | pushed (outcome : Except SystemError Nat)
  | done (outcome : Except SystemError Unit)

/-- An operation's answer, and the session after it. -/
def perform (s : Session) : Operation → Outcome × Session
  | .read want => (s.read want).map .given id
  | .write bytes => (s.write bytes).map .taken id
  | .close => s.close.map .closed id
  | .setTimeout timeout => (.timeoutSet, s.setTimeout timeout)
  | .pull want => (s.pull want).map .pulled id
  | .push bytes => (s.push bytes).map .pushed id
  | .readExact want => (s.readExact want).map .pulled id
  | .writeAll bytes => (s.writeAll bytes).map .done id
  | .flush => s.flush.map .done id

/-- The calls that an operation makes to the transport. -/
def calls (s : Session) : Operation → List Transport.Call
  | .read want | .pull want => s.callsToRead want
  | .write bytes | .push bytes => s.callsToWrite bytes
  | .close => s.callsToClose
  | .setTimeout _ => []
  | .readExact want => s.callsToFill want
  | .writeAll bytes => s.callsToWriteAll bytes
  | .flush => [.flush]

def run (s : Session) (ops : List Operation) : Session :=
  ops.foldl (fun s op => (s.perform op).2) s

/-- The calls that operations one after another make. -/
def callsOfRun (s : Session) : List Operation → List Transport.Call
  | [] => []
  | op :: ops => s.calls op ++ callsOfRun (s.perform op).2 ops

/-- The operation reads, writes or flushes: a buffer of no bytes is neither filled nor written. -/
def Operation.Transfers : Operation → Prop
  | .read _ | .write _ | .pull _ | .push _ | .flush => True
  | .readExact want => want ≠ 0
  | .writeAll bytes => bytes ≠ []
  | .close | .setTimeout _ => False

/-- The answer reports that the session is closed. -/
def Outcome.ReportsClosed : Outcome → Prop
  | .given outcome => outcome = .error .closed
  | .taken outcome => outcome = .error .closed
  | .pulled outcome => outcome = .error .notConnected
  | .pushed outcome => outcome = .error .notConnected
  | .done outcome => outcome = .error .notConnected
  | .closed _ | .timeoutSet => False

variable {s : Session} {op : Operation} {ops : List Operation} {t : Transport}

def Operation.timeoutAfter (timeout : Option Nat) : Operation → Option Nat
  | .setTimeout timeout => timeout
  | _ => timeout

/-- **An operation** leaves what its calls make of the transport, and only closing closes. -/
theorem perform_snd (s : Session) (op : Operation) :
    (s.perform op).2 = { s.after (s.calls op) with
      timeout := op.timeoutAfter s.timeout
      closed := s.closed || op == .close } := by
  have plain {s' : Session} (h : s' = s.after (s.calls op))
      (ht : op.timeoutAfter s.timeout = s.timeout) (hc : (op == .close) = false) :
      s' = { s.after (s.calls op) with
        timeout := op.timeoutAfter s.timeout
        closed := s.closed || op == .close } := by
    rw [ht, hc, Bool.or_false, h]
    rfl
  cases op with
  | read want | pull want => exact plain (s.pull_snd want) rfl rfl
  | write bytes | push bytes => exact plain (s.push_snd bytes) rfl rfl
  | close =>
    refine s.close_snd.trans ?_
    rw [calls, beq_self_eq_true, Bool.or_true]
    rfl
  | setTimeout timeout => simp [perform, calls, setTimeout, Operation.timeoutAfter]
  | readExact want => exact plain (s.readExact_snd want) rfl rfl
  | writeAll bytes => exact plain (s.writeAll_snd bytes) rfl rfl
  | flush => exact plain s.flush_snd rfl rfl

theorem closed_perform (s : Session) (op : Operation) :
    (s.perform op).2.closed = (s.closed || op == .close) := by
  rw [perform_snd]

/-- **The transport** after a run is what the calls of the run make of it. -/
theorem transport_run (s : Session) (ops : List Operation) :
    (s.run ops).transport = (s.after (s.callsOfRun ops)).transport := by
  induction ops generalizing s with
  | nil => rfl
  | cons op ops ih =>
    have hstep : (s.perform op).2.transport = (s.after (s.calls op)).transport := by
      rw [perform_snd]
    rw [callsOfRun, after_append]
    refine (ih (s.perform op).2).trans ?_
    simp only [after, hstep]

/-! ### Closing -/

theorem closed_run (s : Session) (ops : List Operation) :
    (s.run ops).closed = (s.closed || ops.contains .close) := by
  induction ops generalizing s with
  | nil => simp [run]
  | cons op ops ih =>
    rw [List.contains_cons, ← Bool.or_assoc, Bool.beq_comm, ← closed_perform]
    exact ih _

theorem closed_run_new : ((new t).run ops).closed = true ↔ .close ∈ ops := by
  simp [closed_run, new]

theorem not_mem_calls_of_ne_close (h : op ≠ .close) : Transport.Call.close ∉ s.calls op := by
  intro hm
  cases op with
  | read want | pull want | write bytes | push bytes => simpa using mem_callsWhenReady hm
  | close => exact absurd rfl h
  | setTimeout timeout => cases hm
  | readExact want => simpa using mem_callsToFill hm
  | writeAll bytes => simpa using mem_callsToWriteAll hm
  | flush => simp [calls] at hm

/-- The transport is closed once at most: at the first closing of a session that is open. -/
theorem count_close_callsOfRun_le (s : Session) (ops : List Operation) :
    (s.callsOfRun ops).count .close ≤ if s.closed then 0 else 1 := by
  induction ops generalizing s with
  | nil => simp [callsOfRun]
  | cons op ops ih =>
    have hlater := ih (s.perform op).2
    rw [closed_perform] at hlater
    rw [callsOfRun, List.count_append]
    by_cases hop : op = .close
    · subst hop
      cases hc : s.closed <;> simp_all [calls, callsToClose]
    · rw [List.count_eq_zero.2 (not_mem_calls_of_ne_close hop), Nat.zero_add]
      simpa [hop] using hlater

/-! ### A closed session -/

section Closed

variable (hc : s.closed = true)
include hc

theorem perform_close_of_closed : s.perform .close = (.closed (.ok ()), s) := by
  simp [perform, close, hc]

/-- **A closed session is silent**: it makes no call but to flush. -/
theorem calls_of_closed (hop : op ≠ .flush) : s.calls op = [] := by
  cases op with
  | read want | pull want => exact callsWhenReady_of_closed hc _ _
  | write bytes | push bytes => exact callsWhenReady_of_closed hc _ _
  | close => exact if_pos hc
  | setTimeout timeout => rfl
  | readExact want =>
    by_cases hw : want = 0
    · rw [hw]
      exact s.callsToFill_zero
    · rw [calls, callsToFill_eq s hw, pull_of_closed hc, callsToRead, callsWhenReady_of_closed hc]
      rfl
  | writeAll bytes =>
    by_cases hb : bytes = []
    · rw [hb]
      exact s.callsToWriteAll_nil
    · rw [calls, callsToWriteAll_eq s hb, push_of_closed hc, callsToWrite,
        callsWhenReady_of_closed hc]
      rfl
  | flush => exact absurd rfl hop

/-- **A closed session refuses** to read and to write, and says why. -/
theorem reportsClosed_of_closed (hop : op ≠ .flush) (ht : op.Transfers) :
    (s.perform op).1.ReportsClosed := by
  cases op with
  | read want => exact congrArg Prod.fst (s.read_of_closed hc want)
  | write bytes => exact congrArg Prod.fst (s.write_of_closed hc bytes)
  | close | setTimeout timeout => exact ht.elim
  | pull want => exact congrArg Prod.fst (s.pull_of_closed hc want)
  | push bytes => exact congrArg Prod.fst (s.push_of_closed hc bytes)
  | readExact want =>
    change (s.readExact want).1 = _
    rw [readExact, fill_of_closed hc, if_neg ht]
  | writeAll bytes =>
    change (s.writeAll bytes).1 = _
    rw [writeAll_of_closed hc, if_neg ht]
  | flush => exact absurd rfl hop

end Closed

/-! ### Cutting off -/

theorem closeCalls_run (s : Session) (ops : List Operation) :
    (s.run ops).transport.closeCalls =
      s.transport.closeCalls + (s.callsOfRun ops).count .close := by
  rw [transport_run]
  exact Transport.closeCalls_foldl_after s.transport (s.callsOfRun ops)

/-- Along a run of operations, closing cuts the transport off from those that are `held`. -/
structure CutsOff (s : Session) (held : Operation → Prop) (ops : List Operation) : Prop where
  /-- The transport is closed once at most. -/
  once : (s.callsOfRun ops).count .close ≤ 1
  /-- The first closing closes it. -/
  first : ∀ before later, ops = before ++ .close :: later → .close ∉ before →
    (s.run before).calls .close = [.close]
  /-- Later ones succeed and leave everything as it was. -/
  again : ∀ before later, ops = before ++ .close :: later → .close ∈ before →
    (s.run before).perform .close = (.closed (.ok ()), s.run before)
  /-- From then on nothing reaches the transport. -/
  silent : ∀ before op later, ops = before ++ op :: later → .close ∈ before → held op →
    (s.run before).calls op = []
  /-- From then on whatever reads, writes or flushes is told that the session is closed. -/
  refused : ∀ before op later, ops = before ++ op :: later → .close ∈ before → held op →
    op.Transfers → ((s.run before).perform op).1.ReportsClosed

theorem cutsOff_of {held : Operation → Prop}
    (h : ∀ before later, ops = before ++ .flush :: later → .close ∈ before → ¬ held .flush) :
    (new t).CutsOff held ops := by
  have hflush {before later : List Operation} {op : Operation} (heq : ops = before ++ op :: later)
      (hb : .close ∈ before) (hop : held op) : op ≠ .flush := by
    rintro rfl
    exact h before later heq hb hop
  refine ⟨count_close_callsOfRun_le (new t) ops, fun before later _ hb => ?_,
    fun before later _ hb => perform_close_of_closed (closed_run_new.2 hb),
    fun before op later heq hb hop =>
      calls_of_closed (closed_run_new.2 hb) (hflush heq hb hop),
    fun before op later heq hb hop =>
      reportsClosed_of_closed (closed_run_new.2 hb) (hflush heq hb hop)⟩
  exact if_neg (mt closed_run_new.1 hb)

/-- **Closing cuts off** all operations but flushing, on every transport and along every run, and
flushing exactly where nothing is flushed behind a closing: that still reaches the transport, and
gets its answer. -/
theorem cutsOff_iff (t : Transport) (ops : List Operation) :
    (new t).CutsOff (· ≠ .flush) ops ∧
      ((new t).CutsOff (fun _ => True) ops ↔
        ∀ before later, ops = before ++ .flush :: later → .close ∉ before) ∧
      (∀ before, ((new t).run before).calls .flush = [.flush] ∧
        (((new t).run before).perform .flush).1 =
          .done (((new t).run before).transport.flush.1.mapError TransportError.toSystem)) ∧
      ((new t).run ops).transport = ((new t).after ((new t).callsOfRun ops)).transport ∧
      ((new t).run ops).transport.closeCalls =
        t.closeCalls + ((new t).callsOfRun ops).count .close := by
  refine ⟨cutsOff_of fun _ _ _ _ h => h rfl, ⟨fun h before later heq hb => ?_,
      fun h => cutsOff_of fun before later heq hb => absurd hb (h before later heq)⟩,
    fun before => ⟨rfl, rfl⟩, transport_run (new t) ops, closeCalls_run (new t) ops⟩
  exact List.cons_ne_nil _ _ (h.silent before .flush later heq hb trivial)

/-- **A flush behind a closing** reaches the transport and succeeds. -/
theorem not_cutsOff_flush :
    ((new {}).run [.close]).calls .flush = [.flush] ∧
      (((new {}).run [.close]).perform .flush).1 = .done (.ok ()) ∧
      ¬ (new {}).CutsOff (fun _ => True) [.close, .flush] := by
  refine ⟨rfl, rfl, fun h => ?_⟩
  exact List.cons_ne_nil _ _
    (h.silent [.close] .flush [] rfl (List.mem_singleton.2 rfl) trivial)

end Http2.Session
