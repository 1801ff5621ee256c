import Http2.Proofs.Frame.Transfer

/-!
The calls that a session makes to its transport, operation by operation. What an operation leaves of
the transport is what its calls make of it: no other calls were made, and none was left out.
-/

namespace Http2

namespace Transport

inductive Call where
  | poll (direction : Direction) (timeout : Option Nat)
  | read (want : Nat)
  | write (bytes : Bytes)
  | flush
  | close
  deriving DecidableEq, Repr

def after (t : Transport) : Call → Transport
  | .poll direction timeout => (t.poll direction timeout).2
  | .read want => (t.read want).2
  | .write bytes => (t.write bytes).2
  | .flush => t.flush.2
  | .close => t.close.2

theorem closeCalls_after (t : Transport) (call : Call) :
    (t.after call).closeCalls = t.closeCalls + if call = .close then 1 else 0 := by
  cases call with
  | poll direction timeout =>
    unfold after poll
    cases direction <;> dsimp only <;> split <;> rfl
  | read want =>
    unfold after read
    dsimp only
    split <;> rfl
  | write bytes =>
    unfold after write
    dsimp only
    split <;> rfl
  | flush | close => rfl

theorem closeCalls_foldl_after (t : Transport) (calls : List Call) :
    (calls.foldl after t).closeCalls = t.closeCalls + calls.count .close := by
  induction calls generalizing t with
  | nil => rfl
  | cons call calls ih =>
    rw [List.foldl_cons, ih, closeCalls_after, List.count_cons]
    simp only [beq_iff_eq]
    omega

end Transport

namespace Session

variable {s s' : Session} {want : Nat} {bytes : Bytes}

/-- The session after calls to its transport. -/
def after (s : Session) (calls : List Transport.Call) : Session :=
  { s with transport := calls.foldl Transport.after s.transport }

@[simp] theorem after_nil (s : Session) : s.after [] = s := rfl

theorem after_append (s : Session) (calls later : List Transport.Call) :
    s.after (calls ++ later) = (s.after calls).after later := by
  rw [after, List.foldl_append]
  rfl

/-! ### Single operations -/

/-- The calls of an operation that polls first: none on a closed session, and the poll alone unless
it says yes. -/
def callsWhenReady (s : Session) (direction : Direction) (call : Transport.Call) :
    List Transport.Call :=
  if s.closed then []
  else
    match (s.transport.poll direction s.timeout).1 with
    | .ok true => [.poll direction s.timeout, call]
    | .ok false | .error _ => [.poll direction s.timeout]

def callsToRead (s : Session) (want : Nat) : List Transport.Call :=
  s.callsWhenReady .read (.read want)

def callsToWrite (s : Session) (bytes : Bytes) : List Transport.Call :=
  s.callsWhenReady .write (.write bytes)

def callsToClose (s : Session) : List Transport.Call := if s.closed then [] else [.close]

theorem whenReady_snd {α : Type} {direction : Direction} {call : Transport.Call}
    {run : Transport → Except TransportError α × Transport} (hrun : ∀ t, (run t).2 = t.after call) :
    (s.whenReady direction run).2 = s.after (s.callsWhenReady direction call) := by
  unfold whenReady callsWhenReady
  split
  · rfl
  · rcases hp : s.transport.poll direction s.timeout with ⟨cause | _ | _, t⟩
    · simp [after, Transport.after, hp]
    · simp [after, Transport.after, hp]
    · simp [after, Transport.after, hp, hrun]

theorem pull_snd (s : Session) (want : Nat) : (s.pull want).2 = s.after (s.callsToRead want) :=
  whenReady_snd fun _ => rfl

theorem push_snd (s : Session) (bytes : Bytes) :
    (s.push bytes).2 = s.after (s.callsToWrite bytes) :=
  whenReady_snd fun _ => rfl

theorem flush_snd (s : Session) : s.flush.2 = s.after [.flush] := rfl

theorem close_snd (s : Session) : s.close.2 = { s.after s.callsToClose with closed := true } := by
  unfold close callsToClose
  split
  · next hc => simp [← hc]
  · rfl

theorem mem_callsWhenReady {direction : Direction} {call made : Transport.Call}
    (h : made ∈ s.callsWhenReady direction call) :
    made = .poll direction s.timeout ∨ made = call := by
  unfold callsWhenReady at h
  split at h
  · cases h
  · split at h
    · simpa using h
    · simpa using Or.inl h
    · simpa using Or.inl h

theorem length_callsWhenReady_le (s : Session) (direction : Direction) (call : Transport.Call) :
    (s.callsWhenReady direction call).length ≤ 2 := by
  unfold callsWhenReady
  split
  · exact Nat.zero_le 2
  · split <;> simp

theorem callsWhenReady_of_closed (hc : s.closed = true) (direction : Direction)
    (call : Transport.Call) : s.callsWhenReady direction call = [] := by
  rw [callsWhenReady, if_pos hc]

/-! ### Loops -/

/-- The calls of reading until a buffer is full. -/
def callsToFill (s : Session) (want : Nat) : List Transport.Call :=
  if want = 0 then []
  else
    s.callsToRead want ++
      match h : s.pull want with
      | (.ok [], _) => []
      | (.ok (b :: bs), s') =>
        have : s'.inputSize < s.inputSize := by
          have := inputSize_pull_le h
          simp only [List.length_cons] at this
          omega
        callsToFill s' (want - (bs.length + 1))
      | (.error e, s') =>
        if hi : e.kind = .interrupted then
          have := inputSize_pull_lt h hi
          callsToFill s' want
        else []
termination_by s.inputSize

def callsToWriteAll (s : Session) (bytes : Bytes) : List Transport.Call :=
  if hb : bytes = [] then []
  else
    s.callsToWrite bytes ++
      match h : s.push bytes with
      | (.ok 0, _) => []
      | (.ok (n + 1), s') =>
        have : bytes.length - (n + 1) + s'.transport.writes.length <
            bytes.length + s.transport.writes.length := by
          have := length_writes_push_le h
          have := List.length_pos_iff.2 hb
          omega
        callsToWriteAll s' (bytes.drop (n + 1))
      | (.error e, s') =>
        if hi : e.kind = .interrupted then
          have := length_writes_push_lt h hi
          callsToWriteAll s' bytes
        else []
termination_by bytes.length + s.transport.writes.length

@[simp] theorem callsToFill_zero (s : Session) : s.callsToFill 0 = [] := by
  rw [callsToFill, if_pos rfl]

theorem callsToFill_eq (s : Session) (hw : want ≠ 0) :
    s.callsToFill want = s.callsToRead want ++
      match s.pull want with
      | (.ok [], _) => []
      | (.ok (_ :: bs), s') => s'.callsToFill (want - (bs.length + 1))
      | (.error e, s') => if e.kind = .interrupted then s'.callsToFill want else [] := by
  rw [callsToFill, if_neg hw]
  split
  · next hp => rw [hp]
  · next hp => simp only [hp]
  · next hp => simp only [hp, dite_eq_ite]

@[simp] theorem callsToWriteAll_nil (s : Session) : s.callsToWriteAll [] = [] := by
  rw [callsToWriteAll, dif_pos rfl]

theorem callsToWriteAll_eq (s : Session) (hb : bytes ≠ []) :
    s.callsToWriteAll bytes = s.callsToWrite bytes ++
      match s.push bytes with
      | (.ok 0, _) => []
      | (.ok (n + 1), s') => s'.callsToWriteAll (bytes.drop (n + 1))
      | (.error e, s') => if e.kind = .interrupted then s'.callsToWriteAll bytes else [] := by
  rw [callsToWriteAll, dif_neg hb]
  split
  · next hp => rw [hp]
  · next hp => simp only [hp]
  · next hp => simp only [hp, dite_eq_ite]

/-- Filling a buffer polls for reads, and reads for no more than is missing. -/
theorem mem_callsToFill {call : Transport.Call} (h : call ∈ s.callsToFill want) :
    (∃ timeout, call = .poll .read timeout) ∨ ∃ n ≤ want, call = .read n := by
  have hread {s : Session} {want : Nat} (h : call ∈ s.callsToRead want) :
      (∃ timeout, call = .poll .read timeout) ∨ ∃ n ≤ want, call = .read n :=
    (mem_callsWhenReady h).imp (fun h => ⟨_, h⟩) fun h => ⟨want, Nat.le_refl _, h⟩
  fun_induction fillFrom s want [] with
  | case1 s done => simp at h
  | case2 s want done hw s' hp =>
    rw [callsToFill_eq s hw, hp, List.append_nil] at h
    exact hread h
  | case3 s want done hw b bs s' hp _ ih =>
    rw [callsToFill_eq s hw, hp] at h
    rcases List.mem_append.1 h with h | h
    · exact hread h
    · refine (ih h).imp_right ?_
      rintro ⟨n, hn, hcall⟩
      exact ⟨n, by omega, hcall⟩
  | case4 s want done hw e s' hp hi _ ih =>
    simp only [callsToFill_eq s hw, hp, hi, if_true] at h
    exact (List.mem_append.1 h).elim hread ih
  | case5 s want done hw e s' hp hi =>
    simp only [callsToFill_eq s hw, hp, hi, if_false, List.append_nil] at h
    exact hread h

/-- Writing polls for writes, and writes what is left of the bytes. -/
theorem mem_callsToWriteAll {call : Transport.Call} (h : call ∈ s.callsToWriteAll bytes) :
    (∃ timeout, call = .poll .write timeout) ∨ ∃ left, left <:+ bytes ∧ call = .write left := by
  have hwrite {s : Session} {bytes : Bytes} (h : call ∈ s.callsToWrite bytes) :
      (∃ timeout, call = .poll .write timeout) ∨ ∃ left, left <:+ bytes ∧ call = .write left :=
    (mem_callsWhenReady h).imp (fun h => ⟨_, h⟩) fun h => ⟨bytes, List.suffix_refl _, h⟩
  fun_induction writeAll s bytes with
  | case1 s => simp at h
  | case2 s bytes hb s' hp =>
    rw [callsToWriteAll_eq s hb, hp, List.append_nil] at h
    exact hwrite h
  | case3 s bytes hb n s' hp _ ih =>
    rw [callsToWriteAll_eq s hb, hp] at h
    rcases List.mem_append.1 h with h | h
    · exact hwrite h
    · refine (ih h).imp_right ?_
      rintro ⟨left, hleft, hcall⟩
      exact ⟨left, hleft.trans (List.drop_suffix _ _), hcall⟩
  | case4 s bytes hb e s' hp hi _ ih =>
    simp only [callsToWriteAll_eq s hb, hp, hi, if_true] at h
    exact (List.mem_append.1 h).elim hwrite ih
  | case5 s bytes hb e s' hp hi =>
    simp only [callsToWriteAll_eq s hb, hp, hi, if_false, List.append_nil] at h
    exact hwrite h

/-- **Filling a buffer** leaves what its calls make of the transport. -/
theorem fillFrom_snd (s : Session) (want : Nat) (done : Bytes) :
    (s.fillFrom want done).2 = s.after (s.callsToFill want) := by
  have hpull {s s' : Session} {want : Nat} {r : Except SystemError Bytes}
      (hp : s.pull want = (r, s')) : s' = s.after (s.callsToRead want) := by
    rw [← pull_snd, hp]
  fun_induction fillFrom s want done with
  | case1 s done => rw [callsToFill_zero, after_nil]
  | case2 s want done hw s' hp =>
    simp only [callsToFill_eq s hw, hp, List.append_nil]
    exact hpull hp
  | case3 s want done hw b bs s' hp _ ih =>
    simp only [callsToFill_eq s hw, hp, after_append, ← hpull hp]
    exact ih
  | case4 s want done hw e s' hp hi _ ih =>
    simp only [callsToFill_eq s hw, hp, hi, if_true, after_append, ← hpull hp]
    exact ih
  | case5 s want done hw e s' hp hi =>
    simp only [callsToFill_eq s hw, hp, hi, if_false, List.append_nil]
    exact hpull hp

theorem fill_snd (s : Session) (want : Nat) : (s.fill want).2 = s.after (s.callsToFill want) :=
  fillFrom_snd s want []

theorem readExact_snd (s : Session) (want : Nat) :
    (s.readExact want).2 = s.after (s.callsToFill want) := by
  rw [← fill_snd]
  unfold readExact
  split
  · next h => rw [h]
  · next h =>
    rw [h]
    split <;> rfl

/-- **Writing** leaves what its calls make of the transport. -/
theorem writeAll_snd (s : Session) (bytes : Bytes) :
    (s.writeAll bytes).2 = s.after (s.callsToWriteAll bytes) := by
  have hpush {s s' : Session} {bytes : Bytes} {r : Except SystemError Nat}
      (hp : s.push bytes = (r, s')) : s' = s.after (s.callsToWrite bytes) := by
    rw [← push_snd, hp]
  fun_induction writeAll s bytes with
  | case1 s => rw [callsToWriteAll_nil, after_nil]
  | case2 s bytes hb s' hp =>
    simp only [callsToWriteAll_eq s hb, hp, List.append_nil]
    exact hpush hp
  | case3 s bytes hb n s' hp _ ih =>
    simp only [callsToWriteAll_eq s hb, hp, after_append, ← hpush hp]
    exact ih
  | case4 s bytes hb e s' hp hi _ ih =>
    simp only [callsToWriteAll_eq s hb, hp, hi, if_true, after_append, ← hpush hp]
    exact ih
  | case5 s bytes hb e s' hp hi =>
    simp only [callsToWriteAll_eq s hb, hp, hi, if_false, List.append_nil]
    exact hpush hp

/-- A write that takes no more than some of the bytes was told so by an event. -/
theorem length_writes_lt_of_push {n : Nat} (hp : s.push bytes = (.ok n, s'))
    (hn : n < bytes.length) : s'.transport.writes.length < s.transport.writes.length := by
  by_cases hc : s.closed = true
  · rw [push_of_closed hc] at hp
    cases hp
  · have hopen : s.closed = false := by simpa using hc
    rcases hw : s.transport.writes with _ | ⟨e, rest⟩
    · simp only [push, write, whenReady, hopen, Transport.poll, Transport.write, hw] at hp
      cases hp
      exact absurd hn (Nat.lt_irrefl _)
    · cases e <;>
        simp only [push, write, whenReady, hopen, Transport.poll, Transport.write, hw] at hp <;>
        cases hp
      exact Nat.lt_succ_self _

/-- **Writing** makes two calls for each event that it uses up, and two more at most. -/
theorem length_callsToWriteAll_le (s : Session) (bytes : Bytes) :
    (s.callsToWriteAll bytes).length + 2 * (s.writeAll bytes).2.transport.writes.length ≤
      2 * s.transport.writes.length + 2 := by
  have htwo (s : Session) (bytes : Bytes) : (s.callsToWrite bytes).length ≤ 2 :=
    length_callsWhenReady_le ..
  fun_induction writeAll s bytes with
  | case1 s => simp
  | case2 s bytes hb s' hp =>
    have := htwo s bytes
    have := length_writes_push_le hp
    simp only [callsToWriteAll_eq s hb, hp, List.append_nil]
    omega
  | case3 s bytes hb n s' hp _ ih =>
    have := htwo s bytes
    simp only [callsToWriteAll_eq s hb, hp, List.length_append]
    by_cases hn : n + 1 < bytes.length
    · have := length_writes_lt_of_push hp hn
      omega
    · -- nothing is left to write
      have hdrop : bytes.drop (n + 1) = [] := List.drop_eq_nil_of_le (Nat.le_of_not_lt hn)
      have hnil : s'.writeAll [] = (.ok (), s') := by rw [writeAll, dif_pos rfl]
      have := length_writes_push_le hp
      rw [hdrop, callsToWriteAll_nil, List.length_nil, hnil]
      simp only
      omega
  | case4 s bytes hb e s' hp hi _ ih =>
    have := htwo s bytes
    have := length_writes_push_lt hp hi
    simp only [callsToWriteAll_eq s hb, hp, hi, if_true, List.length_append]
    omega
  | case5 s bytes hb e s' hp hi =>
    have := htwo s bytes
    have := length_writes_push_le hp
    simp only [callsToWriteAll_eq s hb, hp, hi, if_false, List.append_nil]
    omega

end Session

end Http2
