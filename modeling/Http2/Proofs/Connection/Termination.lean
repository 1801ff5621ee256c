import Http2.Proofs.Connection.Evaluation
import Http2.Proofs.Connection.LifeCycle
import Http2.Proofs.Frame.Reading
import Http2.Proofs.Transport.Filling

/-!
The end of a wait. Whatever the transport brings, a wait for a response handles at most one frame
for nine bytes of the data that is there, and makes at most two calls for each byte and each event,
three more for each frame, and two more at the end.
-/

namespace Http2

/-! ### Frames -/

namespace Session

variable {s : Session} {limit : Nat}

/-- The calls of reading a frame: those for its header and, unless that ends the reading, those for
its payload. -/
def callsToReadFrame (s : Session) (limit : Nat) : List Transport.Call :=
  s.callsToFill Frame.headerSize ++
    match s.fill Frame.headerSize with
    | (.error _, _) => []
    | (.ok bytes, s₁) =>
      match Frame.Header.take? bytes with
      | none => []
      | some (h, _) => if limit < h.length then [] else s₁.callsToFill h.length

def callsToWriteFrame (s : Session) (f : Frame) : List Transport.Call :=
  s.callsToWriteAll f.encode ++
    match s.writeAll f.encode with
    | (.error _, _) => []
    | (.ok (), _) => [.flush]

/-- Reading a frame ends with its header, or goes on with its payload. -/
theorem readFrameUpTo_cases (s : Session) (limit : Nat) :
    ((∃ e, s.readFrameUpTo limit = (.error e, (s.fill Frame.headerSize).2)) ∧
        s.callsToReadFrame limit = s.callsToFill Frame.headerSize) ∨
      ∃ bytes s₁ want, s.fill Frame.headerSize = (.ok bytes, s₁) ∧
        bytes.length = Frame.headerSize ∧
        s.callsToReadFrame limit = s.callsToFill Frame.headerSize ++ s₁.callsToFill want ∧
        (s.readFrameUpTo limit).2 = (s₁.fill want).2 ∧
        ∀ f, (s.readFrameUpTo limit).1 = .ok f →
          ∃ payload, (s₁.fill want).1 = .ok payload ∧ payload.length = want := by
  rcases hf : s.fill Frame.headerSize with ⟨e | bytes, s₁⟩
  · refine .inl ⟨⟨.io e, ?_⟩, ?_⟩
    · simp only [readFrameUpTo, hf]
    · simp only [callsToReadFrame, hf, List.append_nil]
  · rcases hh : Frame.Header.take? bytes with _ | ⟨h, rest⟩
    · refine .inl ⟨⟨.shortRead Frame.headerSize bytes.length, ?_⟩, ?_⟩
      · unfold readFrameUpTo
        rw [hf]
        simp only
        split
        · rfl
        · next hh' =>
          rw [hh] at hh'
          cases hh'
      · simp only [callsToReadFrame, hf, hh, List.append_nil]
    · have hbytes : bytes.length = Frame.headerSize :=
        Nat.le_antisymm (pulled_fill hf).2 (by
          have := Frame.Header.length_of_take? hh
          omega)
      by_cases hlim : limit < h.length
      · refine .inl ⟨⟨.frameSize (.overLimit h.kind h.length limit), ?_⟩, ?_⟩
        · rw [readFrameUpTo_of_header hf hh, if_pos hlim]
        · simp only [callsToReadFrame, hf, hh, if_pos hlim, List.append_nil]
      · refine .inr ⟨bytes, s₁, h.length, rfl, hbytes, ?_, ?_⟩
        · simp only [callsToReadFrame, hf, hh, if_neg hlim]
        · rw [readFrameUpTo_of_header hf hh, if_neg hlim]
          rcases s₁.fill h.length with ⟨e | payload, s₂⟩
          · refine ⟨rfl, fun f hf => ?_⟩
            cases hf
          · simp only
            split
            · next hl => exact ⟨rfl, fun _ _ => ⟨payload, rfl, hl⟩⟩
            · refine ⟨rfl, fun f hf => ?_⟩
              cases hf

theorem readFrameUpTo_snd (s : Session) (limit : Nat) :
    (s.readFrameUpTo limit).2 = s.after (s.callsToReadFrame limit) := by
  rcases readFrameUpTo_cases s limit with
    ⟨⟨e, hread⟩, hcalls⟩ | ⟨bytes, s₁, want, hf, -, hcalls, hsnd, -⟩
  · rw [hread, hcalls, fill_snd]
  · have hs₁ : s₁ = s.after (s.callsToFill Frame.headerSize) := by rw [← fill_snd, hf]
    rw [hsnd, hcalls, after_append, ← hs₁, fill_snd]

theorem length_callsToReadFrame_le (s : Session) (limit : Nat) :
    (s.callsToReadFrame limit).length + 2 * (s.readFrameUpTo limit).2.inputSize ≤
      2 * s.inputSize + 2 := by
  rcases readFrameUpTo_cases s limit with
    ⟨⟨e, hread⟩, hcalls⟩ | ⟨bytes, s₁, want, hf, hbytes, hcalls, hsnd, -⟩
  · rw [hread, hcalls]
    exact length_callsToFill_le s Frame.headerSize
  · have := length_callsToFill_of_full hf hbytes
    have := length_callsToFill_le s₁ want
    rw [hsnd, hcalls, List.length_append]
    omega

theorem length_callsToReadFrame_of_ok {s' : Session} {f : Frame}
    (h : s.readFrameUpTo limit = (.ok f, s')) :
    (s.callsToReadFrame limit).length + 2 * s'.inputSize ≤ 2 * s.inputSize := by
  rcases readFrameUpTo_cases s limit with
    ⟨⟨e, hread⟩, -⟩ | ⟨bytes, s₁, want, hf, hbytes, hcalls, hsnd, hok⟩
  · rw [h] at hread
    cases hread
  · rw [h] at hsnd hok
    obtain ⟨payload, hp, hl⟩ := hok f rfl
    have := length_callsToFill_of_full hf hbytes
    have := length_callsToFill_of_full (Prod.ext hp hsnd.symm) hl
    rw [hcalls, List.length_append]
    omega

theorem writeFrame_snd (s : Session) (f : Frame) :
    (s.writeFrame f).2 = s.after (s.callsToWriteFrame f) := by
  have hw := writeAll_snd s f.encode
  unfold writeFrame callsToWriteFrame
  rcases h : s.writeAll f.encode with ⟨e | u, s₁⟩
  · rw [h] at hw
    simp only [List.append_nil]
    exact hw
  · rw [h] at hw
    simp only at hw ⊢
    rw [after_append, ← hw, ← flush_snd]
    split <;> next hf => rw [hf]

theorem length_callsToWriteFrame_le (s : Session) (f : Frame) :
    (s.callsToWriteFrame f).length + 2 * (s.writeFrame f).2.transport.writes.length ≤
      2 * s.transport.writes.length + 3 := by
  have hw := length_callsToWriteAll_le s f.encode
  unfold writeFrame callsToWriteFrame
  rcases h : s.writeAll f.encode with ⟨e | u, s₁⟩
  · rw [h] at hw
    simp only [List.append_nil] at hw ⊢
    omega
  · rw [h] at hw
    have hwrites : s₁.flush.2.transport.writes = s₁.transport.writes := rfl
    simp only [List.length_append, List.length_singleton] at hw ⊢
    split <;> next hf =>
      rw [hf] at hwrites
      simp only at hwrites ⊢
      rw [hwrites]
      omega

end Session

namespace Connection

variable {c c' d : Connection} {target : Nat} {frames : List Frame}
  {calls : List Transport.Call} {outcome : Except Error Unit}

/-! ### Waits -/

/-- The calls of handling a frame: those of writing its answer, if there is one. -/
def callsToHandle (c : Connection) (target : Nat) (f : Frame) : List Transport.Call :=
  match (c.toEndpoint.receive target f).reply with
  | none => []
  | some g => c.session.callsToWriteFrame g

/-- The calls of a round: reading a frame and handling it. -/
def callsOfRound (c : Connection) (target : Nat) (f : Frame) (read : Connection) :
    List Transport.Call :=
  c.session.callsToReadFrame payloadLimit ++ (read.noted target).callsToHandle target f

/-- A wait that ends: from `c` it handles `frames` and makes `calls`, and comes to `outcome` and
`d`. It ends where no frame can be read, or with a frame, or goes on after one. -/
inductive Waits (target : Nat) : Connection → List Frame → List Transport.Call →
    Except Error Unit → Connection → Prop
  | unread {c d : Connection} {e : Error} (hread : c.readFrame = (.error e, d)) :
      Waits target c [] (c.session.callsToReadFrame payloadLimit) (.error e) d
  | failed {c read d : Connection} {f : Frame} {e : Error} (hread : c.readFrame = (.ok f, read))
      (hhandle : (read.noted target).handle target f = (.error e, d)) :
      Waits target c [f] (c.callsOfRound target f read) (.error e) (d.afterFailure e)
  | ended {c read d : Connection} {f : Frame} (hread : c.readFrame = (.ok f, read))
      (hhandle : (read.noted target).handle target f = (.ok true, d)) :
      Waits target c [f] (c.callsOfRound target f read) (.ok ()) d
  | goesOn {c read c' d : Connection} {f : Frame} {frames : List Frame}
      {calls : List Transport.Call} {outcome : Except Error Unit}
      (hread : c.readFrame = (.ok f, read))
      (hhandle : (read.noted target).handle target f = (.ok false, c'))
      (later : Waits target c' frames calls outcome d) :
      Waits target c (f :: frames) (c.callsOfRound target f read ++ calls) outcome d

/-- **Every wait ends.** -/
theorem exists_waits (c : Connection) (target : Nat) :
    ∃ frames calls, Waits target c frames calls (c.awaitEnd target).1 (c.awaitEnd target).2 := by
  fun_induction awaitEnd c target with
  | case1 c e c' h => exact ⟨_, _, .unread h⟩
  | case2 c f c' h noted e c'' hh => exact ⟨_, _, .failed h hh⟩
  | case3 c f c' h noted c'' hh => exact ⟨_, _, .ended h hh⟩
  | case4 c f c' h noted c'' hh _ ih =>
    obtain ⟨frames, calls, hw⟩ := ih
    exact ⟨_, _, .goesOn h hh hw⟩

/-- It ends within a round for each frame, and one more. -/
theorem Waits.awaitWithin (h : Waits target c frames calls outcome d) {fuel : Nat}
    (hf : frames.length < fuel) : c.awaitWithin target fuel = some (outcome, d) := by
  induction h generalizing fuel with
  | unread hread =>
    obtain ⟨n, rfl⟩ := Nat.exists_eq_succ_of_ne_zero (Nat.ne_zero_of_lt hf)
    simp only [Connection.awaitWithin, hread]
  | failed hread hhandle | ended hread hhandle =>
    obtain ⟨n, rfl⟩ := Nat.exists_eq_succ_of_ne_zero (Nat.ne_zero_of_lt hf)
    simp only [Connection.awaitWithin, hread, hhandle]
  | goesOn hread hhandle _ ih =>
    obtain ⟨n, rfl⟩ := Nat.exists_eq_succ_of_ne_zero (Nat.ne_zero_of_lt hf)
    simp only [Connection.awaitWithin, hread, hhandle]
    exact ih (Nat.lt_of_succ_lt_succ hf)

/-! ### Rounds -/

theorem session_readFrame (c : Connection) :
    c.readFrame.2.session = (c.session.readFrameUpTo payloadLimit).2 := by
  unfold readFrame
  rcases c.session.readFrameUpTo payloadLimit with ⟨e | f, session⟩ <;> rfl

theorem readFrameUpTo_of_readFrame {read : Connection} {f : Frame}
    (hread : c.readFrame = (.ok f, read)) :
    c.session.readFrameUpTo payloadLimit = (.ok f, read.session) := by
  unfold readFrame at hread
  split at hread
  · cases hread
  · next h =>
    cases hread
    exact h

theorem session_handle (c : Connection) (target : Nat) (f : Frame) :
    (c.handle target f).2.session =
      match (c.toEndpoint.receive target f).reply with
      | none => c.session
      | some g => (c.session.writeFrame g).2 := by
  cases hr : (c.toEndpoint.receive target f).reply with
  | none => rw [handle_of_reply_none hr]
  | some g =>
    rw [handle_of_reply_some hr]
    simp only
    rcases c.session.writeFrame g with ⟨e | u, session⟩ <;> rfl

theorem handle_after (c : Connection) (target : Nat) (f : Frame) :
    (c.handle target f).2.session = c.session.after (c.callsToHandle target f) := by
  rw [session_handle]
  unfold callsToHandle
  split
  · rfl
  · exact Session.writeFrame_snd ..

theorem session_of_round {read : Connection} {f : Frame} {r : Except Error Bool}
    (hread : c.readFrame = (.ok f, read))
    (hhandle : (read.noted target).handle target f = (r, d)) :
    d.session = c.session.after (c.callsOfRound target f read) := by
  have hs : read.session = c.session.after (c.session.callsToReadFrame payloadLimit) := by
    rw [← Session.readFrameUpTo_snd, readFrameUpTo_of_readFrame hread]
  have hd := handle_after (read.noted target) target f
  rw [hhandle] at hd
  rw [callsOfRound, Session.after_append, ← hs]
  exact hd

/-- **A wait leaves** what its calls make of the transport. -/
theorem Waits.session_eq (h : Waits target c frames calls outcome d) :
    d.session = c.session.after calls := by
  induction h with
  | @unread c d e hread =>
    have hs := session_readFrame c
    rw [hread, Session.readFrameUpTo_snd] at hs
    exact hs
  | failed hread hhandle =>
    rw [session_afterFailure]
    exact session_of_round hread hhandle
  | ended hread hhandle => exact session_of_round hread hhandle
  | goesOn hread hhandle _ ih =>
    rw [Session.after_append, ← session_of_round hread hhandle]
    exact ih

/-! ### How many frames -/

theorem length_unread_readFrame {read : Connection} {f : Frame}
    (hread : c.readFrame = (.ok f, read)) :
    c.session.transport.unread.length =
      9 + f.payload.length + read.session.transport.unread.length := by
  obtain ⟨-, raw, hp, hd⟩ := readFrame_ok hread
  have := Frame.length_of_decode? hd
  rw [hp.unread, List.length_append]
  simp only [Frame.size, Frame.headerSize, List.length_nil] at this
  omega

theorem unread_handle {f : Frame} {r : Except Error Bool}
    (hhandle : (c.noted target).handle target f = (r, d)) :
    d.session.transport.unread = c.session.transport.unread := by
  obtain ⟨sent, hs⟩ := pushed_handle (c.noted target) target f
  rw [hhandle] at hs
  exact hs.unread

/-- **A wait handles a frame for nine bytes of data** at most. -/
theorem Waits.length_frames (h : Waits target c frames calls outcome d) :
    9 * frames.length + d.session.transport.unread.length ≤
      c.session.transport.unread.length := by
  induction h with
  | unread hread =>
    obtain ⟨-, -, raw, hp⟩ := readFrame_error hread
    have := congrArg List.length hp.unread
    rw [List.length_append] at this
    simp only [List.length_nil]
    omega
  | failed hread hhandle =>
    have := length_unread_readFrame hread
    rw [session_afterFailure, unread_handle hhandle, List.length_singleton]
    omega
  | ended hread hhandle =>
    have := length_unread_readFrame hread
    rw [unread_handle hhandle, List.length_singleton]
    omega
  | goesOn hread hhandle _ ih =>
    have := length_unread_readFrame hread
    rw [unread_handle hhandle] at ih
    rw [List.length_cons]
    omega

/-! ### How many calls -/

/-- What a transport can still bring: two calls for each byte and each event. -/
def budget (c : Connection) : Nat :=
  2 * c.session.inputSize + 2 * c.session.transport.writes.length

/-- A round makes three calls more than it takes from the budget, at most. -/
theorem length_callsOfRound {read : Connection} {f : Frame} {r : Except Error Bool}
    (hread : c.readFrame = (.ok f, read))
    (hhandle : (read.noted target).handle target f = (r, d)) :
    (c.callsOfRound target f read).length + d.budget ≤ c.budget + 3 := by
  have hcalls := Session.length_callsToReadFrame_of_ok (readFrameUpTo_of_readFrame hread)
  obtain ⟨-, raw, hp, -⟩ := readFrame_ok hread
  have hd := session_handle (read.noted target) target f
  rw [hhandle] at hd
  unfold callsOfRound callsToHandle budget
  rw [List.length_append, hd, ← hp.writes]
  split
  · simp only [List.length_nil, noted]
    omega
  · next g _ =>
    have hw := Session.length_callsToWriteFrame_le read.session g
    have hi := Session.inputSize_writeFrame read.session g
    simp only [noted]
    omega

/-- **A wait makes a bounded number of calls**: what it takes from the budget, three for each frame,
and two more. -/
theorem Waits.length_calls (h : Waits target c frames calls outcome d) :
    calls.length + d.budget ≤ c.budget + 3 * frames.length + 2 := by
  induction h with
  | @unread c d e hread =>
    have hcalls := Session.length_callsToReadFrame_le c.session payloadLimit
    have hs := session_readFrame c
    obtain ⟨-, -, raw, hp⟩ := readFrame_error hread
    rw [← hs, hread] at hcalls
    simp only [budget, hp.writes, List.length_nil] at hcalls ⊢
    omega
  | @failed c read d f e hread hhandle =>
    have hround := length_callsOfRound hread hhandle
    have hbudget : (d.afterFailure e).budget = d.budget := by
      rw [budget, session_afterFailure, budget]
    rw [List.length_singleton]
    omega
  | ended hread hhandle =>
    have hround := length_callsOfRound hread hhandle
    rw [List.length_singleton]
    omega
  | goesOn hread hhandle _ ih =>
    have hround := length_callsOfRound hread hhandle
    rw [List.length_append, List.length_cons]
    omega

/-! ### The end of a wait -/

/-- **The wait for a response ends**, on every transport, with a round for nine bytes of data at
most and with finitely many calls; each frame takes nine bytes, and each buffer is filled turn by
turn. -/
theorem recvResponse_ends (hf : c.awaitFault? target = none) :
    (∃ frames calls outcome d, Waits target c frames calls outcome d ∧
      c.awaitEnd target = (outcome, d) ∧
      (c.recvResponse target).2.session = c.session.after calls ∧
      frames.length ≤ c.session.transport.unread.length / 9 ∧
      calls.length ≤
        2 * (c.session.transport.input.length + c.session.transport.unread.length +
          c.session.transport.writes.length + 1) +
        3 * (c.session.transport.unread.length / 9)) ∧
      c.recvWithin target (c.session.transport.unread.length / 9 + 1) =
        some (c.recvResponse target) ∧
      (∀ mid f read, Relation.ReflTransGen (Round target) c mid → mid.readFrame = (.ok f, read) →
        9 + read.session.transport.unread.length ≤ mid.session.transport.unread.length) ∧
      ∀ (s : Session) (want : Nat), s.FillsInTurns want := by
  obtain ⟨frames, calls, hwaits⟩ := exists_waits c target
  have hframes : frames.length ≤ c.session.transport.unread.length / 9 := by
    have := hwaits.length_frames
    omega
  refine ⟨⟨frames, calls, _, _, hwaits, rfl, ?_, hframes, ?_⟩, ?_, ?_, Session.fillsInTurns⟩
  · rw [session_recvResponse hf, hwaits.session_eq]
  · have := hwaits.length_calls
    simp only [budget, Session.inputSize, Transport.inputSize_eq c.session.transport] at this
    omega
  · have hwithin := hwaits.awaitWithin (Nat.lt_succ_of_le hframes)
    unfold recvWithin recvResponse
    rw [hf]
    simp only [hwithin]
    rcases c.awaitEnd target with ⟨e | u, d⟩ <;> rfl
  · intro mid f read _ hread
    have := length_unread_readFrame hread
    omega

/-- Settings, and the beginning of a frame, between interruptions in both directions. -/
def stopping : Transport :=
  { input := [.data Frame.initialSettings.encode, .fail (.io ⟨.interrupted, ""⟩),
      .data [0, 0, 4], .pollFail (.io ⟨.interrupted, ""⟩), .data [8], .eof, .data [0]]
    chunk := some 4
    writes := [.accept 100, .accept 100, .accept 100, .fail (.io ⟨.interrupted, ""⟩), .accept 4]
    protocol := some protocolName }

def stopped : Connection := (openOn stopping none).2.perform (.sendRequest "GET" "a" "/" [])

/-- Of fourteen bytes one frame is handled at most, and with 51 calls at most. -/
theorem recvResponse_ends_stopped :
    stopped.awaitFault? 1 = none ∧ stopped.session.transport.unread.length = 14 ∧
      (∃ frames calls outcome d, Waits 1 stopped frames calls outcome d ∧
        frames.length ≤ 1 ∧ calls.length ≤ 51) ∧
      stopped.recvWithin 1 2 = some (stopped.recvResponse 1) := by
  have hf : stopped.awaitFault? 1 = none := by cbv
  have hunread : stopped.session.transport.unread.length = 14 := by cbv
  have hinput : stopped.session.transport.input.length = 7 := by cbv
  have hwrites : stopped.session.transport.writes.length = 2 := by cbv
  obtain ⟨⟨frames, calls, outcome, d, hwaits, -, -, hframes, hcalls⟩, hwithin, -, -⟩ :=
    recvResponse_ends hf
  rw [hunread] at hframes hcalls hwithin
  rw [hinput, hwrites] at hcalls
  exact ⟨hf, hunread, ⟨frames, calls, outcome, d, hwaits, hframes, hcalls⟩, hwithin⟩

end Connection

end Http2
