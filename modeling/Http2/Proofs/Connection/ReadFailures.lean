import Http2.Proofs.Connection.Assembly
import Http2.Proofs.Frame.Reading
import Http2.Proofs.Transport.Stops

/-!
A wait whose reading stops inside a frame. What it reports depends on the bytes of the frame that
are there and on the first stop behind them: a header that announces too much, time that ran out, or
anything else. The connection has failed, and what was collected for the response is lost.
-/

namespace Http2

/-! ### Frames that break off -/

/-- The failure of an input that ends inside a frame. -/
def Error.EndsFrame : Error → Prop
  | shortRead .. | truncated .. => True
  | _ => False

/-- The failure to read bytes at a stop; what an ending means depends on the place. -/
def Stop.fault (stop : Stop) (ending : Error) : Error :=
  match stop.cause? with
  | none => ending
  | some cause => .io cause

/-- The failure to read a frame of which the bytes `got` come before a stop. -/
def Stop.frameFault (stop : Stop) (limit : Nat) (got : Bytes) : Error :=
  match Frame.Header.take? got with
  | none => stop.fault (.shortRead Frame.headerSize got.length)
  | some (h, behind) =>
    if limit < h.length then .frameSize (.overLimit h.kind h.length limit)
    else stop.fault (.truncated h.length behind.length)

namespace Session

variable {s : Session} {limit : Nat} {got behind : Bytes} {stop : Stop} {h : Frame.Header}

theorem readFrameUpTo_of_short (hs : s.untilStop = (got, stop))
    (htake : Frame.Header.take? got = none) :
    ∃ s', s.readFrameUpTo limit =
      (.error (stop.fault (.shortRead Frame.headerSize got.length)), s') := by
  have hl : s.untilStop.1.length < Frame.headerSize := by
    rw [hs]
    exact Frame.Header.take?_eq_none_iff.1 htake
  obtain ⟨s', hf⟩ := fill_of_lt hl
  rw [hs] at hf
  refine ⟨s', ?_⟩
  unfold readFrameUpTo
  unfold Stop.outcome at hf
  rw [hf]
  unfold Stop.fault
  cases stop.cause? with
  | some cause => rfl
  | none =>
    simp only
    split
    · rfl
    · next hh =>
      rw [htake] at hh
      cases hh

section Header

variable (hs : s.untilStop = (got, stop)) (htake : Frame.Header.take? got = some (h, behind))
include hs htake

/-- A header that is there is read, and what stands behind it still comes. -/
theorem fill_header : ∃ s₁, s.fill Frame.headerSize = (.ok (got.take Frame.headerSize), s₁) ∧
    s₁.untilStop = (behind, stop) := by
  have hl : Frame.headerSize ≤ s.untilStop.1.length := by
    have := Frame.Header.length_of_take? htake
    rw [hs]
    simp only
    omega
  obtain ⟨s₁, hf, hu⟩ := fill_of_le hl
  rw [hs] at hf hu
  exact ⟨s₁, hf, by rw [hu, ← Frame.Header.drop_of_take? htake]⟩

theorem readFrameUpTo_of_overLimit (hlim : limit < h.length) :
    ∃ s', s.readFrameUpTo limit = (.error (.frameSize (.overLimit h.kind h.length limit)), s') ∧
      s.Pulled s' (got.take Frame.headerSize) := by
  obtain ⟨s₁, hf, -⟩ := fill_header hs htake
  refine ⟨s₁, ?_, (pulled_fill hf).1⟩
  rw [readFrameUpTo_of_header hf (Frame.Header.take?_take htake), if_pos hlim]

theorem readFrameUpTo_of_cut (hlim : h.length ≤ limit) (hfew : behind.length < h.length) :
    ∃ s', s.readFrameUpTo limit =
      (.error (stop.fault (.truncated h.length behind.length)), s') := by
  obtain ⟨s₁, hf₁, hu₁⟩ := fill_header hs htake
  have hl : s₁.untilStop.1.length < h.length := by
    rw [hu₁]
    exact hfew
  obtain ⟨s₂, hf₂⟩ := fill_of_lt hl
  rw [hu₁] at hf₂
  refine ⟨s₂, ?_⟩
  rw [readFrameUpTo_of_header hf₁ (Frame.Header.take?_take htake), if_neg (Nat.not_lt.2 hlim), hf₂]
  unfold Stop.outcome Stop.fault
  cases stop.cause? with
  | some cause => rfl
  | none => exact dif_neg (Nat.ne_of_lt hfew)

end Header

/-- **Where no frame of at most `limit` bytes is there**, none is read, and the failure is told by
the bytes that are there and by the stop behind them. -/
theorem readFrameUpTo_of_untilStop (hs : s.untilStop = (got, stop))
    (hcut : ∀ f rest, Frame.decode? got = some (f, rest) → limit < f.payload.length) :
    ∃ s', s.readFrameUpTo limit = (.error (stop.frameFault limit got), s') ∧
      ∀ h behind, Frame.Header.take? got = some (h, behind) → limit < h.length →
        s.Pulled s' (got.take Frame.headerSize) := by
  unfold Stop.frameFault
  cases htake : Frame.Header.take? got with
  | none =>
    obtain ⟨s', hread⟩ := readFrameUpTo_of_short hs htake
    exact ⟨s', hread, nofun⟩
  | some found =>
    obtain ⟨h, behind⟩ := found
    simp only
    by_cases hlim : limit < h.length
    · obtain ⟨s', hread, hp⟩ := readFrameUpTo_of_overLimit hs htake hlim
      rw [if_pos hlim]
      exact ⟨s', hread, fun _ _ _ _ => hp⟩
    · have hfew : behind.length < h.length := by
        refine Nat.lt_of_not_le fun hle => ?_
        cases hd : Frame.decode? got with
        | none => exact Nat.not_le_of_lt (Frame.decode?_eq_none_iff.1 hd h behind htake) hle
        | some decoded =>
          obtain ⟨f, rest⟩ := decoded
          have hsame := Frame.decode?_eq_some_iff.1 hd
          rw [htake, Option.some.injEq, Prod.mk.injEq] at hsame
          obtain ⟨rfl, -⟩ := hsame
          exact hlim (hcut f rest hd)
      obtain ⟨s', hread⟩ := readFrameUpTo_of_cut hs htake (Nat.le_of_not_lt hlim) hfew
      rw [if_neg hlim]
      refine ⟨s', hread, fun h' behind' heq hlim' => absurd hlim' ?_⟩
      cases heq
      exact hlim

end Session

namespace Connection

variable {c c' d mid : Connection} {target : Nat} {got : Bytes} {stop : Stop}

/-! ### Causes -/

/-- The bytes begin with a header that announces more than the client takes. -/
def Oversized (got : Bytes) : Prop :=
  ∃ h behind, Frame.Header.take? got = some (h, behind) ∧ payloadLimit < h.length

theorem readFailure_io (cause : SystemError) :
    readFailure (.io cause) =
      if cause.kind = .timedOut ∨ cause.kind = .wouldBlock then .transport .timeout
      else .unreadable (.io cause) := by
  obtain ⟨kind, text⟩ := cause
  cases kind <;> rfl

theorem readFailure_of_endsFrame {e : Error} (h : e.EndsFrame) : readFailure e = .unreadable e := by
  cases e with
  | shortRead | truncated => rfl
  | _ => exact h.elim

theorem frameFault_cases (stop : Stop) (got : Bytes) :
    (Oversized got ∧ ∃ fault, stop.frameFault payloadLimit got = .frameSize fault) ∨
      (¬ Oversized got ∧ ∃ ending : Error, ending.EndsFrame ∧
        stop.frameFault payloadLimit got = stop.fault ending) := by
  unfold Stop.frameFault Oversized
  cases htake : Frame.Header.take? got with
  | none => exact .inr ⟨nofun, .shortRead Frame.headerSize got.length, trivial, rfl⟩
  | some found =>
    obtain ⟨h, behind⟩ := found
    by_cases hlim : payloadLimit < h.length
    · exact .inl ⟨⟨h, behind, rfl, hlim⟩, _, if_pos hlim⟩
    · refine .inr ⟨?_, .truncated h.length behind.length, trivial, if_neg hlim⟩
      rintro ⟨h', behind', heq, hlim'⟩
      cases heq
      exact hlim hlim'

/-- **A stop is reported** as a timeout if time ran out, and else as a breach by its failure. -/
theorem readFailure_fault {ending : Error} (he : ending.EndsFrame) :
    readFailure (stop.fault ending) =
      if stop.IsTimeout then .transport .timeout else .unreadable (stop.fault ending) := by
  unfold Stop.fault
  cases hcause : stop.cause? with
  | none =>
    have hno : ¬ stop.IsTimeout := by simp [Stop.isTimeout_iff, hcause]
    rw [if_neg hno]
    exact readFailure_of_endsFrame he
  | some cause =>
    have hiff : stop.IsTimeout ↔ cause.kind = .timedOut ∨ cause.kind = .wouldBlock := by
      simp [Stop.isTimeout_iff, hcause]
    simp only [readFailure_io, hiff]

theorem cause?_of_fault {ending : Error} (he : ending.EndsFrame) {cause : SystemError}
    (h : stop.fault ending = .io cause) : stop.cause? = some cause := by
  unfold Stop.fault at h
  split at h
  · rw [h] at he
    exact he.elim
  · next hc =>
    cases h
    exact hc

/-! ### Afterwards -/

/-- What can become of a connection: the program makes calls, and anything happens to its
session. -/
inductive Becomes (c : Connection) : Connection → Prop
  | refl : Becomes c c
  | call {d : Connection} (h : Becomes c d) (call : Call) : Becomes c (d.perform call)
  | session {d : Connection} (h : Becomes c d) (s : Session) : Becomes c { d with session := s }

theorem Becomes.not_isUsable (h : Becomes c d) (hc : ¬ c.phase.IsUsable) : ¬ d.phase.IsUsable := by
  induction h with
  | refl => exact hc
  | session _ s ih => exact ih
  | call _ call ih =>
    refine perform_induction (P := fun d => ¬ d.phase.IsUsable) ?_ ?_ ?_ call ih
    · intro d method authority path extra hd
      rw [(refuses_of_not_usable (Phase.not_isUsable_iff.1 hd)).1]
      exact hd
    · intro d target hd
      rw [recvResponse_of_not_usable hd]
      exact hd
    · intro d _
      rw [phase_close]
      exact id

theorem answer_ne_of_not_usable (hc : ¬ c.phase.IsUsable) (call : Call) (response : Response) :
    c.answer call ≠ .response (.ok response) := by
  obtain ⟨hsend, hrecv⟩ := refuses_of_not_usable (Phase.not_isUsable_iff.1 hc)
  intro h
  cases call with
  | sendRequest | close => cases h
  | recvResponse target =>
    rw [answer, hrecv] at h
    cases h
  | request method authority path extra =>
    rw [answer, request, hsend] at h
    cases h
  | get authority path =>
    rw [answer, get, request, hsend] at h
    cases h

/-! ### Waits -/

/-- From `c`, where the bytes `got` of a frame come before `stop`, reading fails with `e` and leaves
`c'`. -/
structure ReportsStop (c : Connection) (got : Bytes) (stop : Stop) (e : Error) (c' : Connection) :
    Prop where
  /-- Time that ran out is reported as that. -/
  timeout : e = .transport .timeout ↔ ¬ Oversized got ∧ stop.IsTimeout
  /-- So is a header that announces too much. -/
  frameSize : (∃ fault, e = .frameSize fault) ↔ Oversized got
  /-- All else is a breach of the protocol. -/
  unreadable : (∃ cause, e = .unreadable cause) ↔ ¬ Oversized got ∧ ¬ stop.IsTimeout
  /-- Of a frame that announces too much the header is taken, and nothing else. -/
  taken : Oversized got →
    ∃ header, header.length = 9 ∧ header <+: got ∧ c.session.Pulled c'.session header
  /-- No interruption is reported. -/
  uninterrupted : ∀ cause, e = .unreadable (.io cause) → cause.kind ≠ .interrupted
  /-- The connection has failed. -/
  failed : c'.phase = .failed
  /-- What was collected is lost. -/
  lost : ∀ d, c'.Becomes d → ∀ call response, d.answer call ≠ .response (.ok response)

/-- Reading a frame that is not there to the end reports the stop. -/
theorem readFrame_reportsStop (hs : c.session.untilStop = (got, stop))
    (hcut : ∀ f rest, Frame.decode? got = some (f, rest) → payloadLimit < f.payload.length) :
    ∃ e c', c.readFrame = (.error e, c') ∧ c.ReportsStop got stop e c' := by
  obtain ⟨s', hread, hheader⟩ := Session.readFrameUpTo_of_untilStop hs hcut
  have hfinal : stop.IsFinal := by
    have := c.session.isFinal_untilStop
    rwa [hs] at this
  refine ⟨readFailure (stop.frameFault payloadLimit got), fail { c with session := s' },
    by simp only [readFrame, hread], ?_⟩
  have htaken : Oversized got → ∃ header : Bytes, header.length = 9 ∧ header <+: got ∧
      c.session.Pulled s' header := by
    rintro ⟨h, behind, htake, hlim⟩
    refine ⟨got.take Frame.headerSize, ?_, List.take_prefix _ _, hheader h behind htake hlim⟩
    have := Frame.Header.length_of_take? htake
    simp only [Frame.headerSize, List.length_take] at this ⊢
    omega
  have hlost : ∀ d, (fail { c with session := s' }).Becomes d → ∀ call response,
      d.answer call ≠ .response (.ok response) := fun d hd =>
    answer_ne_of_not_usable (hd.not_isUsable id)
  obtain ⟨hover, fault, hfault⟩ | ⟨hover, ending, hends, hfault⟩ := frameFault_cases stop got
  · rw [hfault]
    exact ⟨⟨nofun, fun h => absurd hover h.1⟩, ⟨fun _ => hover, fun _ => ⟨fault, rfl⟩⟩,
      ⟨nofun, fun h => absurd hover h.1⟩, htaken, nofun, rfl, hlost⟩
  · rw [hfault, readFailure_fault hends]
    by_cases htime : stop.IsTimeout
    · rw [if_pos htime]
      exact ⟨⟨fun _ => ⟨hover, htime⟩, fun _ => rfl⟩, ⟨nofun, fun h => absurd h hover⟩,
        ⟨nofun, fun h => absurd htime h.2⟩, htaken, nofun, rfl, hlost⟩
    · rw [if_neg htime]
      refine ⟨⟨nofun, fun h => absurd h.2 htime⟩, ⟨nofun, fun h => absurd h hover⟩,
        ⟨fun _ => ⟨hover, htime⟩, fun _ => ⟨_, rfl⟩⟩, htaken, fun cause h => ?_, rfl, hlost⟩
      exact hfinal.kind_ne (cause?_of_fault hends (Error.unreadable.inj h))

/-- **A wait whose reading stops inside a frame** reports why, by the bytes of the frame that are
there and by the first stop behind them, whatever frames it handled before: it fails with a timeout
if time ran out in a poll, in the transport or in the system below, with a wrong size if the header
is there and announces too much, and else as a breach of the protocol. -/
theorem recvResponse_reportsStop (hf : c.awaitFault? target = none)
    (hr : Relation.ReflTransGen (Round target) c mid)
    (hs : mid.session.untilStop = (got, stop))
    (hcut : ∀ f rest, Frame.decode? got = some (f, rest) → payloadLimit < f.payload.length) :
    ∃ e c', c.recvResponse target = (.error e, c') ∧ mid.ReportsStop got stop e c' := by
  obtain ⟨e, c', hread, hreports⟩ := readFrame_reportsStop hs hcut
  refine ⟨e, c', ?_, hreports⟩
  unfold recvResponse
  rw [hf, awaitEnd_eq_of_rounds hr, awaitEnd_of_readFrame_error hread]

/-- Settings, the head of a response, and two of five bytes of its body; then an interruption, and a
read that would block before the other three. -/
def blocking : Transport :=
  { input := [.data Frame.initialSettings.encode, .data okHeaders.encode,
      .data [0, 0, 5, 0, 1, 0, 0, 0, 1, 104, 101], .pollFail (.io ⟨.interrupted, ""⟩),
      .fail (.io ⟨.wouldBlock, ""⟩), .data [108, 108, 111]]
    protocol := some protocolName }

def blocked : Connection := (openOn blocking none).2.perform (.sendRequest "GET" "a" "/" [])

/-- The same once the settings were handled, and once the head of the response was. -/
def blockedNext : Connection := ((blocked.readFrame.2.noted 1).handle 1 .initialSettings).2

def blockedLast : Connection := ((blockedNext.readFrame.2.noted 1).handle 1 okHeaders).2

/-- The wait times out, and no later call answers with what there is of the response. -/
theorem recvResponse_reportsStop_blocked :
    blocked.awaitFault? 1 = none ∧ Relation.ReflTransGen (Round 1) blocked blockedLast ∧
      blockedLast.session.untilStop =
        ([0, 0, 5, 0, 1, 0, 0, 0, 1, 104, 101], .failure (.io ⟨.wouldBlock, ""⟩)) ∧
      Frame.decode? [0, 0, 5, 0, 1, 0, 0, 0, 1, 104, 101] = none ∧
      ∃ c', blocked.recvResponse 1 = (.error (.transport .timeout), c') ∧ c'.phase = .failed ∧
        ∀ d, c'.Becomes d → ∀ call response, d.answer call ≠ .response (.ok response) := by
  have hf : blocked.awaitFault? 1 = none := by cbv
  have hsettings : blocked.readFrame = (.ok .initialSettings, blocked.readFrame.2) :=
    Prod.ext (by cbv) rfl
  have hheaders : blockedNext.readFrame = (.ok okHeaders, blockedNext.readFrame.2) :=
    Prod.ext (by cbv) rfl
  have hfirst : Round 1 blocked blockedNext := ⟨_, _, hsettings, Prod.ext (by cbv) rfl⟩
  have hsecond : Round 1 blockedNext blockedLast := ⟨_, _, hheaders, Prod.ext (by cbv) rfl⟩
  have hr : Relation.ReflTransGen (Round 1) blocked blockedLast := .tail (.single hfirst) hsecond
  have hs : blockedLast.session.untilStop =
      ([0, 0, 5, 0, 1, 0, 0, 0, 1, 104, 101], .failure (.io ⟨.wouldBlock, ""⟩)) := by cbv
  have hcut : Frame.decode? [0, 0, 5, 0, 1, 0, 0, 0, 1, 104, 101] = none := by decide
  have htake : Frame.Header.take? [0, 0, 5, 0, 1, 0, 0, 0, 1, 104, 101] =
      some (⟨5, .data, ⟨1⟩, 1⟩, [104, 101]) := by decide
  have hsmall : ¬ Oversized [0, 0, 5, 0, 1, 0, 0, 0, 1, 104, 101] := by
    rintro ⟨h, behind, heq, hlim⟩
    rw [htake] at heq
    cases heq
    exact absurd hlim (by decide)
  obtain ⟨e, c', hrecv, hreports⟩ :=
    recvResponse_reportsStop hf hr hs (fun f rest h => by rw [hcut] at h; cases h)
  rw [hreports.timeout.2 ⟨hsmall, .inr rfl⟩] at hrecv
  exact ⟨hf, hr, hs, hcut, c', hrecv, hreports.failed, hreports.lost⟩

end Connection

end Http2
