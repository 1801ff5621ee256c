import Http2.Proofs.Frame.Transfer
import Http2.Proofs.Transport.Agreement

/-!
Two transports that carry the same bytes in other pieces. Where neither of them fails, a session
on the one does what a session on the other does: reading a buffer, a frame or the end of the
input, writing, flushing and closing have the same outcome and move the same bytes.
-/

namespace Http2

/-! ### Transports -/

namespace Transport

/-- Nothing fails but for interruptions: the input gives all its data, every write takes a byte,
and every flush succeeds. -/
structure Steady (t : Transport) : Prop extends t.Supplies where
  writes : ∀ e ∈ t.writes, e.Flows
  flushes : ∀ outcome ∈ t.flushes, outcome = none

theorem Steady.flush {t : Transport} (h : t.Steady) :
    t.flush.1 = .ok () ∧ t.flush.2.Steady := by
  obtain ⟨hs, hw, hf⟩ := h
  unfold Transport.flush nextOutcome
  rcases hfl : t.flushes with _ | ⟨o, rest⟩
  · exact ⟨rfl, ⟨hs.input, hs.ending, hs.chunk⟩, hw, nofun⟩
  · rw [hfl] at hf
    obtain rfl : o = none := hf o List.mem_cons_self
    exact ⟨rfl, ⟨hs.input, hs.ending, hs.chunk⟩, hw, fun o ho => hf o (List.mem_cons_of_mem _ ho)⟩

theorem Steady.close {t : Transport} (h : t.Steady) : t.close.2.Steady :=
  ⟨⟨h.input, h.ending, h.chunk⟩, h.writes, h.flushes⟩

/-- Two steady transports carry the same bytes, cut in any way. -/
structure Recut (t t' : Transport) : Prop where
  unread : t'.unread = t.unread
  written : t'.written = t.written
  closes : t'.closes = t.closes
  closeCalls : t'.closeCalls = t.closeCalls
  protocol : t'.protocol = t.protocol
  steady : t.Steady
  steady' : t'.Steady

end Transport

/-! ### Sessions -/

namespace Session

variable {s s' d d' : Session} {bytes : Bytes}

/-- Two sessions on transports that are cut in any way. -/
structure Alike (s s' : Session) : Prop where
  recut : s.transport.Recut s'.transport
  closed : s'.closed = s.closed
  timeout : s'.timeout = s.timeout

theorem accepts_of_steady (h : s.transport.Steady) (hc : s.closed = false) : s.Accepts :=
  ⟨hc, h.writes, h.flushes⟩

theorem steady_of_pulled (h : s.transport.Steady) (hp : Pulled s d bytes)
    (hs : d.transport.Supplies) : d.transport.Steady where
  toSupplies := hs
  writes := by rw [hp.writes]; exact h.writes
  flushes := by rw [hp.flushes]; exact h.flushes

theorem steady_of_pushed (h : s.transport.Steady) (hp : Pushed s d bytes)
    (ha : d.Accepts) : d.transport.Steady where
  input := by rw [hp.input]; exact h.input
  ending := by rw [hp.input]; exact h.ending
  chunk := by rw [hp.chunk]; exact h.chunk
  writes := ha.writes
  flushes := ha.flushes

theorem Alike.pulled (h : Alike s s') (hp : Pulled s d bytes) (hp' : Pulled s' d' bytes)
    (hs : d.transport.Supplies) (hs' : d'.transport.Supplies) : Alike d d' where
  closed := by rw [hp'.closed, hp.closed, h.closed]
  timeout := by rw [hp'.timeout, hp.timeout, h.timeout]
  recut := by
    obtain ⟨hu, hw, hcl, hcc, hpr, hst, hst'⟩ := h.recut
    refine ⟨?_, ?_, ?_, ?_, ?_, steady_of_pulled hst hp hs, steady_of_pulled hst' hp' hs'⟩
    · rw [hp.unread, hp'.unread] at hu
      exact List.append_cancel_left hu
    · rw [hp'.written, hp.written, hw]
    · rw [hp'.closes, hp.closes, hcl]
    · rw [hp'.closeCalls, hp.closeCalls, hcc]
    · rw [hp'.protocol, hp.protocol, hpr]

theorem Alike.pushed (h : Alike s s') (hp : Pushed s d bytes) (hp' : Pushed s' d' bytes)
    (ha : d.Accepts) (ha' : d'.Accepts) : Alike d d' where
  closed := by rw [hp'.closed, hp.closed, h.closed]
  timeout := by rw [hp'.timeout, hp.timeout, h.timeout]
  recut := by
    obtain ⟨hu, hw, hcl, hcc, hpr, hst, hst'⟩ := h.recut
    refine ⟨?_, ?_, ?_, ?_, ?_, steady_of_pushed hst hp ha, steady_of_pushed hst' hp' ha'⟩
    · rw [hp'.unread, hp.unread, hu]
    · rw [hp'.written, hp.written, hw]
    · rw [hp'.closes, hp.closes, hcl]
    · rw [hp'.closeCalls, hp.closeCalls, hcc]
    · rw [hp'.protocol, hp.protocol, hpr]

/-! ### Closed sessions -/

theorem fill_of_closed (hc : s.closed = true) (want : Nat) :
    s.fill want = (if want = 0 then .ok [] else .error .notConnected, s) := by
  unfold fill
  rw [fillFrom]
  split
  · rfl
  · split
    · next h =>
      rw [pull_of_closed hc] at h
      cases h
    · next h =>
      rw [pull_of_closed hc] at h
      cases h
    · next h =>
      rw [pull_of_closed hc] at h
      cases h
      rfl

theorem writeAll_of_closed (hc : s.closed = true) (bytes : Bytes) :
    s.writeAll bytes = (if bytes = [] then .ok () else .error .notConnected, s) := by
  rw [writeAll]
  split
  · rfl
  · split
    · next h =>
      rw [push_of_closed hc] at h
      cases h
    · next h =>
      rw [push_of_closed hc] at h
      cases h
    · next h =>
      rw [push_of_closed hc] at h
      cases h
      rfl

/-! ### Operations on both sides -/

section Operations

variable (h : Alike s s')
include h

/-- **Filling a buffer** does not depend on the pieces that the bytes come in. -/
theorem Alike.fill (want : Nat) : Agree Alike (s.fill want) (s'.fill want) := by
  by_cases hc : s.closed = true
  · exact .of_eq (fill_of_closed hc want) (fill_of_closed (h.closed.trans hc) want) h
  · have hopen : s.closed = false := by simpa using hc
    obtain ⟨d, hf, hs, hp⟩ := supplies_fill hopen h.recut.steady.toSupplies want
    obtain ⟨d', hf', hs', hp'⟩ :=
      supplies_fill (h.closed.trans hopen) h.recut.steady'.toSupplies want
    rw [h.recut.unread] at hf' hp'
    exact .of_eq hf hf' (h.pulled hp hp' hs hs')

/-- **Writing** does not depend on how many bytes are taken at a time. -/
theorem Alike.writeAll (bytes : Bytes) : Agree Alike (s.writeAll bytes) (s'.writeAll bytes) := by
  by_cases hc : s.closed = true
  · exact .of_eq (writeAll_of_closed hc bytes) (writeAll_of_closed (h.closed.trans hc) bytes) h
  · have hopen : s.closed = false := by simpa using hc
    have hopen' := h.closed.trans hopen
    obtain ⟨d, hw, ha⟩ := (accepts_of_steady h.recut.steady hopen).writeAll bytes
    obtain ⟨d', hw', ha'⟩ := (accepts_of_steady h.recut.steady' hopen').writeAll bytes
    exact .of_eq hw hw' (h.pushed (pushed_of_writeAll hw) (pushed_of_writeAll hw') ha ha')

theorem Alike.flush : Agree Alike s.flush s'.flush := by
  obtain ⟨⟨hu, hw, hcl, hcc, hpr, hst, hst'⟩, hc, ht⟩ := h
  obtain ⟨ho, hst⟩ := hst.flush
  obtain ⟨ho', hst'⟩ := hst'.flush
  have hok {t : Transport} (h : t.flush.1 = .ok ()) :
      t.flush.1.mapError TransportError.toSystem = .ok () := by
    rw [h]
    rfl
  exact .of_eq (Prod.ext (hok ho) rfl) (Prod.ext (hok ho') rfl)
    ⟨⟨hu, hw, hcl, hcc, hpr, hst, hst'⟩, hc, ht⟩

theorem Alike.close : Agree Alike s.close s'.close := by
  obtain ⟨⟨hu, hw, hcl, hcc, hpr, hst, hst'⟩, hc, ht⟩ := h
  unfold Session.close
  rw [hc]
  split
  · exact .intro _ ⟨⟨hu, hw, hcl, hcc, hpr, hst, hst'⟩, hc, ht⟩
  · refine .of_eq rfl (Prod.ext ?_ rfl) ⟨⟨hu, hw, ?_, ?_, hpr, hst.close, hst'.close⟩, rfl, ht⟩
    · exact congrArg (fun closes => (Transport.nextOutcome closes).1) hcl
    · exact congrArg (fun closes => (Transport.nextOutcome closes).2) hcl
    · exact congrArg (· + 1) hcc

/-! ### Frames -/

/-- **Reading a frame** does not depend on the pieces that its bytes come in. -/
theorem Alike.readFrameUpTo (limit : Nat) :
    Agree Alike (s.readFrameUpTo limit) (s'.readFrameUpTo limit) :=
  agree_readFrameUpTo (fun _ _ want h => h.fill want) h limit

theorem Alike.writeFrame (f : Frame) : Agree Alike (s.writeFrame f) (s'.writeFrame f) :=
  agree_writeFrame (fun _ _ bytes h => h.writeAll bytes) (fun _ _ h => h.flush) h f

theorem Alike.sendPreface : Agree Alike s.sendPreface s'.sendPreface := by
  unfold Session.sendPreface
  have hwrite := h.writeAll preface
  generalize s.writeAll preface = x, s'.writeAll preface = y at hwrite
  cases hwrite with | intro r h₁ =>
  rcases r with e | u
  · exact .intro _ h₁
  · exact h₁.writeFrame .initialSettings

end Operations

end Session

end Http2
