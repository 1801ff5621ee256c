import Http2.Proofs.Connection.LifeCycle

/-!
Reachable connections. Whatever came before, a stream of a connection in use has ended or nothing
arrived on it yet, so a wait that begins gathers its response from nothing.
-/

namespace Http2

def Stream.Untouched (s : Stream) : Prop :=
  s = .new s.id ∨ s = (Stream.new s.id).sent

theorem Stream.Untouched.sent {s : Stream} (h : s.Untouched) : s.sent.Untouched := by
  rcases h with h | h
  · exact .inr (by rw [h]; rfl)
  · exact .inr (by rw [h]; rfl)

theorem Stream.Untouched.eq_sent {s : Stream} (h : s.Untouched) (hs : s.state.isAwaiting = true) :
    s = (Stream.new s.id).sent := by
  rcases h with h | h
  · rw [h] at hs
    cases hs
  · exact h

theorem Stream.Registry.mem_modify {r : Registry} {id : Nat} {f : Stream → Stream} {s : Stream} :
    s ∈ (r.modify id f).streams ↔ ∃ s' ∈ r.streams, (if s'.id = id then f s' else s') = s :=
  List.mem_map

namespace Connection

variable {c c' : Connection} {target : Nat}

/-- The connections that a program can come to: one that was opened, after any calls. Between the
calls the program and the peer may do with the session what they like. -/
inductive Reachable : Connection → Prop
  | opened {t : Transport} {timeout : Option Nat} {c : Connection}
      (h : openOn t timeout = (.ok (), c)) : Reachable c
  | call {c : Connection} (h : Reachable c) (call : Call) : Reachable (c.perform call)
  | session {c : Connection} (h : Reachable c) (s : Session) : Reachable { c with session := s }

/-- In a connection in use every stream has ended, or nothing arrived on it. -/
def Settled (c : Connection) : Prop :=
  c.phase.IsUsable → ∀ s ∈ c.streams.streams, s.state = .closed ∨ s.Untouched

/-! ### Requests -/

theorem mem_streams_prepare {e ep : Endpoint} {fs : List Field} {r : Except Error Frame}
    (h : e.prepare fs = (r, ep)) {s : Stream} (hs : s ∈ ep.streams.streams) :
    (s ∈ e.streams.streams ∧ (r.toBool = true → s.state ≠ .closed)) ∨ s = .new s.id := by
  have hdrop {s : Stream} (hs : s ∈ e.streams.dropClosed.streams) :
      s ∈ e.streams.streams ∧ s.state ≠ .closed := by
    simpa [Stream.Registry.dropClosed] using hs
  unfold Endpoint.prepare at h
  split at h
  · simp only at h
    split at h
    · cases h
      exact .inl ⟨(hdrop hs).1, nofun⟩
    · split at h
      · cases h
        exact .inl ⟨(hdrop hs).1, nofun⟩
      · unfold Stream.Registry.create at h
        split at h
        · next hc =>
          split at hc
          · cases hc
          · cases hc
            cases h
            exact .inl ⟨(hdrop hs).1, nofun⟩
        · next hc =>
          split at hc
          · cases hc
            cases h
            rcases List.mem_append.1 hs with hs | hs
            · exact .inl ⟨(hdrop hs).1, fun _ => (hdrop hs).2⟩
            · rw [List.mem_singleton] at hs
              exact .inr (by rw [hs]; rfl)
          · cases hc
  · cases h
    exact .inl ⟨hs, nofun⟩

theorem settled_sendRequest (h : c.Settled) (method authority path : String)
    (extra : List Field) : (c.sendRequest method authority path extra).2.Settled := by
  obtain ⟨ep, hp, ⟨e, hprep, heq⟩ | ⟨f, session, hprep, ⟨cause, sent, -, heq⟩ | ⟨-, heq⟩⟩⟩ :=
    sendRequest_cases c method authority path extra
  · rw [heq]
    intro hu s hs
    rcases mem_streams_prepare hprep hs with ⟨hs, -⟩ | hs
    · exact h (hp ▸ hu) s hs
    · exact .inr (.inl hs)
  · rw [heq]
    exact fun hu => hu.elim
  · rw [heq]
    intro hu s hs
    obtain ⟨s', hs', rfl⟩ := Stream.Registry.mem_modify.1 hs
    -- ended streams were dropped before, so none of them comes back to life
    have hs' : s'.Untouched := by
      rcases mem_streams_prepare hprep hs' with ⟨hm, hopen⟩ | hn
      · exact (h (hp ▸ hu) s' hm).resolve_left (hopen rfl)
      · exact .inl hn
    split
    · exact .inr hs'.sent
    · exact .inr hs'

/-! ### Waits -/

/-- The streams but for the awaited one have ended, or nothing arrived on them. -/
def SettledBut (target : Nat) (c : Connection) : Prop :=
  ∀ s ∈ c.streams.streams, s.id ≠ target → s.state = .closed ∨ s.Untouched

theorem SettledBut.modify {g : Stream → Stream} (h : c.SettledBut target)
    (hg : ∀ s, (g s).id = s.id) (hs : c'.streams = c.streams.modify target g) :
    c'.SettledBut target := by
  intro s hs' hne
  rw [hs] at hs'
  obtain ⟨s', hm, rfl⟩ := Stream.Registry.mem_modify.1 hs'
  split at hne
  · next ht =>
    rw [hg] at hne
    exact absurd ht hne
  · next ht =>
    rw [if_neg ht]
    exact h s' hm ht

theorem LastRound.settled {outcome : Except Error Unit} (hl : LastRound target c outcome c')
    (h : c.SettledBut target) : c'.Settled := by
  have close {d : Connection} {g : Stream → Stream} (hg : ∀ s, (g s).id = s.id)
      (hs : d.streams = c.streams.modify target g) (hcl : ∀ s, (g s).state = .closed) :
      d.Settled := by
    intro _ s hs'
    by_cases ht : s.id = target
    · rw [hs] at hs'
      obtain ⟨s', -, rfl⟩ := Stream.Registry.mem_modify.1 hs'
      split at ht
      · next hid =>
        rw [if_pos hid]
        exact .inl (hcl s')
      · next hid => exact absurd ht hid
    · exact h.modify hg hs s hs' ht
  cases hl with
  | unread hread =>
    obtain ⟨he, -⟩ := readFrame_error hread
    intro hu
    rw [he] at hu
    exact hu.elim
  | @failed f read d e hread hh =>
    obtain ⟨g, hg, hs, hcl⟩ := streams_of_handle hread hh
    by_cases hends : e.EndsStream
    · have hd : d.afterFailure e = d := by
        cases e with
        | streamReset | goAway => rfl
        | _ => exact hends.elim
      rw [hd]
      exact close hg hs (hcl (.inr ⟨e, rfl, hends⟩))
    · rw [afterFailure_of_not_endsStream hends]
      exact fun hu => hu.elim
  | ended hread hh =>
    obtain ⟨g, hg, hs, hcl⟩ := streams_of_handle hread hh
    exact close hg hs (hcl (.inl rfl))

theorem settled_recvResponse (h : c.Settled) (target : Nat) :
    (c.recvResponse target).2.Settled := by
  cases hf : c.awaitFault? target with
  | some e =>
    simp only [recvResponse, hf]
    exact h
  | none =>
    obtain ⟨hu, -⟩ := of_awaitFault?_eq_none hf
    obtain ⟨mid, outcome, d, hr, hl, hcases⟩ := recvResponse_rounds hf
    have hmid : mid.SettledBut target := by
      refine rounds_induction (P := SettledBut target) ?_ (fun s hs _ => h hu s hs) hr
      rintro d d' hd ⟨f, read, hread, hh⟩
      obtain ⟨g, hg, hs, -⟩ := streams_of_handle hread hh
      exact hd.modify hg hs
    have hlast := hl.settled hmid
    rcases hcases with ⟨e, -, heq⟩ | ⟨-, heq⟩
    · rw [heq]
      exact hlast
    · -- taking the response empties the stream and leaves its state
      rw [heq]
      intro hu s hs
      obtain ⟨s', hm, rfl⟩ := Stream.Registry.mem_modify.1 hs
      split
      · rcases hlast hu s' hm with hcl | hun
        · exact .inl hcl
        · right
          rcases hun with hn | hn
          · exact .inl (by rw [hn]; rfl)
          · exact .inr (by rw [hn]; rfl)
      · exact hlast hu s' hm

theorem settled_close (c : Connection) : c.close.2.Settled := by
  intro hu
  rw [phase_close] at hu
  exact hu.elim

/-! ### All reachable connections -/

/-- **Reachable connections are settled.** -/
theorem Reachable.settled (h : Reachable c) : c.Settled := by
  induction h with
  | @opened t timeout c h =>
    have hs : c.streams = .empty := by
      unfold openOn at h
      simp only at h
      split at h
      · cases h
      · split at h
        · cases h
        · cases h
          rfl
    intro _ s hm
    rw [hs] at hm
    cases hm
  | call _ call ih =>
    refine perform_induction (P := Settled) ?_ ?_ ?_ call ih
    · intro d method authority path extra h
      exact settled_sendRequest h method authority path extra
    · intro d target h
      exact settled_recvResponse h target
    · intro d _
      exact settled_close d
  | session _ s ih => exact ih

/-- On a stream whose response is awaited nothing arrived yet. -/
theorem Reachable.find?_awaiting (h : Reachable c) (hu : c.phase.IsUsable)
    (hs : ∃ state, c.streams.state? target = some state ∧ state.isAwaiting = true) :
    c.streams.find? target = some (Stream.new target).sent := by
  obtain ⟨state, hst, haw⟩ := hs
  unfold Stream.Registry.state? at hst
  cases hf : c.streams.find? target with
  | none =>
    rw [hf] at hst
    cases hst
  | some s =>
    rw [hf] at hst
    cases hst
    have hid : s.id = target := by simpa using List.find?_some hf
    have hun : s.Untouched := by
      refine (h.settled hu s (List.mem_of_find?_eq_some hf)).resolve_left fun hcl => ?_
      rw [hcl] at haw
      cases haw
    rw [hun.eq_sent haw, hid]

end Connection

end Http2
