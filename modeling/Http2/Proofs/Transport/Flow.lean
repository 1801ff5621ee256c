import Mathlib
import Http2.Proofs.Transport.Traffic

/-!
Sessions on which nothing goes wrong. Where the input holds nothing but data and interruptions,
filling a buffer gives the next bytes of the data, however they are cut into events and chunks,
and stops short only at the end of them; where the output takes bytes or is interrupted, writing
always succeeds.
-/

namespace Http2

/-- An interruption, after which the loops of a session try again. -/
def TransportError.IsInterruption (cause : TransportError) : Prop :=
  cause.toSystem.kind = .interrupted

/-- An event that keeps no data back. -/
def ReadEvent.Flows : ReadEvent → Prop
  | .data bytes => bytes ≠ []
  | .fail cause | .pollFail cause => cause.IsInterruption
  | .notReady | .eof => False

/-- An event that refuses no bytes for good. -/
def WriteEvent.Flows : WriteEvent → Prop
  | .accept limit => 0 < limit
  | .fail cause | .pollFail cause => cause.IsInterruption
  | .notReady => False

instance (cause : TransportError) : Decidable cause.IsInterruption := by
  unfold TransportError.IsInterruption
  infer_instance

instance (e : ReadEvent) : Decidable e.Flows := by
  unfold ReadEvent.Flows
  split <;> infer_instance

instance (e : WriteEvent) : Decidable e.Flows := by
  unfold WriteEvent.Flows
  split <;> infer_instance

/-- The input gives all its data: a read is interrupted at most, and no end of the input comes
before the last of the data. -/
structure Transport.Supplies (t : Transport) : Prop where
  input : ∀ e ∈ t.input, e.Flows ∨ e = .eof
  ending : t.input.Pairwise fun e later => e = .eof → ∀ bytes, later ≠ .data bytes
  chunk : t.chunk ≠ some 0

theorem Transport.readLimit_pos {t : Transport} (hk : t.chunk ≠ some 0) {want : Nat}
    (hw : 0 < want) : 0 < t.readLimit want := by
  unfold readLimit
  cases hch : t.chunk with
  | none => simpa using hw
  | some k =>
    have : k ≠ 0 := fun h => hk (by rw [hch, h])
    simp only [Option.getD_some]
    omega

namespace Session

/-- The input gives its data without a failure up to its end. -/
structure Delivers (s : Session) : Prop where
  closed : s.closed = false
  input : ∀ e ∈ s.transport.input, e.Flows
  chunk : s.transport.chunk ≠ some 0

/-- The output takes whatever is written, and every flush succeeds. -/
structure Accepts (s : Session) : Prop where
  closed : s.closed = false
  writes : ∀ e ∈ s.transport.writes, e.Flows
  flushes : ∀ outcome ∈ s.transport.flushes, outcome = none

variable {s s' : Session}

theorem Accepts.of_nil (hc : s.closed = false) (hw : s.transport.writes = [])
    (hf : s.transport.flushes = []) : s.Accepts where
  closed := hc
  writes := by rw [hw]; exact List.forall_mem_nil _
  flushes := by rw [hf]; exact List.forall_mem_nil _

theorem Accepts.of_pulled {bytes : Bytes} (hs : s.Accepts) (h : Pulled s s' bytes) :
    s'.Accepts where
  closed := h.closed.trans hs.closed
  writes := by rw [h.writes]; exact hs.writes
  flushes := by rw [h.flushes]; exact hs.flushes

theorem Delivers.of_pushed {bytes : Bytes} (hs : s.Delivers) (h : Pushed s s' bytes) :
    s'.Delivers where
  closed := h.closed.trans hs.closed
  input := by rw [h.input]; exact hs.input
  chunk := by rw [h.chunk]; exact hs.chunk

theorem Delivers.supplies (hs : s.Delivers) : s.transport.Supplies where
  input := fun e he => .inl (hs.input e he)
  ending := List.pairwise_of_forall_mem_list fun e he _ _ heof => by
    have hflows := hs.input e he
    rw [heof] at hflows
    exact hflows.elim
  chunk := hs.chunk

/-! ### Closed sessions -/

section Closed

variable (hc : s.closed = true)
include hc

theorem read_of_closed (want : Nat) : s.read want = (.error .closed, s) := by
  simp [read, whenReady, hc]

theorem write_of_closed (bytes : Bytes) : s.write bytes = (.error .closed, s) := by
  simp [write, whenReady, hc]

theorem pull_of_closed (want : Nat) : s.pull want = (.error .notConnected, s) := by
  rw [pull, s.read_of_closed hc]
  rfl

theorem push_of_closed (bytes : Bytes) : s.push bytes = (.error .notConnected, s) := by
  rw [push, s.write_of_closed hc]
  rfl

end Closed

/-! ### Reading -/

theorem pull_of_open (hc : s.closed = false) (want : Nat) :
    s.pull want =
      let polls := (Direction.read, s.timeout) :: s.transport.polls
      let after (input : List ReadEvent) : Session :=
        { s with transport := { s.transport with input, polls } }
      match s.transport.input with
      | [] => (.ok [], after [])
      | .data bytes :: rest =>
        (.ok (bytes.take (s.transport.readLimit want)),
          after (Transport.afterData bytes (s.transport.readLimit want) rest))
      | .fail cause :: rest | .pollFail cause :: rest => (.error cause.toSystem, after rest)
      | .notReady :: rest => (.error .timedOut, after rest)
      | .eof :: rest => (.ok [], after rest) := by
  obtain ⟨t, timeout, closed⟩ := s
  simp only at hc
  subst hc
  rcases hin : t.input with _ | ⟨e, rest⟩
  · simp [Session.pull, read, whenReady, Transport.poll, Transport.read, hin, Except.mapError]
  · cases e <;>
      simp [Session.pull, read, whenReady, Transport.poll, Transport.read, hin, Except.mapError,
        TransportError.toSystem, Transport.readLimit]

theorem mem_afterData {bytes : Bytes} {n : Nat} {rest : List ReadEvent} {e : ReadEvent}
    (h : e ∈ Transport.afterData bytes n rest) :
    e ∈ rest ∨ ∃ left, left ≠ [] ∧ e = .data left := by
  unfold Transport.afterData at h
  split at h
  · exact .inl h
  · next hd =>
    rcases List.mem_cons.1 h with rfl | h
    · exact .inr ⟨_, hd, rfl⟩
    · exact .inl h

theorem mem_input_pull {want : Nat} {e : ReadEvent} (h : e ∈ (s.pull want).2.transport.input) :
    e ∈ s.transport.input ∨ ∃ left, left ≠ [] ∧ e = .data left := by
  by_cases hc : s.closed = true
  · rw [pull_of_closed hc] at h
    exact .inl h
  · rw [pull_of_open (by simpa using hc)] at h
    rcases hin : s.transport.input with _ | ⟨front, rest⟩
    · simp [hin] at h
    · have hrest (h : e ∈ rest) : e ∈ front :: rest := List.mem_cons_of_mem _ h
      cases front with
      | data bytes =>
        simp only [hin] at h
        exact (mem_afterData h).imp_left hrest
      | fail | pollFail | notReady | eof =>
        simp only [hin] at h
        exact .inl (hrest h)

theorem unread_eq_nil {t : Transport} (h : ∀ e ∈ t.input, ∀ bytes, e ≠ .data bytes) :
    t.unread = [] := by
  refine List.flatMap_eq_nil_iff.2 fun e he => ?_
  cases e with
  | data bytes => exact absurd rfl (h _ he bytes)
  | fail | pollFail | notReady | eof => rfl

theorem supplies_afterData {t : Transport} {bytes : Bytes} {rest : List ReadEvent} (h : t.Supplies)
    (hin : t.input = .data bytes :: rest) (n : Nat) (polls : List (Direction × Option Nat)) :
    ({ t with input := Transport.afterData bytes n rest, polls } : Transport).Supplies := by
  obtain ⟨hi, he, hk⟩ := h
  rw [hin] at hi he
  refine ⟨fun e hm => ?_, ?_, hk⟩
  · rcases mem_afterData hm with hm | ⟨left, hl, rfl⟩
    · exact hi e (List.mem_cons_of_mem _ hm)
    · exact .inl hl
  · change (Transport.afterData bytes n rest).Pairwise _
    unfold Transport.afterData
    split
    · exact he.of_cons
    · exact List.pairwise_cons.2 ⟨fun _ _ => nofun, he.of_cons⟩

/-- A read on an input that supplies is interrupted, or gives bytes, or there are none left. -/
theorem supplies_pull (hc : s.closed = false) (hs : s.transport.Supplies) {want : Nat}
    (hw : 0 < want) :
    (s.pull want).2.transport.Supplies ∧
      ((∃ e, (s.pull want).1 = .error e ∧ e.kind = .interrupted) ∨
        ∃ bytes, (s.pull want).1 = .ok bytes ∧
          (bytes = [] → (s.pull want).2.transport.unread = [])) := by
  have hlimit := Transport.readLimit_pos hs.chunk hw
  rw [pull_of_open hc]
  rcases hin : s.transport.input with _ | ⟨e, rest⟩
  · refine ⟨⟨nofun, .nil, hs.chunk⟩, .inr ⟨[], rfl, fun _ => rfl⟩⟩
  · have hdata {bytes : Bytes} (he : e = .data bytes) := supplies_afterData hs (he ▸ hin)
      (s.transport.readLimit want) ((Direction.read, s.timeout) :: s.transport.polls)
    obtain ⟨hi, he, hk⟩ := hs
    rw [hin] at hi he
    have hrest : ({ s.transport with
        input := rest, polls := (Direction.read, s.timeout) :: s.transport.polls } :
        Transport).Supplies :=
      ⟨fun e' hm => hi e' (List.mem_cons_of_mem _ hm), he.of_cons, hk⟩
    have hfront := hi e List.mem_cons_self
    cases e with
    | data bytes =>
      refine ⟨hdata rfl, .inr ⟨_, rfl, fun h => ?_⟩⟩
      rcases List.take_eq_nil_iff.1 h with h | h
      · omega
      · rcases hfront with hflows | heof
        · exact absurd h hflows
        · cases heof
    | fail cause | pollFail cause =>
      refine ⟨hrest, .inl ⟨_, rfl, ?_⟩⟩
      rcases hfront with hflows | heof
      · exact hflows
      · cases heof
    | notReady =>
      rcases hfront with hflows | heof
      · exact hflows.elim
      · cases heof
    | eof =>
      -- what stands behind an end of the input is no data
      refine ⟨hrest, .inr ⟨[], rfl, fun _ => unread_eq_nil fun later hm => ?_⟩⟩
      exact List.rel_of_pairwise_cons he hm rfl

theorem supplies_fillFrom (hc : s.closed = false) (hs : s.transport.Supplies) (want : Nat)
    (done : Bytes) :
    ∃ bytes, (s.fillFrom want done).1 = .ok bytes ∧
      (s.fillFrom want done).2.transport.Supplies ∧
      (bytes.length = done.length + want ∨ (s.fillFrom want done).2.transport.unread = []) := by
  fun_induction Session.fillFrom s want done with
  | case1 s done => exact ⟨_, rfl, hs, .inl (by simp)⟩
  | case2 s want done hw s' hp =>
    obtain ⟨hd, h⟩ := supplies_pull hc hs (Nat.pos_of_ne_zero hw)
    rw [hp] at hd h
    rcases h with ⟨e, he, -⟩ | ⟨bytes, hb, hu⟩
    · cases he
    · cases hb
      exact ⟨_, rfl, hd, .inr (hu rfl)⟩
  | case3 s want done hw b bs s' hp _ ih =>
    obtain ⟨hd, -⟩ := supplies_pull hc hs (Nat.pos_of_ne_zero hw)
    obtain ⟨hpulled, hl⟩ := pulled_pull hp
    rw [hp] at hd
    obtain ⟨bytes, hb, hd, h⟩ := ih (hpulled.closed.trans hc) hd
    refine ⟨bytes, hb, hd, h.imp_left fun h => ?_⟩
    -- the read gave no more than was wanted, so what is wanted now is exactly the rest
    simp only [List.length_append, List.length_reverse, List.length_cons] at h hl
    omega
  | case4 s want done hw e s' hp hi _ ih =>
    obtain ⟨hd, -⟩ := supplies_pull hc hs (Nat.pos_of_ne_zero hw)
    rw [hp] at hd
    exact ih ((pulled_pull_of_error hp).closed.trans hc) hd
  | case5 s want done hw e s' hp hi =>
    obtain ⟨-, h⟩ := supplies_pull hc hs (Nat.pos_of_ne_zero hw)
    rw [hp] at h
    rcases h with ⟨e', he, hk⟩ | ⟨bytes, hb, -⟩
    · cases he
      exact absurd hk hi
    · cases hb

theorem mem_input_fillFrom {want : Nat} {done : Bytes} {e : ReadEvent}
    (h : e ∈ (s.fillFrom want done).2.transport.input) :
    e ∈ s.transport.input ∨ ∃ left, left ≠ [] ∧ e = .data left := by
  have hpull {s s' : Session} {want : Nat} {r : Except SystemError Bytes}
      (hp : s.pull want = (r, s')) (h : e ∈ s'.transport.input) :
      e ∈ s.transport.input ∨ ∃ left, left ≠ [] ∧ e = .data left := by
    obtain rfl : (s.pull want).2 = s' := congrArg Prod.snd hp
    exact mem_input_pull h
  fun_induction Session.fillFrom s want done with
  | case1 => exact .inl h
  | case2 s want done _ s' hp => exact hpull hp h
  | case3 s want done _ b bs s' hp _ ih => exact (ih h).elim (hpull hp) .inr
  | case4 s want done _ e s' hp hi _ ih => exact (ih h).elim (hpull hp) .inr
  | case5 s want done _ e s' hp hi => exact hpull hp h

/-- **Filling a buffer gives the next bytes of the data**, or all that are left. -/
theorem supplies_fill (hc : s.closed = false) (hs : s.transport.Supplies) (want : Nat) :
    ∃ s', s.fill want = (.ok (s.transport.unread.take want), s') ∧ s'.transport.Supplies ∧
      Pulled s s' (s.transport.unread.take want) := by
  obtain ⟨bytes, hb, hd, hend⟩ := supplies_fillFrom hc hs want []
  obtain ⟨got, hg, hl, hgot⟩ := pulled_fillFrom s want []
  have hu := hg.unread
  have hbg : bytes = got := by simpa using hgot bytes hb
  subst hbg
  set s' := (s.fillFrom want []).2 with hs'
  have htake : s.transport.unread.take want = bytes := by
    rcases hend with hlen | hnil
    · rw [List.length_nil, Nat.zero_add] at hlen
      rw [hu, ← hlen]
      exact List.take_left' rfl
    · rw [hnil, List.append_nil] at hu
      rw [hu]
      exact List.take_of_length_le hl
  rw [htake]
  exact ⟨s', Prod.ext hb rfl, hd, hg⟩

theorem Delivers.fill (hs : s.Delivers) (want : Nat) :
    ∃ s', s.fill want = (.ok (s.transport.unread.take want), s') ∧ s'.Delivers ∧
      s'.transport.unread = s.transport.unread.drop want := by
  obtain ⟨s', hf, hsup, hp⟩ := supplies_fill hs.closed hs.supplies want
  have hu : s.transport.unread.take want ++ s'.transport.unread =
      s.transport.unread.take want ++ s.transport.unread.drop want := by
    rw [← hp.unread, List.take_append_drop]
  refine ⟨s', hf, ⟨hp.closed.trans hs.closed, fun e he => ?_, hsup.chunk⟩,
    List.append_cancel_left hu⟩
  have hs' : s' = (s.fillFrom want []).2 := (congrArg Prod.snd hf).symm
  rw [hs'] at he
  rcases mem_input_fillFrom he with he | ⟨left, hl, rfl⟩
  · exact hs.input e he
  · exact hl

/-! ### Writing -/

theorem Accepts.push (hs : s.Accepts) {bytes : Bytes} (hb : bytes ≠ []) :
    (s.push bytes).2.Accepts ∧
      ((∃ e, (s.push bytes).1 = .error e ∧ e.kind = .interrupted) ∨
        ∃ n, (s.push bytes).1 = .ok (n + 1)) := by
  obtain ⟨t, timeout, closed⟩ := s
  obtain ⟨hc, hi, hf⟩ := hs
  simp only at hc hi hf
  subst hc
  have hlen : 0 < bytes.length := List.length_pos_iff.2 hb
  set polls := (Direction.write, timeout) :: t.polls with hpolls
  rcases hw : t.writes with _ | ⟨e, rest⟩
  · have hp : (⟨t, timeout, false⟩ : Session).push bytes = (.ok bytes.length,
        ⟨{ t with written := t.written ++ bytes, polls }, timeout, false⟩) := by
      simp [Session.push, write, whenReady, Transport.poll, Transport.write, hw, Except.mapError,
        hpolls]
    rw [hp]
    exact ⟨⟨rfl, hi, hf⟩, .inr ⟨bytes.length - 1, by rw [Nat.sub_add_cancel hlen]⟩⟩
  · rw [hw] at hi
    have hrest : ∀ e ∈ rest, e.Flows := fun e he => hi e (List.mem_cons_of_mem _ he)
    have he : e.Flows := hi e List.mem_cons_self
    cases e with
    | accept limit =>
      have hp : (⟨t, timeout, false⟩ : Session).push bytes = (.ok (bytes.take limit).length,
          ⟨{ t with writes := rest, written := t.written ++ bytes.take limit, polls },
            timeout, false⟩) := by
        simp [Session.push, write, whenReady, Transport.poll, Transport.write, hw, Except.mapError,
          hpolls]
      have htaken : 0 < (bytes.take limit).length := by
        have : 0 < limit := he
        rw [List.length_take]
        omega
      rw [hp]
      exact ⟨⟨rfl, hrest, hf⟩, .inr ⟨(bytes.take limit).length - 1,
        by rw [Nat.sub_add_cancel htaken]⟩⟩
    | fail cause =>
      have hp : (⟨t, timeout, false⟩ : Session).push bytes =
          (.error cause.toSystem, ⟨{ t with writes := rest, polls }, timeout, false⟩) := by
        simp [Session.push, write, whenReady, Transport.poll, Transport.write, hw, Except.mapError,
          hpolls]
      rw [hp]
      exact ⟨⟨rfl, hrest, hf⟩, .inl ⟨_, rfl, he⟩⟩
    | pollFail cause =>
      have hp : (⟨t, timeout, false⟩ : Session).push bytes =
          (.error cause.toSystem, ⟨{ t with writes := rest, polls }, timeout, false⟩) := by
        simp [Session.push, write, whenReady, Transport.poll, hw, Except.mapError, hpolls]
      rw [hp]
      exact ⟨⟨rfl, hrest, hf⟩, .inl ⟨_, rfl, he⟩⟩
    | notReady => exact he.elim

/-- **Writing succeeds** where the output accepts. -/
theorem Accepts.writeAll (hs : s.Accepts) (bytes : Bytes) :
    ∃ s', s.writeAll bytes = (.ok (), s') ∧ s'.Accepts := by
  fun_induction Session.writeAll s bytes with
  | case1 s => exact ⟨s, rfl, hs⟩
  | case2 s bytes hb s' hp =>
    obtain ⟨-, h⟩ := hs.push hb
    rw [hp] at h
    rcases h with ⟨e, he, -⟩ | ⟨n, hn⟩
    · cases he
    · cases hn
  | case3 s bytes hb n s' hp _ ih =>
    obtain ⟨ha, -⟩ := hs.push hb
    rw [hp] at ha
    exact ih ha
  | case4 s bytes hb e s' hp hi _ ih =>
    obtain ⟨ha, -⟩ := hs.push hb
    rw [hp] at ha
    exact ih ha
  | case5 s bytes hb e s' hp hi =>
    obtain ⟨-, h⟩ := hs.push hb
    rw [hp] at h
    rcases h with ⟨e', he, hk⟩ | ⟨n, hn⟩
    · cases he
      exact absurd hk hi
    · cases hn

theorem Accepts.flush (hs : s.Accepts) : ∃ s', s.flush = (.ok (), s') ∧ s'.Accepts := by
  obtain ⟨hc, hi, hf⟩ := hs
  rcases hfl : s.transport.flushes with _ | ⟨o, rest⟩
  · refine ⟨{ s with transport := { s.transport with flushes := [] } }, ?_, hc, hi, by simp⟩
    simp [Session.flush, Transport.flush, Transport.nextOutcome, hfl, Except.mapError]
  · rw [hfl] at hf
    have ho : o = none := hf o List.mem_cons_self
    subst ho
    refine ⟨{ s with transport := { s.transport with flushes := rest } }, ?_, hc, hi,
      fun o ho => hf o (List.mem_cons_of_mem _ ho)⟩
    simp [Session.flush, Transport.flush, Transport.nextOutcome, hfl, Except.mapError]

end Session

end Http2
