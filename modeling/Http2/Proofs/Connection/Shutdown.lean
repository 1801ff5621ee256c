import Http2.Proofs.Connection.Exchange
import Http2.Proofs.Connection.Insertion
import Http2.Proofs.Connection.Phase

/-!
Shutdowns of the peer. Once a GOAWAY frame was taken in, no request goes out any more. A response
is only handed over on a stream that the last shutdown before the wait and every one during it still
serve; a wait fails for a shutdown exactly if it takes one in that leaves the awaited stream out, and
any other shutdown does not change how it ends.
-/

namespace Http2

/-! ### The phase -/

namespace Frame

/-- The last shutdown among the frames. -/
def lastShutdown? (fs : List Frame) : Option Frame := fs.reverse.find? (·.IsShutdown)

/-- The phase of a connection in use that took the frames in. -/
def phaseAfter (fs : List Frame) : Phase :=
  match lastShutdown? fs with
  | none => .ready
  | some f => .draining f.lastStream

theorem phaseAfter_concat (fs : List Frame) (f : Frame) :
    phaseAfter (fs ++ [f]) = if f.IsShutdown then .draining f.lastStream else phaseAfter fs := by
  unfold phaseAfter lastShutdown?
  rw [List.reverse_append, List.reverse_singleton, List.singleton_append, List.find?_cons]
  by_cases h : f.IsShutdown <;> simp [h]

theorem phaseAfter_ne_ready {fs : List Frame} {f : Frame} (hf : f ∈ fs) (h : f.IsShutdown) :
    phaseAfter fs ≠ .ready := by
  unfold phaseAfter lastShutdown?
  split
  · next hnone =>
    have := List.find?_eq_none.1 hnone f (List.mem_reverse.2 hf)
    exact absurd (by simpa using h) this
  · exact nofun

/-- The frame is a shutdown that leaves the stream `target` out. -/
def Refuses (target : Nat) (f : Frame) : Prop := f.IsShutdown ∧ f.lastStream < target

instance (target : Nat) (f : Frame) : Decidable (f.Refuses target) := by
  unfold Refuses
  infer_instance

/-- The frame is a shutdown that still serves the stream `target`, and the client takes it. -/
def Spares (target : Nat) (f : Frame) : Prop :=
  f.IsShutdown ∧ target ≤ f.lastStream ∧ f.payload.length ≤ Connection.payloadLimit

instance (target : Nat) (f : Frame) : Decidable (f.Spares target) := by
  unfold Spares
  infer_instance

theorem Refuses.fatal {target : Nat} {f : Frame} (h : f.Refuses target) (t : Hpack.Table) :
    f.Fatal t target := by
  obtain ⟨⟨hk, -⟩, hl⟩ := h
  simp only [Fatal, hk]
  exact .inr hl

/-- Among the frames, `f` leaves the stream `target` out, and none before it closes that stream or is
fatal. -/
def RefusesAmong (target : Nat) (t : Hpack.Table) (fs : List Frame) (f : Frame) : Prop :=
  ∃ pre post, fs = pre ++ f :: post ∧ f.Refuses target ∧ (∀ g ∈ pre, ¬ g.Closes target) ∧
    Pass target t pre

end Frame

namespace Endpoint

variable {e : Endpoint} {target : Nat} {f : Frame}

theorem Trace.phase {es : List Event} {e : Endpoint} (h : Trace es e) :
    e.phase = Frame.phaseAfter (es.flatMap Event.incoming) := by
  induction h with
  | opened => rfl
  | sent _ prepared ih =>
    simpa [Event.incoming, markSent, ← ih] using (Keeps.of_prepare prepared).phase
  | refused _ prepared ih => simpa [Event.incoming, ← ih] using (Keeps.of_prepare prepared).phase
  | came _ _ ih =>
    rw [phase_receive, List.flatMap_append, List.flatMap_singleton, Event.incoming,
      Frame.phaseAfter_concat, ← ih]
    rfl
  | taken _ target ih => exact ih

theorem not_endsStream_of_awaitFault? {err : Error} (h : e.awaitFault? target = some err) :
    ¬ err.EndsStream := by
  have hstream (h : e.streamFault? target = some err) : ¬ err.EndsStream := by
    simp only [streamFault?] at h
    split at h
    · cases h
    · cases h
      exact id
  unfold awaitFault? at h
  split at h
  · cases h
    exact id
  · cases h
    exact id
  · split at h
    · cases h
      exact id
    · exact hstream h
  · exact hstream h

/-- Once a frame was read for the response on `target`, the endpoints differ in the phase at most. -/
def SameBarPhase (target : Nat) (e e' : Endpoint) : Prop :=
  ∃ p, e'.noteFrame target = (e.noteFrame target).inPhase p

theorem SameBarPhase.responseOn_eq {e e' : Endpoint} (h : SameBarPhase target e e') :
    e'.responseOn target = e.responseOn target := by
  obtain ⟨p, h⟩ := h
  rw [← responseOn_noteFrame e', ← responseOn_noteFrame e, h]
  rfl

end Endpoint

namespace Connection

open Session

variable {c d c' mid : Connection} {target : Nat} {f : Frame}

/-! ### The frames of a wait -/

/-- From `c` to `mid` a wait took the frames `fs` in, and none of them ended it. -/
structure TookIn (target : Nat) (c mid : Connection) (fs : List Frame) : Prop where
  exchanges : c.Exchanges mid fs (fs.filterMap Frame.dueReply)
  goesOn : ∀ g ∈ fs, ¬ g.Closes target
  pass : Frame.Pass target c.decoder fs
  usable : mid.phase.IsUsable

/-- A round that goes on took a frame in that neither closes the stream nor is fatal. -/
theorem Round.tookIn (h : Round target c c') (hu : c.phase.IsUsable) :
    ∃ f : Frame, c.Exchanges c' [f] f.dueReply.toList ∧ ¬ f.Closes target ∧
      ¬ f.Fatal c.decoder target ∧ c'.decoder = f.tableAfter c.decoder := by
  obtain ⟨f, read, hread, hh⟩ := h
  obtain ⟨hend, hout⟩ := receive_of_handle hh
  rw [toEndpoint_noted hread] at hend hout
  have hgoes : ((c.noteFrame target).receive target f).outcome = .ok false := by
    rcases hout with ⟨hsame, -⟩ | ⟨cause, hio⟩
    · exact hsame
    · cases hio
  have hfatal : ¬ f.Fatal c.decoder target := by
    intro hf
    obtain ⟨ep, err, hfail⟩ := Endpoint.receive_of_fatal (e := c.noteFrame target) hf
    rw [hfail] at hgoes
    cases hgoes
  obtain ⟨houtcome, hdecoder, -⟩ := Endpoint.takes_receive (e := c.noteFrame target) hfatal
  refine ⟨f, exchanges_of_handle_ok hu hread hh, ?_, hfatal, ?_⟩
  · intro hc
    rw [houtcome, decide_eq_true hc] at hgoes
    cases hgoes
  · rw [hend, hdecoder]
    rfl

theorem tookIn_rounds (hr : Relation.ReflTransGen (Round target) c mid) (hu : c.phase.IsUsable) :
    ∃ fs, TookIn target c mid fs := by
  induction hr using Relation.ReflTransGen.head_induction_on with
  | refl => exact ⟨[], .refl _, nofun, Frame.pass_nil _ _, hu⟩
  | head hround _ ih =>
    obtain ⟨f, hone, hc, hfatal, hdecoder⟩ := hround.tookIn hu
    obtain ⟨fs, hmore, hgoes, hpass, hmid⟩ := ih (hround.drains.isUsable hu)
    refine ⟨f :: fs, ?_, ?_, ?_, hmid⟩
    · have hall := hone.trans hmore
      rwa [← filterMap_singleton, ← List.filterMap_append] at hall
    · intro g hg
      rcases List.mem_cons.1 hg with rfl | hg
      · exact hc
      · exact hgoes g hg
    · rw [Frame.pass_cons, ← hdecoder]
      exact ⟨hfatal, hpass⟩

/-- A frame that ends a wait makes it fail for a shutdown exactly if it is one that leaves the stream
out. -/
theorem goAway_of_handle {read : Connection} {outcome : Except Error Bool}
    (hh : read.handle target f = (outcome, d)) (hlast : outcome ≠ .ok false) :
    (f.IsShutdown → f.lastStream < target ∧ outcome = .error f.refusal) ∧
      ∀ last code debug, outcome = .error (.goAway last code debug) → f.Refuses target := by
  have hshutdown (hs : f.IsShutdown) : f.lastStream < target ∧ outcome = .error f.refusal := by
    have hrec := Endpoint.receive_of_isShutdown read.toEndpoint target hs
    have hnone : (read.toEndpoint.receive target f).reply = none := by
      rw [hrec]
      split <;> rfl
    rw [handle_of_reply_none hnone, hrec] at hh
    split at hh
    · next hl =>
      cases hh
      exact ⟨hl, rfl⟩
    · cases hh
      exact absurd rfl hlast
  refine ⟨hshutdown, fun last code debug hgo => ?_⟩
  subst hgo
  obtain ⟨-, ⟨hsame, -⟩ | ⟨cause, hio⟩⟩ := receive_of_handle hh
  · have hs := Endpoint.isShutdown_of_goAway hsame
    exact ⟨hs, (hshutdown hs).1⟩
  · cases hio

/-- The last round of a wait takes a frame in, or a part of one. It fails for a shutdown if it takes
one in, and that one leaves the stream out. -/
theorem LastRound.shutdown {outcome : Except Error Unit} (h : LastRound target c outcome c')
    (hu : c.phase.IsUsable) :
    ∃ ins, c.Exchanges c' ins (ins.filterMap Frame.dueReply) ∧
      (∀ f ∈ ins, f.IsShutdown →
        ins = [f] ∧ f.lastStream < target ∧ outcome = .error f.refusal) ∧
      ∀ last code debug, outcome = .error (.goAway last code debug) →
        ∃ f, ins = [f] ∧ f.Refuses target := by
  cases h with
  | unread hread =>
    obtain ⟨-, hne, -⟩ := readFrame_error hread
    refine ⟨[], exchanges_of_readFrame_error hu hread, List.forall_mem_nil _,
      fun last code debug hgo => ?_⟩
    cases hgo
    exact absurd trivial hne
  | @failed f read d e hread hh =>
    obtain ⟨hshutdown, hgoAway⟩ := goAway_of_handle hh nofun
    refine ⟨[f], ?_, fun g hg hs => ?_, fun last code debug hgo => ⟨f, rfl, ?_⟩⟩
    · rw [filterMap_singleton]
      exact exchanges_of_handle_error hu hread hh
    · obtain rfl := List.mem_singleton.1 hg
      obtain ⟨hl, heq⟩ := hshutdown hs
      exact ⟨rfl, hl, congrArg Except.error (Except.error.inj heq)⟩
    · cases hgo
      exact hgoAway last code debug rfl
  | @ended f read c' hread hh =>
    obtain ⟨hshutdown, -⟩ := goAway_of_handle hh nofun
    refine ⟨[f], ?_, fun g hg hs => ?_, nofun⟩
    · rw [filterMap_singleton]
      exact exchanges_of_handle_ok hu hread hh
    · obtain rfl := List.mem_singleton.1 hg
      cases (hshutdown hs).2

/-! ### Whole waits -/

/-- The frames that the wait for the response on `target` takes in. -/
def framesAwaiting (c : Connection) (target : Nat) : List Frame :=
  (c.recvResponse target).2.framesTaken c.session.transport

/-- A wait took the frames `before` in, which did not end it, and then the one in `last`, which did.
That one is missing if the wait failed inside a frame. -/
structure EndsWith (target : Nat) (c : Connection) (before last : List Frame) : Prop where
  frames : c.framesAwaiting target = before ++ last
  goesOn : ∀ g ∈ before, ¬ g.Closes target
  pass : Frame.Pass target c.decoder before
  shutdown : ∀ f ∈ last, f.IsShutdown → last = [f] ∧ f.lastStream < target ∧
    (c.recvResponse target).1 = .error f.refusal
  goAway : ∀ l code debug, (c.recvResponse target).1 = .error (.goAway l code debug) →
    ∃ f, last = [f] ∧ f.Refuses target

theorem exists_endsWith (hf : c.awaitFault? target = none) :
    ∃ before last, EndsWith target c before last := by
  obtain ⟨hu, -⟩ := of_awaitFault?_eq_none hf
  obtain ⟨mid, outcome, d, hr, hl, hcases⟩ := recvResponse_rounds hf
  obtain ⟨before, htook⟩ := tookIn_rounds hr hu
  obtain ⟨last, hlast, hshutdown, hgoAway⟩ := hl.shutdown htook.usable
  have hall := htook.exchanges.trans hlast
  refine ⟨before, last, ?_⟩
  rcases hcases with ⟨e, rfl, heq⟩ | ⟨rfl, heq⟩
  · refine ⟨?_, htook.goesOn, htook.pass, fun f hf hs => ?_, fun l code debug hgo => ?_⟩
    · rw [framesAwaiting, heq]
      exact hall.framesTaken_eq rfl
    · obtain ⟨hone, hl, herr⟩ := hshutdown f hf hs
      rw [heq]
      exact ⟨hone, hl, congrArg Except.error (Except.error.inj herr)⟩
    · rw [heq] at hgo
      exact hgoAway l code debug (congrArg Except.error (Except.error.inj hgo))
  · refine ⟨?_, htook.goesOn, htook.pass, fun f hf hs => ?_, fun l code debug hgo => ?_⟩
    · rw [framesAwaiting, heq]
      exact (hall.congr rfl rfl rfl).framesTaken_eq rfl
    · cases (hshutdown f hf hs).2.2
    · rw [heq] at hgo
      cases hgo

theorem EndsWith.mem_last {before last : List Frame} (h : EndsWith target c before last)
    (hf : f ∈ c.framesAwaiting target) (hr : f.Refuses target) : f ∈ last := by
  rw [h.frames] at hf
  refine (List.mem_append.1 hf).resolve_left fun hf => ?_
  obtain ⟨pre, post, rfl⟩ := List.append_of_mem hf
  exact h.pass pre f post rfl (hr.fatal _)

theorem framesAwaiting_of_awaitFault? {e : Error} (hf : c.awaitFault? target = some e) :
    c.framesAwaiting target = [] ∧
      ∀ l code debug, (c.recvResponse target).1 ≠ .error (.goAway l code debug) := by
  have hwait : c.recvResponse target = (.error e, c) := by
    simp only [recvResponse, hf]
  refine ⟨?_, fun l code debug hgo => ?_⟩
  · rw [framesAwaiting, hwait]
    exact (Exchanges.refl c).framesTaken_eq rfl
  · rw [hwait] at hgo
    cases hgo
    exact Endpoint.not_endsStream_of_awaitFault? hf trivial

/-- **A wait fails for a shutdown** exactly if it takes one in that leaves its stream out. -/
theorem goAway_iff (c : Connection) (target : Nat) :
    (∃ l code debug, (c.recvResponse target).1 = .error (.goAway l code debug)) ↔
      ∃ f : Frame, f.RefusesAmong target c.decoder (c.framesAwaiting target) := by
  cases hf : c.awaitFault? target with
  | some e =>
    obtain ⟨hnil, hne⟩ := framesAwaiting_of_awaitFault? hf
    rw [hnil]
    refine ⟨fun ⟨l, code, debug, hgo⟩ => absurd hgo (hne l code debug), ?_⟩
    rintro ⟨f, pre, post, hframes, -⟩
    simp at hframes
  | none =>
    obtain ⟨before, last, h⟩ := exists_endsWith hf
    constructor
    · rintro ⟨l, code, debug, hgo⟩
      obtain ⟨f, rfl, hr⟩ := h.goAway l code debug hgo
      exact ⟨f, before, [], h.frames, hr, h.goesOn, h.pass⟩
    · rintro ⟨f, pre, post, hframes, hr, -⟩
      have hmem := h.mem_last (by rw [hframes]; simp) hr
      exact ⟨_, _, _, (h.shutdown f hmem hr.1).2.2⟩

/-- A shutdown that leaves the stream out is what the wait reports. It ends the stream, and the
connection drains. -/
theorem recvResponse_of_refuses (hf : f.RefusesAmong target c.decoder (c.framesAwaiting target)) :
    (c.recvResponse target).1 = .error f.refusal ∧
      (c.recvResponse target).2.phase = .draining f.lastStream ∧
      (c.recvResponse target).2.streams.state? target = some .closed := by
  obtain ⟨pre, post, hframes, hr, -⟩ := hf
  have hmem : f ∈ c.framesAwaiting target := by
    rw [hframes]
    simp
  cases hfault : c.awaitFault? target with
  | some e =>
    rw [(framesAwaiting_of_awaitFault? hfault).1] at hmem
    cases hmem
  | none =>
    obtain ⟨before, last, h⟩ := exists_endsWith hfault
    have herr := (h.shutdown f (h.mem_last hmem hr) hr.1).2.2
    obtain ⟨mid, -, -, hleft⟩ := leftBy_recvResponse hfault herr
    exact ⟨herr, hleft⟩

/-- **No response** is handed over on a stream that a shutdown leaves out that the wait takes in. -/
theorem le_lastStream_of_ok {response : Response} (hok : (c.recvResponse target).1 = .ok response)
    (hf : f ∈ c.framesAwaiting target) (hs : f.IsShutdown) : target ≤ f.lastStream := by
  cases hfault : c.awaitFault? target with
  | some e =>
    rw [(framesAwaiting_of_awaitFault? hfault).1] at hf
    cases hf
  | none =>
    obtain ⟨before, last, h⟩ := exists_endsWith hfault
    refine Nat.le_of_not_lt fun hl => ?_
    have herr := (h.shutdown f (h.mem_last hf ⟨hs, hl⟩) hs).2.2
    rw [hok] at herr
    cases herr

/-! ### Shutdowns that serve the stream -/

theorem respects_sameBarPhase (target : Nat) : Respects target (Endpoint.SameBarPhase target) where
  receive := by
    rintro e e' ⟨p, h⟩ f
    rw [h, Endpoint.receive_inPhase]
    exact ⟨rfl, rfl, _, rfl⟩
  failed := by
    rintro e e' ⟨p, h⟩
    exact ⟨.failed, congrArg (·.inPhase .failed) h⟩

theorem overlooks_spares (target : Nat) :
    Overlooks target (·.Spares target) (Endpoint.SameBarPhase target) where
  toRespects := respects_sameBarPhase target
  length_le := fun h => h.2.2
  skip := by
    rintro e e' f ⟨p, h⟩ ⟨hs, hl, -⟩
    refine ⟨_, (Endpoint.receive_of_isShutdown _ target hs).trans (if_neg (Nat.not_lt.2 hl)),
      .draining f.lastStream, ?_⟩
    have hnoted : ((e'.noteFrame target).noteFrame target).inPhase (.draining f.lastStream) =
        (e.noteFrame target).inPhase (.draining f.lastStream) := by
      rw [Endpoint.noteFrame_noteFrame, h]
      rfl
    exact hnoted

/-- **Shutdowns that serve the stream** do not change how a wait ends. -/
theorem recvResponse_of_spares {a b : Bytes} {rest : List Arrival}
    (hfault : d.awaitFault? target = c.awaitFault? target)
    (he : d.toEndpoint = c.toEndpoint.inPhase d.phase) (ho : c.session.SameOutput d.session)
    (hw : Frame.Woven (·.Spares target) a b)
    (hc : c.session.Meets (Arrival.bytes a ++ rest))
    (hd : d.session.Meets (Arrival.bytes b ++ rest)) :
    (d.recvResponse target).1 = (c.recvResponse target).1 := by
  cases hf : c.awaitFault? target with
  | some e => simp only [recvResponse, hfault, hf]
  | none =>
    have hsame : Endpoint.SameBarPhase target c.toEndpoint d.toEndpoint :=
      ⟨d.phase, congrArg (·.noteFrame target) he⟩
    obtain ⟨hwait, -⟩ := (overlooks_spares target).awaitEnd hw ⟨hsame, ho⟩ hc hd
    exact (agree_recvResponse (F := fun _ _ => True) hwait hf (hfault.trans hf)
      (fun e e' h => h.responseOn_eq) fun _ _ _ => ⟨trivial, trivial⟩).fst_eq

/-! ### Runs -/

/-- From `c` to `d` no request was handed to the transport: all that was are frames of other kinds,
and a peer reads them as that. -/
def NoRequest (c d : Connection) : Prop :=
  ∃ ins outs, c.Exchanges d ins outs ∧ ∀ g ∈ outs, g.onWire = g ∧ g.kind ≠ .headers

theorem requestFramesOf_of_not_ready (h : c.phase ≠ .ready) (calls : List Call) :
    c.requestFramesOf calls = [] := by
  induction calls generalizing c with
  | nil => rfl
  | cons call calls ih =>
    have hnone : c.requestFrames call = [] := by
      refine List.filterMap_eq_nil_iff.2 fun fields _ => ?_
      simp only [Endpoint.requestFrame?, Endpoint.prepare, if_neg h, Except.toOption]
    have hready : c.isReady = false := by simpa [Endpoint.isReady] using h
    have hnext : (c.run [call]).phase ≠ .ready := by
      simpa [Endpoint.isReady] using isReady_run hready [call]
    rw [requestFramesOf, hnone, List.nil_append]
    exact ih hnext

theorem noRequest_run (h : c.phase ≠ .ready) (calls : List Call) : NoRequest c (c.run calls) := by
  obtain ⟨ins, outs, hrun, hwire, houts⟩ := exchanges_run c calls
  rw [requestFramesOf_of_not_ready h] at houts
  refine ⟨ins, outs, hrun, fun g hg => ⟨hwire g hg, ?_⟩⟩
  simpa using List.filter_eq_nil_iff.1 houts g hg

/-- Once a call has made its request, it hands no further one over. -/
theorem noRequest_perform (c : Connection) (call : Call) :
    NoRequest (c.afterRequest call) (c.perform call) := by
  obtain ⟨ins, hwait⟩ := exchanges_call c call
  refine ⟨ins, _, hwait, fun g hg => ?_⟩
  obtain ⟨f, -, hdue⟩ := List.mem_filterMap.1 hg
  exact ⟨Frame.onWire_of_dueReply hdue, Frame.kind_of_dueReply hdue⟩

section Runs

variable {t : Transport} {timeout : Option Nat} (hopen : openOn t timeout = (.ok (), c))
  (calls : List Call)
include hopen

theorem phase_run (hu : (c.run calls).phase.IsUsable) :
    (c.run calls).phase = Frame.phaseAfter ((c.run calls).framesTaken t) := by
  obtain ⟨es, h⟩ := exists_follows_run hopen calls hu
  rw [h.framesTaken_eq, h.trace.phase]

theorem phase_run_ne_ready (hf : f ∈ (c.run calls).framesTaken t) (hs : f.IsShutdown) :
    (c.run calls).phase ≠ .ready := by
  intro hready
  refine Frame.phaseAfter_ne_ready hf hs ?_
  rw [← phase_run hopen calls (by rw [hready]; trivial), hready]

theorem framesTaken_afterRequest (call : Call) :
    ((c.run calls).afterRequest call).framesTaken t = (c.run calls).framesTaken t := by
  obtain ⟨ins, outs, hrun, -⟩ := exchanges_run c calls
  obtain ⟨-, hunread⟩ := toEndpoint_of_openOn hopen
  have hsend := hrun.trans (exchanges_afterRequest (c.run calls) call)
  rw [hrun.framesTaken_eq hunread, hsend.framesTaken_eq hunread, List.append_nil]

theorem le_lastShutdown_of_ok {response : Response}
    (hok : ((c.run calls).recvResponse target).1 = .ok response)
    (hf : f ∈ Frame.lastShutdown? ((c.run calls).framesTaken t)) : target ≤ f.lastStream := by
  have hfault : (c.run calls).awaitFault? target = none := by
    cases h : (c.run calls).awaitFault? target with
    | none => rfl
    | some e =>
      simp only [recvResponse, h] at hok
      cases hok
  obtain ⟨hu, -⟩ := of_awaitFault?_eq_none hfault
  have hphase := phase_run hopen calls hu
  rw [Frame.phaseAfter, Option.mem_def.1 hf] at hphase
  unfold Endpoint.awaitFault? at hfault
  rw [hphase] at hfault
  simp only at hfault
  split at hfault
  · cases hfault
  · next hl => exact Nat.le_of_not_lt hl

end Runs

/-- How a connection that took the frames `before` in waits for the response on `target` in view of
shutdowns. -/
structure Heeds (target : Nat) (c : Connection) (before : List Frame) : Prop where
  /-- A response comes only on a stream that the last shutdown before the wait and every one during
  it still serve. -/
  served : ∀ response, (c.recvResponse target).1 = .ok response →
    (∀ f ∈ Frame.lastShutdown? before, target ≤ f.lastStream) ∧
      ∀ f ∈ c.framesAwaiting target, f.IsShutdown → target ≤ f.lastStream
  refused_iff : (∃ l code debug, (c.recvResponse target).1 = .error (.goAway l code debug)) ↔
    ∃ f : Frame, f.RefusesAmong target c.decoder (c.framesAwaiting target)
  refused : ∀ f : Frame, f.RefusesAmong target c.decoder (c.framesAwaiting target) →
    (c.recvResponse target).1 = .error f.refusal ∧
      (c.recvResponse target).2.phase = .draining f.lastStream ∧
      (c.recvResponse target).2.streams.state? target = some .closed
  /-- What comes in are the bytes `b`, which are `a` with shutdowns in between that still serve the
  stream. The wait ends as that of a connection to which only `a` comes, also if the phase of that
  one is another one as shutdowns before are missing. -/
  spared : ∀ (d : Connection) (a b : Bytes) (rest : List Arrival),
    Frame.Woven (·.Spares target) a b → c.session.Meets (Arrival.bytes b ++ rest) →
    d.session.Meets (Arrival.bytes a ++ rest) → d.session.SameOutput c.session →
    d.toEndpoint = c.toEndpoint.inPhase d.phase → d.awaitFault? target = c.awaitFault? target →
    (c.recvResponse target).1 = (d.recvResponse target).1

/-- **Shutdowns over whole runs.** On a connection that was opened, whatever is called: once a
shutdown was taken in, no request goes out in any further calls, nor in the rest of the call that
took it in: a call makes its request before it takes any frame in, and none afterwards. A wait hands
a response over only if the last shutdown before it and all that it takes in still serve its stream.
It fails for a shutdown exactly if it takes one in that leaves its stream out, before any frame that
closes the stream or breaks the wait off; then it reports what that shutdown says, the stream is
closed and the connection drains. Other shutdowns do not change how it ends. -/
theorem shutdown_run {t : Transport} {timeout : Option Nat}
    (hopen : openOn t timeout = (.ok (), c)) (calls : List Call) :
    (∀ f ∈ (c.run calls).framesTaken t, f.IsShutdown →
      ∀ more, NoRequest (c.run calls) ((c.run calls).run more)) ∧
    (∀ call, ((c.run calls).afterRequest call).framesTaken t = (c.run calls).framesTaken t ∧
      NoRequest ((c.run calls).afterRequest call) ((c.run calls).perform call)) ∧
    ∀ target, Heeds target (c.run calls) ((c.run calls).framesTaken t) := by
  refine ⟨fun f hf hs more => noRequest_run (phase_run_ne_ready hopen calls hf hs) more,
    fun call => ⟨framesTaken_afterRequest hopen calls call, noRequest_perform _ call⟩,
    fun target => ⟨fun response hok => ⟨?_, ?_⟩, ?_, ?_, ?_⟩⟩
  · exact fun f hf => le_lastShutdown_of_ok hopen calls hok hf
  · exact fun f hf hs => le_lastStream_of_ok hok hf hs
  · exact goAway_iff _ target
  · exact fun f hf => recvResponse_of_refuses hf
  · exact fun d a b rest hw hc hd ho he hfault =>
      recvResponse_of_spares hfault.symm (by rw [he]; rfl) ho hw hd hc

def lastThree : Frame :=
  ⟨.goaway, ⟨0⟩, 0, [0, 0, 0, 3, 0, 0, 0, 0], eight_le_maxPayload, Nat.zero_le maxStreamId⟩

def lastOne : Frame :=
  ⟨.goaway, ⟨0⟩, 0, [0, 0, 0, 1, 0, 0, 0, 2, 98, 121, 101], eleven_le_maxPayload,
    Nat.zero_le maxStreamId⟩

/-- The response on stream 1 comes between both. -/
def leaving : Transport :=
  { input := [.data (lastThree.encode ++ okHeaders.encode), .data lastData.encode,
      .data lastOne.encode]
    protocol := some protocolName }

/-- A connection on it with two requests out. -/
def asked : Connection :=
  (openOn leaving none).2.run [.sendRequest "GET" "a" "/" [], .sendRequest "GET" "a" "/" []]

def askedOther : Connection :=
  { asked with
    session := { asked.session with
      transport := { asked.session.transport with
        input := [.data okHeaders.encode, .data lastData.encode, .data lastOne.encode] } } }

def firstAnswered : List Call :=
  [.sendRequest "GET" "a" "/" [], .sendRequest "GET" "a" "/" [], .recvResponse 1]

/-- The first shutdown does not touch the response on stream 1 and ends all requests, and the second
one is what the wait on stream 3 reports. -/
theorem shutdown_run_leaving :
    (openOn leaving none).1 = .ok () ∧
    (asked.recvResponse 1).1 = .ok ⟨1, some 200, [], [104, 105]⟩ ∧
    (((openOn leaving none).2.run firstAnswered).recvResponse 3).1 =
      .error (.goAway 1 .internalError "bye") ∧
    ∀ more, NoRequest ((openOn leaving none).2.run firstAnswered)
      (((openOn leaving none).2.run firstAnswered).run more) := by
  have hopen : (openOn leaving none).1 = .ok () := by cbv
  have hopened : openOn leaving none = (.ok (), (openOn leaving none).2) := Prod.ext hopen rfl
  -- the wait on stream 1, with the first shutdown and without it
  have hspared : (asked.recvResponse 1).1 = (askedOther.recvResponse 1).1 := by
    obtain ⟨-, -, hheeds⟩ := shutdown_run hopened
      [.sendRequest "GET" "a" "/" [], .sendRequest "GET" "a" "/" []]
    have hw : Frame.Woven (·.Spares 1) (okHeaders.encode ++ [])
        (lastThree.encode ++ (okHeaders.encode ++ [])) :=
      .insert (f := lastThree) (by cbv) (by decide) (.keep (f := okHeaders) (by cbv) .nil)
    have hchunk : asked.session.transport.chunk = none := by cbv
    have hasked : asked.session.Meets
        (Arrival.bytes (lastThree.encode ++ (okHeaders.encode ++ [])) ++
          Arrival.bytes (lastData.encode ++ lastOne.encode)) :=
      ⟨by cbv, by rw [hchunk]; decide, by cbv⟩
    have hother : askedOther.session.Meets (Arrival.bytes (okHeaders.encode ++ []) ++
        Arrival.bytes (lastData.encode ++ lastOne.encode)) := ⟨hasked.closed, hasked.chunk, by cbv⟩
    exact (hheeds 1).spared askedOther _ _ _ hw hasked hother ⟨rfl, rfl, rfl⟩ rfl rfl
  have hother : (askedOther.recvWithin 1 2).map Prod.fst =
      some (.ok ⟨1, some 200, [], [104, 105]⟩) := by cbv
  obtain ⟨x, hx, hok⟩ := Option.map_eq_some_iff.1 hother
  rw [recvResponse_of_recvWithin hx] at hspared
  -- the wait on stream 3 takes the second one in
  have hrun : ((openOn leaving none).2.runWithin 3 firstAnswered).map (fun x =>
      (x.2.framesTaken leaving, (x.2.recvWithin 3 1).map fun y =>
        y.2.framesTaken x.2.session.transport)) =
      some ([lastThree, okHeaders, lastData], some [lastOne]) := by cbv
  have hview := of_runWithin hrun
  simp only [Prod.mk.injEq] at hview
  obtain ⟨htaken, hwait⟩ := hview
  obtain ⟨y, hy, hframes⟩ := Option.map_eq_some_iff.1 hwait
  obtain ⟨hquiet, -, hheeds⟩ := shutdown_run hopened firstAnswered
  have hrefuses : lastOne.RefusesAmong 3 ((openOn leaving none).2.run firstAnswered).decoder
      (((openOn leaving none).2.run firstAnswered).framesAwaiting 3) := by
    refine ⟨[], [], ?_, by decide, List.forall_mem_nil _, Frame.pass_nil _ _⟩
    rw [framesAwaiting, recvResponse_of_recvWithin hy]
    exact hframes
  obtain ⟨herr, -⟩ := (hheeds 3).refused lastOne hrefuses
  have hbye : lastOne.refusal = .goAway 1 .internalError "bye" := by cbv
  exact ⟨hopen, hspared.trans hok, herr.trans (congrArg Except.error hbye),
    hquiet lastThree (by rw [htaken]; exact List.mem_cons_self) (by decide)⟩

end Connection

end Http2
