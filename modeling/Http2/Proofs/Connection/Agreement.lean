import Http2.Proofs.Connection.Run
import Http2.Proofs.Transport.Agreement

/-!
Two waits side by side. A relation between connections that reading a frame, handling it and a
failure keep, with one outcome on both sides, is kept by every round of a wait and by the whole of
it.
-/

namespace Http2.Connection

variable {R : Connection → Connection → Prop} {target : Nat} {c d c' : Connection}

/-- What one round of the wait for `target` needs to keep the relation. -/
structure Preserves (target : Nat) (R : Connection → Connection → Prop) : Prop where
  readFrame : ∀ {c d}, R c d → Agree R c.readFrame d.readFrame
  handle : ∀ {c d}, R c d → ∀ f,
    Agree R ((c.noted target).handle target f) ((d.noted target).handle target f)
  afterFailure : ∀ {c d}, R c d → ∀ e, R (c.afterFailure e) (d.afterFailure e)

section Waits

variable (hk : Preserves target R) (h : R c d)
include hk h

theorem Preserves.round (hr : Round target c c') : ∃ d', Round target d d' ∧ R c' d' := by
  obtain ⟨f, read, hread, hh⟩ := hr
  obtain ⟨read', hread', h₁⟩ := (hk.readFrame h).exists_of_eq hread
  obtain ⟨d', hh', h₂⟩ := (hk.handle h₁ f).exists_of_eq hh
  exact ⟨d', ⟨f, read', hread', hh'⟩, h₂⟩

theorem Preserves.rounds (hr : Relation.ReflTransGen (Round target) c c') :
    ∃ d', Relation.ReflTransGen (Round target) d d' ∧ R c' d' := by
  induction hr with
  | refl => exact ⟨d, .refl, h⟩
  | tail _ hlast ih =>
    obtain ⟨mid, hrounds, h₁⟩ := ih
    obtain ⟨d', hround, h₂⟩ := hk.round h₁ hlast
    exact ⟨d', hrounds.tail hround, h₂⟩

/-- **A wait** ends alike: its rounds follow those of the other, and so does its last one. -/
theorem Preserves.awaitEnd : Agree R (c.awaitEnd target) (d.awaitEnd target) := by
  obtain ⟨mid, hrounds, hlast⟩ := awaitEnd_rounds c target
  obtain ⟨mid', hrounds', h₁⟩ := hk.rounds h hrounds
  rw [awaitEnd_eq_of_rounds hrounds']
  generalize c.awaitEnd target = x at hlast
  obtain ⟨outcome, c'⟩ := x
  cases hlast with
  | unread hread =>
    obtain ⟨d', hread', h₂⟩ := (hk.readFrame h₁).exists_of_eq hread
    rw [awaitEnd_of_readFrame_error hread']
    exact .intro _ h₂
  | failed hread hh =>
    obtain ⟨read, hread', h₂⟩ := (hk.readFrame h₁).exists_of_eq hread
    obtain ⟨d', hh', h₃⟩ := (hk.handle h₂ _).exists_of_eq hh
    rw [awaitEnd_of_handle_error hread' hh']
    exact .intro _ (hk.afterFailure h₃ _)
  | ended hread hh =>
    obtain ⟨read, hread', h₂⟩ := (hk.readFrame h₁).exists_of_eq hread
    obtain ⟨d', hh', h₃⟩ := (hk.handle h₂ _).exists_of_eq hh
    rw [awaitEnd_of_handle_ok hread' hh']
    exact .intro _ h₃

end Waits

/-! ### Related endpoints on related sessions -/

/-- Every frame leads related endpoints to related ones, with one reply and one outcome. -/
structure Respects (target : Nat) (E : Endpoint → Endpoint → Prop) : Prop where
  receive : ∀ {e e' : Endpoint}, E e e' → ∀ f : Frame,
    ((e'.noteFrame target).receive target f).reply =
        ((e.noteFrame target).receive target f).reply ∧
      ((e'.noteFrame target).receive target f).outcome =
        ((e.noteFrame target).receive target f).outcome ∧
      E ((e.noteFrame target).receive target f).endpoint
        ((e'.noteFrame target).receive target f).endpoint
  failed : ∀ {e e' : Endpoint}, E e e' → E { e with phase := .failed } { e' with phase := .failed }

/-- The endpoints are related, and the sessions are. -/
structure Related (E : Endpoint → Endpoint → Prop) (S : Session → Session → Prop)
    (c d : Connection) : Prop where
  endpoint : E c.toEndpoint d.toEndpoint
  session : S c.session d.session

variable {E : Endpoint → Endpoint → Prop} {S : Session → Session → Prop}

theorem Respects.afterFailure (hE : Respects target E) (h : Related E S c d) (e : Error) :
    Related E S (c.afterFailure e) (d.afterFailure e) := by
  have hfail : Related E S c.fail d.fail := ⟨hE.failed h.endpoint, h.session⟩
  cases e with
  | streamReset | goAway => exact h
  | _ => exact hfail

theorem Respects.readFrame (hE : Respects target E)
    (hread : ∀ {s s'}, S s s' → ∀ limit, Agree S (s.readFrameUpTo limit) (s'.readFrameUpTo limit))
    (h : Related E S c d) : Agree (Related E S) c.readFrame d.readFrame := by
  have hframe := hread h.session payloadLimit
  unfold Connection.readFrame
  generalize c.session.readFrameUpTo payloadLimit = x,
    d.session.readFrameUpTo payloadLimit = y at hframe
  cases hframe with | intro r h₁ =>
  rcases r with e | f
  · exact .intro _ ⟨hE.failed h.endpoint, h₁⟩
  · exact .intro _ ⟨h.endpoint, h₁⟩

theorem Respects.handle (hE : Respects target E)
    (hwrite : ∀ {s s'}, S s s' → ∀ f, Agree S (s.writeFrame f) (s'.writeFrame f))
    (h : Related E S c d) (f : Frame) :
    Agree (Related E S) ((c.noted target).handle target f) ((d.noted target).handle target f) := by
  obtain ⟨hreply, hout, hend⟩ := hE.receive h.endpoint f
  cases hr : ((c.noteFrame target).receive target f).reply with
  | none =>
    rw [hr] at hreply
    rw [handle_of_reply_none (c := c.noted target) hr,
      handle_of_reply_none (c := d.noted target) hreply]
    exact .of_eq rfl (Prod.ext hout rfl) ⟨hend, h.session⟩
  | some g =>
    rw [hr] at hreply
    rw [handle_of_reply_some (c := c.noted target) hr,
      handle_of_reply_some (c := d.noted target) hreply]
    have hframe : Agree S ((c.noted target).session.writeFrame g)
      ((d.noted target).session.writeFrame g) := hwrite h.session g
    generalize (c.noted target).session.writeFrame g = x,
      (d.noted target).session.writeFrame g = y at hframe
    cases hframe with | intro r h₁ =>
    rcases r with e | u
    · exact .intro _ ⟨hend, h₁⟩
    · exact .of_eq rfl (Prod.ext hout rfl) ⟨hend, h₁⟩

/-- **Frames that respect a relation of endpoints** keep it through a wait, together with a relation
of sessions that reading and writing frames keep. -/
theorem Respects.preserves (hE : Respects target E)
    (hread : ∀ {s s'}, S s s' → ∀ limit, Agree S (s.readFrameUpTo limit) (s'.readFrameUpTo limit))
    (hwrite : ∀ {s s'}, S s s' → ∀ f, Agree S (s.writeFrame f) (s'.writeFrame f)) :
    Preserves target (Related E S) where
  readFrame := hE.readFrame hread
  handle := hE.handle hwrite
  afterFailure := hE.afterFailure

end Http2.Connection
