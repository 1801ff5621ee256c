import Http2.Proofs.Connection.Agreement
import Http2.Proofs.Connection.Assembly
import Http2.Proofs.Connection.Evaluation
import Http2.Proofs.Transport.Arrivals

/-!
Frames put in between. Where nothing comes of certain frames, up to a relation of endpoints, a wait
over an input with such frames inserted ends as the wait over the input without them does. Frames
for other streams, and those that a client passes over, are of this kind.
-/

namespace Http2

/-- The bytes `b` are the bytes `a`, which are whole frames, with other whole frames in between, of
which `P` holds. -/
inductive Frame.Woven (P : Frame → Prop) : Bytes → Bytes → Prop
  | nil : Woven P [] []
  | insert {raw a b : Bytes} {f : Frame} (whole : decode? raw = some (f, [])) (holds : P f)
      (rest : Woven P a b) : Woven P a (raw ++ b)
  | keep {raw a b : Bytes} {f : Frame} (whole : decode? raw = some (f, []))
      (rest : Woven P a b) : Woven P (raw ++ a) (raw ++ b)

namespace Connection

open Session

variable {target : Nat} {P : Frame → Prop} {E : Endpoint → Endpoint → Prop} {c d c' : Connection}
  {f : Frame} {raw : Bytes} {as bs : List Arrival}

/-- Up to the relation `E` between endpoints, nothing comes of the frames of which `P` holds. -/
structure Overlooks (target : Nat) (P : Frame → Prop) (E : Endpoint → Endpoint → Prop) : Prop
    extends Respects target E where
  length_le : ∀ {f : Frame}, P f → f.payload.length ≤ payloadLimit
  skip : ∀ {e e' : Endpoint} {f : Frame}, E e e' → P f →
    ∃ ep, (e'.noteFrame target).receive target f = .goOn ep ∧ E e ep

/-! ### One frame -/

theorem readFrame_of_meets (hraw : Frame.decode? raw = some (f, []))
    (h : c.session.Meets (Arrival.bytes raw ++ as)) (hl : f.payload.length ≤ payloadLimit) :
    ∃ s, c.readFrame = (.ok f, { c with session := s }) ∧ s.Meets as ∧
      c.session.SameOutput s := by
  obtain ⟨s, hr, hm, ho⟩ := h.readFrameUpTo hraw hl
  refine ⟨s, ?_, hm, ho⟩
  unfold Connection.readFrame
  rw [hr]

theorem readFrame_of_long (hraw : Frame.decode? raw = some (f, []))
    (h : c.session.Meets (Arrival.bytes raw ++ as)) (hl : payloadLimit < f.payload.length) :
    ∃ s, c.readFrame =
        (.error (.frameSize (.overLimit f.kind f.payload.length payloadLimit)),
          fail { c with session := s }) ∧
      c.session.SameOutput s := by
  obtain ⟨s, hr, ho⟩ := h.readFrameUpTo_of_long hraw hl
  refine ⟨s, ?_, ho⟩
  unfold Connection.readFrame
  rw [hr]
  rfl

theorem meets_handle (h : c.session.Meets as) (target : Nat) (f : Frame) :
    (c.handle target f).2.session.Meets as := by
  obtain ⟨sent, hp⟩ := pushed_handle c target f
  exact h.of_pushed hp

theorem Round.unique {d : Connection} (h : Round target c d) (h' : Round target c c') : c' = d := by
  obtain ⟨f, read, hread, hh⟩ := h
  obtain ⟨f', read', hread', hh'⟩ := h'
  cases hread.symm.trans hread'
  cases hh.symm.trans hh'
  rfl

/-- A frame of which nothing comes is a round that goes on. -/
theorem Overlooks.round (ho : Overlooks target P E) (h : Related E SameOutput c d)
    (hraw : Frame.decode? raw = some (f, [])) (hf : P f)
    (hd : d.session.Meets (Arrival.bytes raw ++ as)) :
    ∃ d', Round target d d' ∧ Related E SameOutput c d' ∧ d'.session.Meets as := by
  obtain ⟨s, hread, hm, hs⟩ := readFrame_of_meets hraw hd (ho.length_le hf)
  obtain ⟨ep, hrec, hE⟩ := ho.skip h.endpoint hf
  have hh : (noted { d with session := s } target).handle target f = (.ok false, ⟨ep, s⟩) := by
    have hrec' : (noted { d with session := s } target).receive target f = .goOn ep := hrec
    rw [handle_of_reply_none (by rw [hrec']; rfl), hrec']
    rfl
  exact ⟨⟨ep, s⟩, ⟨f, _, hread, hh⟩, ⟨hE, h.session.trans hs⟩, hm⟩

/-- At the same frame both waits end alike, or both go on. -/
theorem Overlooks.keep (ho : Overlooks target P E) (h : Related E SameOutput c d)
    (hraw : Frame.decode? raw = some (f, []))
    (hc : c.session.Meets (Arrival.bytes raw ++ as))
    (hd : d.session.Meets (Arrival.bytes raw ++ bs)) :
    (Agree (Related E SameOutput) (c.awaitEnd target) (d.awaitEnd target) ∧
        ∀ c', ¬ Round target c c') ∨
      ∃ c' d', Round target c c' ∧ Round target d d' ∧ Related E SameOutput c' d' ∧
        c'.session.Meets as ∧ d'.session.Meets bs := by
  by_cases hl : f.payload.length ≤ payloadLimit
  · obtain ⟨s, hread, hm, hs⟩ := readFrame_of_meets hraw hc hl
    obtain ⟨s', hread', hm', hs'⟩ := readFrame_of_meets hraw hd hl
    have hrel : Related E SameOutput { c with session := s } { d with session := s' } :=
      ⟨h.endpoint, (hs.symm.trans h.session).trans hs'⟩
    have hhandle := ho.handle (fun h f => h.writeFrame f) hrel f
    have hmc := meets_handle (c := noted { c with session := s } target) hm target f
    have hmd := meets_handle (c := noted { d with session := s' } target) hm' target f
    generalize hx : (noted { c with session := s } target).handle target f = x,
      hy : (noted { d with session := s' } target).handle target f = y at hhandle hmc hmd
    cases hhandle with | @intro outcome c' d' hrel' =>
    have hround (hne : outcome ≠ .ok false) : ∀ c', ¬ Round target c c' := by
      rintro c' ⟨g, read, hread', hh⟩
      cases hread.symm.trans hread'
      cases hx.symm.trans hh
      exact hne rfl
    rcases outcome with e | _ | _
    · refine .inl ⟨?_, hround nofun⟩
      rw [awaitEnd_of_handle_error hread hx, awaitEnd_of_handle_error hread' hy]
      exact .intro _ (ho.afterFailure hrel' e)
    · exact .inr ⟨c', d', ⟨_, _, hread, hx⟩, ⟨_, _, hread', hy⟩, hrel', hmc, hmd⟩
    · refine .inl ⟨?_, hround nofun⟩
      rw [awaitEnd_of_handle_ok hread hx, awaitEnd_of_handle_ok hread' hy]
      exact .intro _ hrel'
  · obtain ⟨s, hread, hs⟩ := readFrame_of_long hraw hc (Nat.lt_of_not_le hl)
    obtain ⟨s', hread', hs'⟩ := readFrame_of_long hraw hd (Nat.lt_of_not_le hl)
    refine .inl ⟨?_, ?_⟩
    · rw [awaitEnd_of_readFrame_error hread, awaitEnd_of_readFrame_error hread']
      exact .intro _ ⟨ho.failed h.endpoint, (hs.symm.trans h.session).trans hs'⟩
    · rintro c' ⟨g, read, hg, -⟩
      cases hread.symm.trans hg

/-! ### Whole waits -/

/-- A connection from which nothing but `rest` is left to arrive was not there before a frame. -/
theorem head_round {rest : List Arrival} {mid : Connection}
    (hraw : Frame.decode? raw = some (f, []))
    (hc : c.session.Meets (Arrival.bytes raw ++ (as ++ rest)))
    (hr : Relation.ReflTransGen (Round target) c mid) (hm : mid.session.Meets rest) :
    ∃ c', Round target c c' ∧ Relation.ReflTransGen (Round target) c' mid := by
  rcases hr.cases_head with rfl | h
  · have hlen := congrArg List.length (hc.arrivals.symm.trans hm.arrivals)
    have hf := Frame.length_of_decode? hraw
    simp only [Arrival.bytes, List.length_append, List.length_map, Frame.size, Frame.headerSize]
      at hlen hf
    omega
  · exact h

/-- **Overlooked frames** do not change how a wait ends. Where the wait without them comes to the
place behind the last of them, both leave the same to arrive. -/
theorem Overlooks.awaitEnd {a b : Bytes} {rest : List Arrival} (ho : Overlooks target P E)
    (hw : Frame.Woven P a b) (h : Related E SameOutput c d)
    (hc : c.session.Meets (Arrival.bytes a ++ rest))
    (hd : d.session.Meets (Arrival.bytes b ++ rest)) :
    Agree (Related E SameOutput) (c.awaitEnd target) (d.awaitEnd target) ∧
      ∀ mid, Relation.ReflTransGen (Round target) c mid → mid.session.Meets rest →
        Abreast (c.awaitEnd target).2.session (d.awaitEnd target).2.session := by
  induction hw generalizing c d with
  | nil =>
    -- from here on both meet the same
    have hp : Preserves target (Related E Abreast) :=
      ho.preserves (fun h limit => h.readFrameUpTo limit) fun h f => h.writeFrame f
    have hagree := hp.awaitEnd ⟨h.endpoint, h.session, rest, hc, hd⟩
    exact ⟨hagree.imp fun h => ⟨h.endpoint, h.session.output⟩, fun _ _ _ => hagree.snd.session⟩
  | insert hraw hf _ ih =>
    rw [Arrival.bytes_append, List.append_assoc] at hd
    obtain ⟨d', hround, h', hd'⟩ := ho.round h hraw hf hd
    rw [awaitEnd_eq_of_rounds (.single hround)]
    exact ih h' hc hd'
  | keep hraw _ ih =>
    rw [Arrival.bytes_append, List.append_assoc] at hc hd
    rcases ho.keep h hraw hc hd with ⟨hagree, hno⟩ | ⟨c', d', hround, hround', h', hc', hd'⟩
    · refine ⟨hagree, fun mid hr hm => ?_⟩
      obtain ⟨c', hc', -⟩ := head_round hraw hc hr hm
      exact absurd hc' (hno c')
    · rw [awaitEnd_eq_of_rounds (.single hround), awaitEnd_eq_of_rounds (.single hround')]
      obtain ⟨hagree, hleft⟩ := ih h' hc' hd'
      refine ⟨hagree, fun mid hr hm => ?_⟩
      obtain ⟨c'', hc'', hr'⟩ := head_round hraw hc hr hm
      rw [hround.unique hc''] at hr'
      exact hleft mid hr' hm

/-- Where two waits end alike and the endpoints show the same response, both give it. -/
theorem agree_recvResponse {S : Session → Session → Prop} {F : Endpoint → Endpoint → Prop}
    (hwait : Agree (Related E S) (c.awaitEnd target) (d.awaitEnd target))
    (hf : c.awaitFault? target = none) (hf' : d.awaitFault? target = none)
    (hresp : ∀ e e', E e e' → e'.responseOn target = e.responseOn target)
    (hfinal : ∀ e e', E e e' → F e e' ∧ F (e.taken target) (e'.taken target)) :
    Agree (Related F S) (c.recvResponse target) (d.recvResponse target) := by
  unfold Connection.recvResponse
  rw [hf, hf']
  simp only
  generalize c.awaitEnd target = x, d.awaitEnd target = y at hwait
  cases hwait with | intro r h =>
  obtain ⟨hE, hS⟩ := h
  obtain ⟨hF, htaken⟩ := hfinal _ _ hE
  rcases r with e | u
  · exact .intro _ ⟨hF, hS⟩
  · exact .of_eq rfl (Prod.ext (congrArg Except.ok (hresp _ _ hE)) rfl) ⟨htaken, hS⟩

end Connection

end Http2
