import Http2.Proofs.Frame.Reading
import Http2.Proofs.Transport.Agreement

/-!
What a session meets on its input, whatever the input is: bytes, ends and failures, one after
another. Reading depends on these arrivals alone and writing on the output alone, so two sessions
with the same of both do the same, and a frame at the front of the arrivals is read as it is.
-/

namespace Http2

/-- What a reader meets next. -/
inductive Arrival where
  | byte (b : UInt8)
  /-- A read gives nothing. -/
  | ending
  | failure (cause : SystemError)
  deriving DecidableEq, Repr

namespace Arrival

def bytes (bs : Bytes) : List Arrival := bs.map byte

@[simp] theorem bytes_nil : bytes [] = [] := rfl

@[simp] theorem bytes_cons (b : UInt8) (bs : Bytes) : bytes (b :: bs) = byte b :: bytes bs := rfl

@[simp] theorem bytes_append (as bs : Bytes) : bytes (as ++ bs) = bytes as ++ bytes bs :=
  List.map_append

def byte? : Arrival → Option UInt8
  | .byte b => some b
  | .ending | .failure _ => none

/-- What stands behind the outcome of a read: an interruption is nothing, since the reader tries
again. -/
def ofRead : Except SystemError Bytes → List Arrival
  | .ok [] => [.ending]
  | .ok (b :: bs) => bytes (b :: bs)
  | .error cause => if cause.kind = .interrupted then [] else [.failure cause]

/-- What a reader of `want` bytes gets from the arrivals, and what is left of them. Behind the last
one the input ends. -/
def gather : Nat → List Arrival → Except SystemError Bytes × List Arrival
  | 0, as => (.ok [], as)
  | _ + 1, [] => (.ok [], [])
  | _ + 1, .ending :: as => (.ok [], as)
  | _ + 1, .failure cause :: as => (.error cause, as)
  | want + 1, .byte b :: as => ((gather want as).1.map (b :: ·), (gather want as).2)

theorem gather_bytes_append {want : Nat} {bs : Bytes} (hl : bs.length ≤ want)
    (as : List Arrival) :
    gather want (bytes bs ++ as) =
      ((gather (want - bs.length) as).1.map (bs ++ ·), (gather (want - bs.length) as).2) := by
  induction bs generalizing want with
  | nil =>
    simp only [bytes_nil, List.nil_append, List.length_nil, Nat.sub_zero]
    rcases gather want as with ⟨e | got, rest⟩ <;> rfl
  | cons b bs ih =>
    obtain ⟨n, rfl⟩ : ∃ n, want = n + 1 := ⟨want - 1, by simp only [List.length_cons] at hl; omega⟩
    have hn : bs.length ≤ n := by simpa using hl
    rw [bytes_cons, List.cons_append, gather, ih hn, List.length_cons, Nat.add_sub_add_right]
    rcases gather (n - bs.length) as with ⟨e | got, rest⟩ <;> rfl

theorem gather_bytes (bs : Bytes) (as : List Arrival) :
    gather bs.length (bytes bs ++ as) = (.ok bs, as) := by
  rw [gather_bytes_append (Nat.le_refl _), Nat.sub_self, gather]
  simp only [Except.map, List.append_nil]

end Arrival

def ReadEvent.arrivals : ReadEvent → List Arrival
  | .data bytes => Arrival.ofRead (.ok bytes)
  | .fail cause | .pollFail cause => Arrival.ofRead (.error cause.toSystem)
  | .notReady => [.failure .timedOut]
  | .eof => [.ending]

def Transport.arrivals (t : Transport) : List Arrival := t.input.flatMap ReadEvent.arrivals

theorem Transport.unread_eq (t : Transport) : t.unread = t.arrivals.filterMap Arrival.byte? := by
  unfold unread arrivals
  rw [List.filterMap_flatMap]
  refine List.flatMap_congr fun e _ => ?_
  cases e with
  | data bytes =>
    cases bytes with
    | nil => rfl
    | cons b bs =>
      rw [ReadEvent.arrivals, Arrival.ofRead, Arrival.bytes, List.filterMap_map]
      exact List.filterMap_some.symm
  | fail cause | pollFail cause =>
    rw [ReadEvent.arrivals, Arrival.ofRead]
    change [] = _
    split <;> rfl
  | notReady | eof => rfl

/-- What a read leaves of the data in front still arrives. -/
theorem Transport.arrivals_afterData {bytes : Bytes} {n : Nat} (hn : 0 < n)
    (rest : List ReadEvent) :
    ReadEvent.arrivals (.data bytes) ++ rest.flatMap ReadEvent.arrivals =
      Arrival.ofRead (.ok (bytes.take n)) ++
        (afterData bytes n rest).flatMap ReadEvent.arrivals := by
  obtain ⟨k, rfl⟩ : ∃ k, n = k + 1 := ⟨n - 1, by omega⟩
  cases bytes with
  | nil => rfl
  | cons b bs =>
    unfold afterData
    rw [List.take_succ_cons, List.drop_succ_cons]
    have hsplit : Arrival.bytes bs = Arrival.bytes (bs.take k) ++ Arrival.bytes (bs.drop k) := by
      rw [← Arrival.bytes_append, List.take_append_drop]
    split
    · next hd =>
      rw [hd, Arrival.bytes_nil, List.append_nil] at hsplit
      simp only [ReadEvent.arrivals, Arrival.ofRead, Arrival.bytes_cons, hsplit]
    · next hd =>
      obtain ⟨l, ls, hleft⟩ := List.exists_cons_of_ne_nil hd
      simp only [ReadEvent.arrivals, Arrival.ofRead, Arrival.bytes_cons, hsplit, hleft,
        List.flatMap_cons, List.cons_append, List.append_assoc]

namespace Session

variable {s s' d : Session} {as : List Arrival} {want : Nat}

/-- The session is open, and a reader of it meets the arrivals `as`. -/
structure Meets (s : Session) (as : List Arrival) : Prop where
  closed : s.closed = false
  chunk : s.transport.chunk ≠ some 0
  arrivals : s.transport.arrivals = as

/-- The sessions differ in their inputs at most. -/
structure SameOutput (s s' : Session) : Prop where
  transport : s'.transport.withoutInput = s.transport.withoutInput
  closed : s'.closed = s.closed
  timeout : s'.timeout = s.timeout

namespace SameOutput

theorem symm (h : SameOutput s s') : SameOutput s' s :=
  ⟨h.transport.symm, h.closed.symm, h.timeout.symm⟩

theorem trans (h : SameOutput s s') (h' : SameOutput s' d) : SameOutput s d :=
  ⟨h'.transport.trans h.transport, h'.closed.trans h.closed, h'.timeout.trans h.timeout⟩

theorem written (h : SameOutput s s') : s'.transport.written = s.transport.written :=
  (congrArg Transport.written h.transport :)

end SameOutput

/-! ### Reading -/

theorem Meets.pull {r : Except SystemError Bytes} (h : s.Meets as) (hw : want ≠ 0)
    (hp : s.pull want = (r, s')) :
    ∃ rest, s'.Meets rest ∧
      (as = Arrival.ofRead r ++ rest ∨ (r = .ok [] ∧ as = [] ∧ rest = [])) := by
  obtain ⟨hc, hk, rfl⟩ := h
  have hlimit := Transport.readLimit_pos hk (Nat.pos_of_ne_zero hw)
  rw [pull_of_open hc] at hp
  simp only at hp
  unfold Transport.arrivals
  rcases hin : s.transport.input with _ | ⟨e, rest⟩
  · rw [hin] at hp
    cases hp
    exact ⟨[], ⟨hc, hk, rfl⟩, .inr ⟨rfl, rfl, rfl⟩⟩
  · rw [hin] at hp
    rw [List.flatMap_cons]
    cases e with
    | data bytes =>
      cases hp
      exact ⟨_, ⟨hc, hk, rfl⟩, .inl (Transport.arrivals_afterData hlimit rest)⟩
    | fail | pollFail | notReady | eof =>
      cases hp
      exact ⟨_, ⟨hc, hk, rfl⟩, .inl rfl⟩

theorem Meets.fillFrom (h : s.Meets as) (want : Nat) (done : Bytes) :
    (s.fillFrom want done).1 = (Arrival.gather want as).1.map (done.reverse ++ ·) ∧
      (s.fillFrom want done).2.Meets (Arrival.gather want as).2 := by
  fun_induction Session.fillFrom s want done generalizing as with
  | case1 s done =>
    rw [Arrival.gather]
    exact ⟨by simp [Except.map], h⟩
  | case2 s want done hw s' hp =>
    obtain ⟨n, rfl⟩ := Nat.exists_eq_succ_of_ne_zero hw
    obtain ⟨rest, hrest, rfl | ⟨-, rfl, rfl⟩⟩ := h.pull hw hp
    · exact ⟨by simp [Arrival.ofRead, Arrival.gather, Except.map], hrest⟩
    · exact ⟨by simp [Arrival.gather, Except.map], hrest⟩
  | case3 s want done hw b bs s' hp _ ih =>
    obtain ⟨rest, hrest, rfl | ⟨hnil, -⟩⟩ := h.pull hw hp
    · obtain ⟨-, hl⟩ := pulled_pull hp
      rw [Arrival.ofRead, Arrival.gather_bytes_append hl]
      obtain ⟨hfst, hsnd⟩ := ih hrest
      rw [List.length_cons]
      refine ⟨hfst.trans ?_, hsnd⟩
      cases (Arrival.gather (want - (bs.length + 1)) rest).1 <;> simp [Except.map]
    · cases hnil
  | case4 s want done hw e s' hp hi _ ih =>
    obtain ⟨rest, hrest, rfl | ⟨hnil, -⟩⟩ := h.pull hw hp
    · rw [Arrival.ofRead, if_pos hi]
      exact ih hrest
    · cases hnil
  | case5 s want done hw e s' hp hi =>
    obtain ⟨n, rfl⟩ := Nat.exists_eq_succ_of_ne_zero hw
    obtain ⟨rest, hrest, rfl | ⟨hnil, -⟩⟩ := h.pull hw hp
    · rw [Arrival.ofRead, if_neg hi]
      exact ⟨rfl, hrest⟩
    · cases hnil

/-- **Filling a buffer** gathers from the arrivals, and leaves the output alone. -/
theorem Meets.fill (h : s.Meets as) (want : Nat) :
    ∃ s', s.fill want = ((Arrival.gather want as).1, s') ∧
      s'.Meets (Arrival.gather want as).2 ∧ s.SameOutput s' := by
  obtain ⟨hfst, hsnd⟩ := h.fillFrom want []
  obtain ⟨got, hp, -⟩ := pulled_fillFrom s want []
  refine ⟨(s.fillFrom want []).2, Prod.ext ?_ rfl, hsnd, hp.transport, hp.closed, hp.timeout⟩
  rw [Session.fill, hfst]
  cases (Arrival.gather want as).1 <;> rfl

section Frames

variable {raw : Bytes} {f : Frame} {limit : Nat} (hraw : Frame.decode? raw = some (f, []))
include hraw

theorem Meets.fillHeader (h : s.Meets (Arrival.bytes raw ++ as)) :
    ∃ s', s.fill Frame.headerSize = (.ok (raw.take Frame.headerSize), s') ∧
      Frame.Header.take? (raw.take Frame.headerSize) = some (f.header, []) ∧
      s'.Meets (Arrival.bytes f.payload ++ as) ∧ s.SameOutput s' := by
  have htake := Frame.decode?_eq_some_iff.1 hraw
  rw [List.append_nil] at htake
  have hlen : (raw.take Frame.headerSize).length = Frame.headerSize := by
    have := Frame.Header.length_of_take? htake
    rw [List.length_take]
    omega
  have hgather : Arrival.gather Frame.headerSize (Arrival.bytes raw ++ as) =
      (.ok (raw.take Frame.headerSize), Arrival.bytes f.payload ++ as) := by
    have hsplit : raw = raw.take Frame.headerSize ++ f.payload := by
      rw [← Frame.Header.drop_of_take? htake, List.take_append_drop]
    have h := Arrival.gather_bytes (raw.take Frame.headerSize) (Arrival.bytes f.payload ++ as)
    rwa [hlen, ← List.append_assoc, ← Arrival.bytes_append, ← hsplit] at h
  obtain ⟨s₁, hf, h₁, ho⟩ := h.fill Frame.headerSize
  rw [hgather] at hf h₁
  exact ⟨s₁, hf, Frame.Header.take?_take htake, h₁, ho⟩

/-- **A frame at the front of the arrivals** is read. -/
theorem Meets.readFrameUpTo (h : s.Meets (Arrival.bytes raw ++ as))
    (hl : f.payload.length ≤ limit) :
    ∃ s', s.readFrameUpTo limit = (.ok f, s') ∧ s'.Meets as ∧ s.SameOutput s' := by
  obtain ⟨s₁, hf₁, hh, h₁, ho₁⟩ := h.fillHeader hraw
  obtain ⟨s₂, hf₂, h₂, ho₂⟩ := h₁.fill f.header.length
  have hgather : Arrival.gather f.header.length (Arrival.bytes f.payload ++ as) =
      (.ok f.payload, as) := Arrival.gather_bytes f.payload as
  have hshort : ¬ limit < f.header.length := Nat.not_lt.2 hl
  rw [hgather] at hf₂ h₂
  refine ⟨s₂, ?_, h₂, ho₁.trans ho₂⟩
  rw [readFrameUpTo_of_header hf₁ hh, if_neg hshort, hf₂]
  exact dif_pos rfl

/-- A frame that is too long is refused by its header. -/
theorem Meets.readFrameUpTo_of_long (h : s.Meets (Arrival.bytes raw ++ as))
    (hl : limit < f.payload.length) :
    ∃ s', s.readFrameUpTo limit =
        (.error (.frameSize (.overLimit f.kind f.payload.length limit)), s') ∧
      s.SameOutput s' := by
  obtain ⟨s₁, hf₁, hh, -, ho₁⟩ := h.fillHeader hraw
  refine ⟨s₁, ?_, ho₁⟩
  rw [readFrameUpTo_of_header hf₁ hh]
  exact if_pos hl

end Frames

/-! ### Writing -/

theorem SameOutput.push (h : SameOutput s s') (bytes : Bytes) :
    Agree SameOutput (s.push bytes) (s'.push bytes) := by
  obtain ⟨t, timeout, closed⟩ := s
  obtain ⟨t', timeout', closed'⟩ := s'
  obtain ⟨input, chunk, writes, flushes, closes, protocol, written, polls, closeCalls⟩ := t
  obtain ⟨input', chunk', writes', flushes', closes', protocol', written', polls', closeCalls'⟩ := t'
  obtain ⟨ht, hc, htimeout⟩ := h
  simp only at hc htimeout
  simp only [Transport.withoutInput, Transport.mk.injEq, true_and] at ht
  obtain ⟨rfl, rfl, rfl, rfl, rfl, rfl, rfl⟩ := ht
  subst hc htimeout
  cases closed' with
  | true => exact .intro _ ⟨rfl, rfl, rfl⟩
  | false =>
    rcases writes' with _ | ⟨e, rest⟩
    · exact .intro _ ⟨rfl, rfl, rfl⟩
    · cases e <;> exact .intro _ ⟨rfl, rfl, rfl⟩

theorem writeAll_eq (s : Session) {bytes : Bytes} (hb : bytes ≠ []) :
    s.writeAll bytes =
      match s.push bytes with
      | (.ok 0, s') => (.error .writeZero, s')
      | (.ok (n + 1), s') => s'.writeAll (bytes.drop (n + 1))
      | (.error e, s') => if e.kind = .interrupted then s'.writeAll bytes else (.error e, s') := by
  rw [writeAll, dif_neg hb]
  split
  · next hp => rw [hp]
  · next hp => simp only [hp]
  · next hp => simp only [hp, dite_eq_ite]

/-- **Writing** does not depend on the input. -/
theorem SameOutput.writeAll (h : SameOutput s s') (bytes : Bytes) :
    Agree SameOutput (s.writeAll bytes) (s'.writeAll bytes) := by
  fun_induction Session.writeAll s bytes generalizing s' with
  | case1 s =>
    rw [Session.writeAll]
    exact .intro _ h
  | case2 s bytes hb d hp =>
    obtain ⟨d', hp', hd⟩ := (h.push bytes).exists_of_eq hp
    rw [s'.writeAll_eq hb, hp']
    exact .intro _ hd
  | case3 s bytes hb n d hp _ ih =>
    obtain ⟨d', hp', hd⟩ := (h.push bytes).exists_of_eq hp
    rw [s'.writeAll_eq hb, hp']
    exact ih hd
  | case4 s bytes hb e d hp hi _ ih =>
    obtain ⟨d', hp', hd⟩ := (h.push bytes).exists_of_eq hp
    rw [s'.writeAll_eq hb, hp']
    simp only [hi, if_true]
    exact ih hd
  | case5 s bytes hb e d hp hi =>
    obtain ⟨d', hp', hd⟩ := (h.push bytes).exists_of_eq hp
    rw [s'.writeAll_eq hb, hp']
    simp only [hi, if_false]
    exact .intro _ hd

theorem SameOutput.flush (h : SameOutput s s') : Agree SameOutput s.flush s'.flush := by
  have hflushes : s'.transport.flushes = s.transport.flushes :=
    (congrArg Transport.flushes h.transport :)
  have ht : s'.flush.2.transport.withoutInput = s.flush.2.transport.withoutInput := by
    change ({ s'.transport.withoutInput with
        flushes := (Transport.nextOutcome s'.transport.flushes).2 } : Transport) =
      { s.transport.withoutInput with
        flushes := (Transport.nextOutcome s.transport.flushes).2 }
    rw [h.transport, hflushes]
  refine .of_eq rfl (Prod.ext ?_ rfl) ⟨ht, h.closed, h.timeout⟩
  change (Transport.nextOutcome s'.transport.flushes).1.mapError TransportError.toSystem =
    (Transport.nextOutcome s.transport.flushes).1.mapError TransportError.toSystem
  rw [hflushes]

theorem SameOutput.writeFrame (h : SameOutput s s') (f : Frame) :
    Agree SameOutput (s.writeFrame f) (s'.writeFrame f) :=
  agree_writeFrame (fun _ _ bytes h => h.writeAll bytes) (fun _ _ h => h.flush) h f

theorem Meets.of_pushed {sent : Bytes} (h : s.Meets as) (hp : Pushed s s' sent) :
    s'.Meets as where
  closed := hp.closed.trans h.closed
  chunk := by
    rw [hp.chunk]
    exact h.chunk
  arrivals := by
    rw [← h.arrivals, Transport.arrivals, hp.input]
    rfl

theorem Meets.writeFrame (h : s.Meets as) (f : Frame) : (s.writeFrame f).2.Meets as := by
  rcases hw : s.writeFrame f with ⟨e | u, d⟩
  · obtain ⟨-, sent, hp, -⟩ := pushed_writeFrame_of_error hw
    exact h.of_pushed hp
  · exact h.of_pushed (pushed_writeFrame hw)

/-! ### Both -/

/-- The sessions meet the same arrivals, and differ in the events that bring them at most. -/
structure Abreast (s s' : Session) : Prop where
  output : SameOutput s s'
  meets : ∃ as, s.Meets as ∧ s'.Meets as

theorem Abreast.fill (h : Abreast s s') (want : Nat) :
    Agree Abreast (s.fill want) (s'.fill want) := by
  obtain ⟨ho, as, hm, hm'⟩ := h
  obtain ⟨d, hf, hd, hod⟩ := hm.fill want
  obtain ⟨d', hf', hd', hod'⟩ := hm'.fill want
  exact .of_eq hf hf' ⟨(hod.symm.trans ho).trans hod', _, hd, hd'⟩

theorem Abreast.readFrameUpTo (h : Abreast s s') (limit : Nat) :
    Agree Abreast (s.readFrameUpTo limit) (s'.readFrameUpTo limit) :=
  agree_readFrameUpTo (fun _ _ want h => h.fill want) h limit

theorem Abreast.writeFrame (h : Abreast s s') (f : Frame) :
    Agree Abreast (s.writeFrame f) (s'.writeFrame f) := by
  obtain ⟨ho, as, hm, hm'⟩ := h
  refine (ho.writeFrame f).imp fun ho => ⟨ho, as, hm.writeFrame f, hm'.writeFrame f⟩

end Session

end Http2
