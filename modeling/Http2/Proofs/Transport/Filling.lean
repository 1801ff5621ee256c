import Http2.Proofs.Transport.Calls

/-!
Filling a buffer, turn by turn. A turn asks for what is missing and stores no more than that, and
one after which the loop goes on uses up data or an event. So a buffer is filled with at most two
calls for each of them, and two more if the input stops short.
-/

namespace Http2

/-! ### What is left of the input -/

theorem Transport.inputSize_eq (t : Transport) :
    t.inputSize = t.input.length + t.unread.length := by
  unfold inputSize unread
  induction t.input with
  | nil => rfl
  | cons e rest ih =>
    rw [List.map_cons, List.sum_cons, ih, List.flatMap_cons, List.length_append, List.length_cons]
    cases e <;> simp only [eventSize, List.length_nil] <;> omega

namespace Session

variable {s s' : Session} {want : Nat}

theorem exists_input_of_interrupted {e : SystemError} (hpull : s.pull want = (.error e, s'))
    (hkind : e.kind = .interrupted) :
    ∃ event, s.transport.input = event :: s'.transport.input := by
  by_cases hc : s.closed = true
  · rw [pull_of_closed hc] at hpull
    cases hpull
    cases hkind
  · rw [pull_of_open (by simpa using hc)] at hpull
    rcases hin : s.transport.input with _ | ⟨event, rest⟩
    · rw [hin] at hpull
      cases hpull
    · rw [hin] at hpull
      cases event <;> cases hpull <;> exact ⟨_, rfl⟩

theorem inputSize_pull_snd_le (s : Session) (want : Nat) :
    (s.pull want).2.inputSize ≤ s.inputSize := by
  rcases hp : s.pull want with ⟨e | bytes, s'⟩
  · by_cases hc : s.closed = true
    · rw [pull_of_closed hc] at hp
      cases hp
      exact Nat.le_refl _
    · rw [pull_of_open (by simpa using hc)] at hp
      rcases hin : s.transport.input with _ | ⟨event, rest⟩
      · rw [hin] at hp
        cases hp
      · rw [hin] at hp
        cases event <;> cases hp <;> simp [Session.inputSize, Transport.inputSize, hin]
  · exact (Nat.le_add_left _ _).trans (inputSize_pull_le hp)

end Session

/-! ### Turns -/

/-- A buffer that is being filled: the session, the room that is left, and what was stored. -/
structure Filling where
  session : Session
  room : Nat
  stored : Bytes

namespace Filling

variable {x y : Filling}

/-- A turn after which the loop goes on: it stores bytes, or is interrupted. -/
inductive Turn : Filling → Filling → Prop
  | stores {s s' : Session} {room : Nat} {done bs : Bytes} {b : UInt8} (hroom : room ≠ 0)
      (hpull : s.pull room = (.ok (b :: bs), s')) :
      Turn ⟨s, room, done⟩ ⟨s', room - (bs.length + 1), done ++ b :: bs⟩
  | interrupted {s s' : Session} {room : Nat} {done : Bytes} {e : SystemError} (hroom : room ≠ 0)
      (hpull : s.pull room = (.error e, s')) (hkind : e.kind = .interrupted) :
      Turn ⟨s, room, done⟩ ⟨s', room, done⟩

/-- The last turn, with its outcome and the session after it. -/
inductive LastTurn : Filling → Except SystemError Bytes → Session → Prop
  | full {s : Session} {done : Bytes} : LastTurn ⟨s, 0, done⟩ (.ok done) s
  | ended {s s' : Session} {room : Nat} {done : Bytes} (hroom : room ≠ 0)
      (hpull : s.pull room = (.ok [], s')) : LastTurn ⟨s, room, done⟩ (.ok done) s'
  | failed {s s' : Session} {room : Nat} {done : Bytes} {e : SystemError} (hroom : room ≠ 0)
      (hpull : s.pull room = (.error e, s')) (hkind : e.kind ≠ .interrupted) :
      LastTurn ⟨s, room, done⟩ (.error e) s'

theorem exists_turns_fillFrom (s : Session) (want : Nat) (done : Bytes) :
    ∃ mid, Relation.ReflTransGen Turn ⟨s, want, done.reverse⟩ mid ∧
      LastTurn mid (s.fillFrom want done).1 (s.fillFrom want done).2 := by
  fun_induction Session.fillFrom s want done with
  | case1 s done => exact ⟨_, .refl, .full⟩
  | case2 s want done hw s' hp => exact ⟨_, .refl, .ended hw hp⟩
  | case3 s want done hw b bs s' hp _ ih =>
    obtain ⟨mid, hturns, hlast⟩ := ih
    refine ⟨mid, .head (.stores hw hp) ?_, hlast⟩
    simpa using hturns
  | case4 s want done hw e s' hp hi _ ih =>
    obtain ⟨mid, hturns, hlast⟩ := ih
    exact ⟨mid, .head (.interrupted hw hp hi) hturns, hlast⟩
  | case5 s want done hw e s' hp hi => exact ⟨_, .refl, .failed hw hp hi⟩

/-- **Filling a buffer is a number of turns** and a last one. -/
theorem exists_turns_fill (s : Session) (want : Nat) :
    ∃ mid, Relation.ReflTransGen Turn ⟨s, want, []⟩ mid ∧
      LastTurn mid (s.fill want).1 (s.fill want).2 :=
  exists_turns_fillFrom s want []

/-! ### The buffer -/

theorem Turn.length_add_room (h : Turn x y) :
    y.stored.length + y.room = x.stored.length + x.room := by
  cases h with
  | stores hroom hpull =>
    obtain ⟨-, hl⟩ := Session.pulled_pull hpull
    simp only [List.length_append, List.length_cons] at hl ⊢
    omega
  | interrupted => rfl

theorem length_add_room_of_turns (h : Relation.ReflTransGen Turn x y) :
    y.stored.length + y.room = x.stored.length + x.room := by
  induction h with
  | refl => rfl
  | tail _ hturn ih => exact hturn.length_add_room.trans ih

/-! ### Progress -/

/-- From `x` to `y` data or an event was used up: the data was stored, the event stood in front. -/
inductive Progress (x y : Filling) : Prop
  | data (got : Bytes) (hgot : got ≠ []) (hstored : y.stored = x.stored ++ got)
      (hunread : x.session.transport.unread = got ++ y.session.transport.unread)
  | event (hstored : y.stored = x.stored)
      (hunread : y.session.transport.unread = x.session.transport.unread)
      (hinput : ∃ e, x.session.transport.input = e :: y.session.transport.input)

/-- **A turn makes progress.** -/
theorem Turn.progress (h : Turn x y) : Progress x y := by
  cases h with
  | @stores s s' room done bs b hroom hpull =>
    exact .data (b :: bs) (List.cons_ne_nil _ _) rfl (Session.pulled_pull hpull).1.unread
  | interrupted hroom hpull hkind =>
    exact .event rfl (Session.pulled_pull_of_error hpull).unread.symm
      (Session.exists_input_of_interrupted hpull hkind)

theorem Turn.inputSize_lt (h : Turn x y) : y.session.inputSize < x.session.inputSize := by
  cases h with
  | stores hroom hpull =>
    have := Session.inputSize_pull_le hpull
    simp only [List.length_cons] at this ⊢
    omega
  | interrupted hroom hpull hkind => exact Session.inputSize_pull_lt hpull hkind

/-! ### Calls -/

/-- The calls that are still to come. -/
def calls (x : Filling) : List Transport.Call := x.session.callsToFill x.room

theorem Turn.calls_eq (h : Turn x y) : x.calls = x.session.callsToRead x.room ++ y.calls := by
  cases h with
  | stores hroom hpull => rw [calls, Session.callsToFill_eq _ hroom, hpull, calls]
  | interrupted hroom hpull hkind =>
    rw [calls, Session.callsToFill_eq _ hroom, hpull, calls]
    exact congrArg _ (if_pos hkind)

theorem LastTurn.calls_eq {outcome : Except SystemError Bytes} {s : Session}
    (h : LastTurn x outcome s) :
    x.calls = if x.room = 0 then [] else x.session.callsToRead x.room := by
  cases h with
  | full => exact Session.callsToFill_zero _
  | ended hroom hpull =>
    rw [calls, Session.callsToFill_eq _ hroom, hpull, List.append_nil]
    exact (if_neg hroom).symm
  | failed hroom hpull hkind =>
    rw [calls, Session.callsToFill_eq _ hroom, hpull]
    simp only [hkind, if_false, List.append_nil]
    exact (if_neg hroom).symm

/-- Turns make two calls for each byte and each event at most. -/
theorem length_calls_of_turns (h : Relation.ReflTransGen Turn x y) :
    x.calls.length + 2 * y.session.inputSize ≤ y.calls.length + 2 * x.session.inputSize := by
  induction h with
  | refl => exact Nat.le_refl _
  | @tail y z _ hturn ih =>
    have hlt := hturn.inputSize_lt
    have hcalls := congrArg List.length hturn.calls_eq
    have htwo : (y.session.callsToRead y.room).length ≤ 2 := Session.length_callsWhenReady_le ..
    rw [List.length_append] at hcalls
    omega

end Filling

namespace Session

/-- **Filling a buffer** makes two calls for each byte and each event that it uses up, and two more
at most. -/
theorem length_callsToFill_le (s : Session) (want : Nat) :
    (s.callsToFill want).length + 2 * (s.fill want).2.inputSize ≤ 2 * s.inputSize + 2 := by
  obtain ⟨mid, hturns, hlast⟩ := Filling.exists_turns_fill s want
  have hcalls : (s.callsToFill want).length + _ ≤ _ := Filling.length_calls_of_turns hturns
  have hmid := hlast.calls_eq
  have hsize : (s.fill want).2.inputSize ≤ mid.session.inputSize := by
    generalize (s.fill want).1 = outcome, (s.fill want).2 = s' at hlast
    cases hlast with
    | full => exact Nat.le_refl _
    | @ended s s' room _ _ hpull | @failed s s' room _ _ _ hpull _ =>
      have := inputSize_pull_snd_le s room
      rwa [hpull] at this
  have htwo : mid.calls.length ≤ 2 := by
    rw [hmid]
    split
    · exact Nat.zero_le 2
    · exact length_callsWhenReady_le ..
  simp only at hcalls
  omega

/-- A buffer that gets full takes no further calls. -/
theorem length_callsToFill_of_full {s s' : Session} {want : Nat} {bytes : Bytes}
    (h : s.fill want = (.ok bytes, s')) (hl : bytes.length = want) :
    (s.callsToFill want).length + 2 * s'.inputSize ≤ 2 * s.inputSize := by
  obtain ⟨mid, hturns, hlast⟩ := Filling.exists_turns_fill s want
  have hcalls : (s.callsToFill want).length + _ ≤ _ := Filling.length_calls_of_turns hturns
  have hbuffer := Filling.length_add_room_of_turns hturns
  have hmid := hlast.calls_eq
  rw [h] at hlast
  cases hlast with
  | full =>
    rw [if_pos rfl] at hmid
    simpa [hmid] using hcalls
  | ended hroom hpull =>
    -- a buffer with room left is not full
    simp only [List.length_nil] at hbuffer
    omega

/-- A buffer of `want` bytes is filled turn by turn. -/
structure FillsInTurns (s : Session) (want : Nat) : Prop where
  /-- The loop is a number of turns and a last one. -/
  turns : ∃ mid, Relation.ReflTransGen Filling.Turn ⟨s, want, []⟩ mid ∧
    Filling.LastTurn mid (s.fill want).1 (s.fill want).2
  /-- What is stored and the room that is left make up the buffer. -/
  buffer : ∀ mid, Relation.ReflTransGen Filling.Turn ⟨s, want, []⟩ mid →
    mid.stored.length + mid.room = want
  /-- A turn asks for no more than there is room for. -/
  asks : ∀ mid next, Relation.ReflTransGen Filling.Turn ⟨s, want, []⟩ mid →
    Filling.Turn mid next → mid.calls = mid.session.callsToRead mid.room ++ next.calls
  /-- So does the last one, and it asks for nothing once the buffer is full. -/
  asksLast : ∀ mid outcome s', Relation.ReflTransGen Filling.Turn ⟨s, want, []⟩ mid →
    Filling.LastTurn mid outcome s' →
    mid.calls = if mid.room = 0 then [] else mid.session.callsToRead mid.room
  /-- A turn after which the loop goes on uses up data or an event. -/
  progress : ∀ mid next, Relation.ReflTransGen Filling.Turn ⟨s, want, []⟩ mid →
    Filling.Turn mid next → mid.Progress next

/-- **Every buffer is filled turn by turn.** -/
theorem fillsInTurns (s : Session) (want : Nat) : s.FillsInTurns want where
  turns := Filling.exists_turns_fill s want
  buffer := fun mid h => by simpa using Filling.length_add_room_of_turns h
  asks := fun _ _ _ h => h.calls_eq
  asksLast := fun _ _ _ _ h => h.calls_eq
  progress := fun _ _ _ h => h.progress

end Session

end Http2
