import Http2.Proofs.Connection.Evaluation
import Http2.Proofs.Connection.History

/-!
The header blocks of a peer and the table that they are decoded with. The table moves on with each
whole block of a HEADERS frame, on whichever stream, so it is in step with the peer's as long as
all blocks come in this way. A block that is split, or that promises a stream, is passed over, and
then the peer's table goes on alone.
-/

namespace Http2

/-! ### Blocks among frames -/

/-- The table after header blocks, one after another. -/
def Hpack.tableAfterBlocks (t : Table) (blocks : List Bytes) : Table :=
  blocks.foldl (fun t block => (decode t block).2) t

namespace Frame

/-- The header block as far as the frame brings it, with `half` before it; other frames bring
nothing. A promise names its stream in four bytes before the block. -/
def brings (half : Option Bytes) (f : Frame) : Option Bytes :=
  match f.kind with
  | .headers => some f.headerBlock
  | .pushPromise => some (f.content.drop 4)
  | .continuation => half.map (· ++ f.payload)
  | _ => none

/-- The whole header blocks that frames bring, in order, and the one that is half received. -/
def blocks (half : Option Bytes) : List Frame → List Bytes × Option Bytes
  | [] => ([], half)
  | f :: fs =>
    match f.brings half with
    | none => blocks half fs
    | some block =>
      if f.flags.endHeaders then (block :: (blocks none fs).1, (blocks none fs).2)
      else blocks (some block) fs

/-- The frame brings its header block as a whole in a HEADERS frame, if it brings one. -/
def Unsplit (f : Frame) : Prop :=
  f.kind ≠ .pushPromise ∧ (f.kind = .headers → f.flags.endHeaders = true)

instance (f : Frame) : Decidable f.Unsplit := by
  unfold Unsplit
  infer_instance

theorem tableAfter_eq (t : Hpack.Table) (f : Frame) :
    f.tableAfter t = if f.kind = .headers ∧ f.flags.endHeaders = true then
      (Hpack.decode t f.headerBlock).2 else t := by
  have hdec : (Field.decompress t f.headerBlock).2 = (Hpack.decode t f.headerBlock).2 := by
    unfold Field.decompress
    split <;> next h => rw [h]
  rw [tableAfter, hdec]

/-- **Frames that bring their blocks as a whole** move the table on by these blocks. -/
theorem foldl_tableAfter_of_unsplit {fs : List Frame} (h : ∀ f ∈ fs, f.Unsplit)
    (t : Hpack.Table) : fs.foldl tableAfter t = Hpack.tableAfterBlocks t (blocks none fs).1 := by
  induction fs generalizing t with
  | nil => rfl
  | cons f fs ih =>
    obtain ⟨hpush, hwhole⟩ := h f List.mem_cons_self
    have ih := ih fun g hg => h g (List.mem_cons_of_mem _ hg)
    rw [List.foldl_cons, ih, tableAfter_eq]
    by_cases hk : f.kind = .headers
    · have hend := hwhole hk
      simp [blocks, brings, hk, hend, Hpack.tableAfterBlocks]
    · have hnone : f.brings none = none := by
        unfold brings
        split
        · next hk' => exact absurd hk' hk
        · next hk' => exact absurd hk' hpush
        · rfl
        · rfl
      simp [blocks, hnone, hk]

end Frame

/-! ### The table of a history -/

namespace Endpoint

theorem decoder_receive {e : Endpoint} {target : Nat} {f : Frame}
    (stands : ∀ err, (e.receive target f).outcome = .error err → err.EndsStream) :
    (e.receive target f).endpoint.decoder = f.tableAfter e.decoder := by
  by_cases hf : f.Fatal e.decoder target
  · -- the failure ends the stream alone, so the frame is a reset or a shutdown
    obtain ⟨e', err, hfail⟩ := receive_of_fatal hf
    have hout : (e.receive target f).outcome = .error err := by rw [hfail]; rfl
    obtain ⟨hdec, hk⟩ := (effect_receive e target f).decoder_of_endsStream hout (stands err hout)
    rw [hdec, Frame.tableAfter, if_neg fun h => hk h.1]
  · exact (takes_receive hf).decoder

theorem Trace.decoder {es : List Event} {e : Endpoint} (h : Trace es e) :
    e.decoder = (es.flatMap Event.incoming).foldl Frame.tableAfter .initial := by
  induction h with
  | opened => rfl
  | sent _ prepared ih =>
    simpa [Event.incoming, markSent, ← ih] using (Keeps.of_prepare prepared).decoder
  | refused _ prepared ih => simpa [Event.incoming, ← ih] using (Keeps.of_prepare prepared).decoder
  | came _ stands ih =>
    rw [decoder_receive stands]
    simp [Event.incoming, ← ih, noteFrame]
  | taken _ target ih => exact ih

end Endpoint

namespace Connection

variable {t : Transport} {c mid : Connection} {target : Nat}

/-- The table for responses is the one after all whole header blocks of the frames taken in. -/
def InStep (t : Transport) (c : Connection) : Prop :=
  c.decoder = Hpack.tableAfterBlocks .initial (Frame.blocks none (c.framesTaken t)).1

/-- **Response blocks and their table.** On a connection that was opened, after any calls and in
any round of a wait that leave it in use: whole frames were taken in, and the table is the one
after the blocks of their HEADERS frames that are whole, on whatever stream, in order. If all
header blocks came in this way, it is the table after all of them. -/
theorem decoder_of_framesTaken {timeout : Option Nat} (hopen : openOn t timeout = (.ok (), c))
    (calls : List Call) (hu : (c.run calls).phase.IsUsable)
    (hr : Relation.ReflTransGen (Round target) (c.run calls) mid) :
    (Frame.decodeAll (mid.bytesTaken t)).2 = [] ∧
    mid.decoder = (mid.framesTaken t).foldl Frame.tableAfter .initial ∧
    ((∀ f ∈ mid.framesTaken t, f.Unsplit) → mid.InStep t) := by
  obtain ⟨es, hrun⟩ := exists_follows_run hopen calls hu
  obtain ⟨more, -, hmid⟩ := hrun.rounds hr
  have hdecoder : mid.decoder = (mid.framesTaken t).foldl Frame.tableAfter .initial := by
    rw [hmid.framesTaken_eq]
    exact hmid.trace.decoder
  refine ⟨by rw [hmid.decodeAll_bytesTaken], hdecoder, fun hunsplit => ?_⟩
  rw [InStep, hdecoder, Frame.foldl_tableAfter_of_unsplit hunsplit]

/-- Responses on two streams. The second one names a field of the first one by its index. -/
def twoResponses : Transport :=
  { input := [.data [0, 0, 0, 4, 0, 0, 0, 0, 0],
      .data [0, 0, 10, 1, 5, 0, 0, 0, 1, 0x88, 0x40, 5, 120, 45, 110, 101, 119, 1, 118],
      .data [0, 0, 2, 1, 5, 0, 0, 0, 3, 0x88, 0xbe], .eof]
    protocol := some protocolName }

def secondOnly : List Call :=
  [.sendRequest "GET" "a" "/" [], .sendRequest "GET" "a" "/" [], .recvResponse 3]

theorem decoder_of_framesTaken_secondOnly :
    (openOn twoResponses none).1 = .ok () ∧
    ((openOn twoResponses none).2.run secondOnly).phase = .ready ∧
    (∀ f ∈ ((openOn twoResponses none).2.run secondOnly).framesTaken twoResponses, f.Unsplit) ∧
    (Frame.blocks none
      (((openOn twoResponses none).2.run secondOnly).framesTaken twoResponses)).1.length = 2 ∧
    ((openOn twoResponses none).2.run secondOnly).InStep twoResponses := by
  have hopen : (openOn twoResponses none).1 = .ok () := by cbv
  have hrun : ((openOn twoResponses none).2.runWithin 3 secondOnly).map (fun x => (x.2.phase,
      (x.2.framesTaken twoResponses).all (decide ·.Unsplit),
      (Frame.blocks none (x.2.framesTaken twoResponses)).1.length)) =
      some (Phase.ready, true, 2) := by cbv
  have hview := of_runWithin hrun
  simp only [Prod.mk.injEq, List.all_eq_true, decide_eq_true_eq] at hview
  obtain ⟨hphase, hunsplit, hlen⟩ := hview
  obtain ⟨-, -, hstep⟩ := decoder_of_framesTaken (Prod.ext hopen rfl) secondOnly
    (by rw [hphase]; trivial) (.refl : Relation.ReflTransGen (Round 3) _ _)
  exact ⟨hopen, hphase, hunsplit, hlen, hstep hunsplit⟩

/-! ### Blocks that are passed over -/

/-- A response on `t` leaves the connection ready and no block half received, but the tables out
of step. -/
def LosesStep (t : Transport) : Prop :=
  (openOn t none).1 = .ok () ∧
  ((openOn t none).2.run [.get "a" "/"]).phase = .ready ∧
  (Frame.blocks none (((openOn t none).2.run [.get "a" "/"]).framesTaken t)).2 = none ∧
  ¬ ((openOn t none).2.run [.get "a" "/"]).InStep t

/-- The peer's table has one field, and the connection's has none. -/
theorem losesStep_of_runWithin {t : Transport} (fuel : Nat) (hopen : (openOn t none).1 = .ok ())
    (h : ((openOn t none).2.runWithin fuel [.get "a" "/"]).map (fun x => (x.2.phase,
        (Frame.blocks none (x.2.framesTaken t)).2, x.2.decoder.entries.length,
        (Hpack.tableAfterBlocks .initial
          (Frame.blocks none (x.2.framesTaken t)).1).entries.length)) =
      some (Phase.ready, none, 0, 1)) : LosesStep t := by
  have hview := of_runWithin h
  simp only [Prod.mk.injEq] at hview
  obtain ⟨hphase, hhalf, hours, htheirs⟩ := hview
  refine ⟨hopen, hphase, hhalf, fun hstep => ?_⟩
  rw [← hstep, hours] at htheirs
  cases htheirs

/-- A promise with a field for the peer's table comes before the response. -/
def promising : Transport :=
  { input := [.data [0, 0, 0, 4, 0, 0, 0, 0, 0],
      .data [0, 0, 19, 5, 4, 0, 0, 0, 1, 0, 0, 0, 2,
        0x82, 0x87, 0x84, 1, 1, 97, 0x40, 5, 120, 45, 110, 101, 119, 1, 118],
      .data [0, 0, 1, 1, 5, 0, 0, 0, 1, 0x88], .eof]
    protocol := some protocolName }

/-- The block of the response goes on in a CONTINUATION frame. -/
def splitting : Transport :=
  { input := [.data [0, 0, 0, 4, 0, 0, 0, 0, 0],
      .data [0, 0, 5, 1, 0, 0, 0, 0, 1, 0x88, 0x40, 5, 120, 45],
      .data [0, 0, 5, 9, 4, 0, 0, 0, 1, 110, 101, 119, 1, 118],
      .data [0, 0, 0, 0, 1, 0, 0, 0, 1], .eof]
    protocol := some protocolName }

theorem losesStep_promising_splitting : LosesStep promising ∧ LosesStep splitting := by
  constructor
  · exact losesStep_of_runWithin 3 (by cbv) (by cbv)
  · exact losesStep_of_runWithin 4 (by cbv) (by cbv)

end Connection

end Http2
