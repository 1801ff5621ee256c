import Http2.Frame.Transfer

/-!
Two runs side by side. A relation between sessions that filling a buffer keeps, with one outcome on
both sides, is kept by reading a frame; one that writing and flushing keep is kept by writing a
frame.
-/

namespace Http2

/-- Two runs come to one outcome, and to states that are related. -/
inductive Agree {α β : Type} (R : β → β → Prop) : α × β → α × β → Prop
  | intro (outcome : α) {b b' : β} (related : R b b') : Agree R (outcome, b) (outcome, b')

namespace Agree

variable {α β : Type} {R : β → β → Prop} {x y : α × β}

theorem of_eq {outcome : α} {b b' : β} (hx : x = (outcome, b)) (hy : y = (outcome, b'))
    (related : R b b') : Agree R x y := by
  rw [hx, hy]
  exact .intro outcome related

theorem fst_eq (h : Agree R x y) : y.1 = x.1 := by
  cases h
  rfl

theorem snd (h : Agree R x y) : R x.2 y.2 := by
  cases h
  assumption

theorem imp {S : β → β → Prop} (h : Agree R x y) (hs : R x.2 y.2 → S x.2 y.2) : Agree S x y := by
  cases h with
  | intro outcome related => exact .intro outcome (hs related)

theorem exists_of_eq {outcome : α} {b : β} (h : Agree R x y) (hx : x = (outcome, b)) :
    ∃ b', y = (outcome, b') ∧ R b b' := by
  cases h with
  | intro outcome related =>
    cases hx
    exact ⟨_, rfl, related⟩

end Agree

namespace Session

variable {R : Session → Session → Prop} {s s' : Session}

theorem agree_readFrameUpTo
    (fill : ∀ s s' want, R s s' → Agree R (s.fill want) (s'.fill want)) (h : R s s') (limit : Nat) :
    Agree R (s.readFrameUpTo limit) (s'.readFrameUpTo limit) := by
  unfold Session.readFrameUpTo
  have hheader := fill s s' Frame.headerSize h
  generalize s.fill Frame.headerSize = x, s'.fill Frame.headerSize = y at hheader
  cases hheader with | @intro r d d' h₁ =>
  rcases r with e | bytes
  · exact .intro _ h₁
  · simp only
    split
    · exact .intro _ h₁
    · next header rest hh =>
      split
      · exact .intro _ h₁
      · have hpayload := fill d d' header.length h₁
        generalize d.fill header.length = x, d'.fill header.length = y at hpayload
        cases hpayload with | intro r h₂ =>
        rcases r with e | payload
        · exact .intro _ h₂
        · simp only
          split
          · exact .intro _ h₂
          · exact .intro _ h₂

theorem agree_writeFrame
    (writeAll : ∀ s s' bytes, R s s' → Agree R (s.writeAll bytes) (s'.writeAll bytes))
    (flush : ∀ s s', R s s' → Agree R s.flush s'.flush) (h : R s s') (f : Frame) :
    Agree R (s.writeFrame f) (s'.writeFrame f) := by
  unfold Session.writeFrame
  have hwrite := writeAll s s' f.encode h
  generalize s.writeAll f.encode = x, s'.writeAll f.encode = y at hwrite
  cases hwrite with | @intro r d d' h₁ =>
  rcases r with e | u
  · exact .intro _ h₁
  · have hflush := flush d d' h₁
    simp only
    generalize d.flush = x, d'.flush = y at hflush
    cases hflush with | intro r h₂ =>
    rcases r with e | u
    · exact .intro _ h₂
    · exact .intro _ h₂

end Session

end Http2
