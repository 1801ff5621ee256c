import Http2.Frame.Wire
import Http2.Session

/-!
Frames over a session. Main statement: a frame that was read took at least its nine bytes of
header off the input, so a loop over frames ends.
-/

namespace Http2.Session

/-- Reads one frame with a payload of at most `limit` bytes. A longer one is refused by its header
alone, and its payload stays unread. -/
def readFrameUpTo (s : Session) (limit : Nat) : Except Error Frame × Session :=
  match s.fill Frame.headerSize with
  | (.error e, s) => (.error (.io e), s)
  | (.ok bytes, s) =>
    match hh : Frame.Header.take? bytes with
    | none => (.error (.shortRead Frame.headerSize bytes.length), s)
    | some (header, _) =>
      if limit < header.length then
        (.error (.frameSize (.overLimit header.kind header.length limit)), s)
      else
        match s.fill header.length with
        | (.error e, s) => (.error (.io e), s)
        | (.ok payload, s) =>
          if hl : payload.length = header.length then
            (.ok (Frame.ofHeader header payload (Frame.Header.bounded_of_take? hh) hl), s)
          else (.error (.truncated header.length payload.length), s)

/-- Reads one frame of any length that a header can say. -/
def readFrame (s : Session) : Except Error Frame × Session :=
  s.readFrameUpTo maxPayload

def writeFrame (s : Session) (f : Frame) : Except Error Unit × Session :=
  match s.writeAll f.encode with
  | (.error e, s) => (.error (.io e), s)
  | (.ok (), s) =>
    match s.flush with
    | (.error e, s) => (.error (.io e), s)
    | (.ok (), s) => (.ok (), s)

/-- What a client writes first. -/
def preface : Bytes :=
  Text.Utf8.encode "PRI * HTTP/2.0\r\n\r\nSM\r\n\r\n"

def sendPreface (s : Session) : Except Error Unit × Session :=
  match s.writeAll preface with
  | (.error e, s) => (.error (.io e), s)
  | (.ok (), s) => s.writeFrame .initialSettings

theorem inputSize_readFrameUpTo {s s' : Session} {limit : Nat} {f : Frame}
    (h : s.readFrameUpTo limit = (.ok f, s')) :
    Frame.headerSize + s'.inputSize ≤ s.inputSize := by
  unfold readFrameUpTo at h
  split at h
  · cases h
  · next bytes s₁ h₁ =>
    split at h
    · cases h
    · next header rest hh =>
      split at h
      · cases h
      · split at h
        · cases h
        · next payload s₂ h₂ =>
          split at h
          · cases h
            have := inputSize_fill_le h₁
            have := inputSize_fill_le h₂
            have := Frame.Header.length_of_take? hh
            omega
          · cases h

theorem inputSize_writeFrame (s : Session) (f : Frame) :
    (s.writeFrame f).2.inputSize = s.inputSize := by
  have h₁ := inputSize_writeAll s f.encode
  unfold writeFrame
  split
  · next h => simpa [h] using h₁
  · next s₁ h =>
    have h₂ := inputSize_flush s₁
    rw [h] at h₁
    split
    · next hf => rw [hf] at h₂; exact h₂.trans h₁
    · next hf => rw [hf] at h₂; exact h₂.trans h₁

end Http2.Session
