import Http2.Stream.Basic

/-!
What arrives on a stream, one header block after another and data. Main statement: the status is
the first final one that a block names, and the fields are those of all blocks but the interim ones
before it.
-/

namespace Http2

/-! ### Statuses of header blocks -/

namespace Stream

/-- The status that a block names first, read as 16 bits. -/
def namedStatus (fs : List Field) : Option Nat :=
  (fs.find? fun f => f.1 == ":status").bind fun f => Text.word16? f.2.toList

/-- The status that a block names first is no number from 100 to 999. -/
def BadStatus (fs : List Field) : Prop :=
  ∃ f ∈ fs.find? fun f => f.1 == ":status",
    ∀ n ∈ Text.word16? f.2.toList, n < 100 ∨ 999 < n

instance (fs : List Field) : Decidable (BadStatus fs) := by
  unfold BadStatus
  infer_instance

theorem blockStatus_of_bad {fs : List Field} (h : BadStatus fs) :
    ∃ e, blockStatus fs = .error e := by
  obtain ⟨f, hf, hn⟩ := h
  refine ⟨.protocol (.status f.2), ?_⟩
  simp only [blockStatus, Option.mem_def.1 hf, parseStatus]
  split
  · next n hw =>
    have := hn n hw
    rw [if_neg (by omega)]
    rfl
  · rfl

theorem exists_of_not_badStatus {fs : List Field} (h : ¬ BadStatus fs) {f : Field}
    (hf : fs.find? (fun f => f.1 == ":status") = some f) :
    ∃ n, Text.word16? f.2.toList = some n ∧ 100 ≤ n ∧ n ≤ 999 := by
  refine Decidable.byContradiction fun hn => h ⟨f, hf, fun n hw => ?_⟩
  by_cases hb : 100 ≤ n ∧ n ≤ 999
  · exact absurd ⟨n, hw, hb⟩ hn
  · omega

theorem blockStatus_of_not_bad {fs : List Field} (h : ¬ BadStatus fs) :
    blockStatus fs = .ok (namedStatus fs) := by
  unfold blockStatus namedStatus
  cases hf : fs.find? fun f => f.1 == ":status" with
  | none => rfl
  | some f =>
    obtain ⟨n, hw, hb⟩ := exists_of_not_badStatus h hf
    simp [parseStatus, hw, hb, Except.map]

theorem bounds_of_not_badStatus {fs : List Field} (h : ¬ BadStatus fs) {n : Nat}
    (hn : namedStatus fs = some n) : 100 ≤ n ∧ n ≤ 999 := by
  obtain ⟨f, hf, hw⟩ := Option.bind_eq_some_iff.1 hn
  obtain ⟨m, hm, hb⟩ := exists_of_not_badStatus h hf
  rw [hw] at hm
  cases hm
  exact hb

/-! ### What a stream takes in -/

def takeBlock (s : Stream) (fs : List Field) : Stream :=
  s.applyBlock (namedStatus fs) fs

/-- Takes in blocks, one after another, and data. -/
def absorb (s : Stream) (blocks : List (List Field)) (data : Bytes) : Stream :=
  (blocks.foldl takeBlock s).receiveData data

variable (s : Stream) (blocks : List (List Field)) (data : Bytes)

@[simp] theorem absorb_nil : s.absorb [] [] = s := by
  simp [absorb, receiveData]

/-- An interim block without a final status before it is dropped; any other adds its fields. -/
theorem takeBlock_eq (fs : List Field) : s.takeBlock fs =
    if s.status = none ∧ (namedStatus fs).any isInterim then s
    else { s with status := s.status.or (namedStatus fs)
                  headers := s.headers ++ regularFields fs } := by
  obtain ⟨id, state, status, headers, body⟩ := s
  unfold takeBlock applyBlock
  rcases status with _ | m <;> rcases namedStatus fs with _ | n
  · simp
  · by_cases hn : isInterim n = true <;> simp [hn]
  · simp
  · simp

theorem absorb_block (fs : List Field) : s.absorb [fs] [] = s.takeBlock fs := by
  simp [absorb, receiveData]

theorem takeBlock_receiveData (fs : List Field) :
    (s.receiveData data).takeBlock fs = (s.takeBlock fs).receiveData data := by
  rw [takeBlock_eq, takeBlock_eq, receiveData, receiveData]
  split <;> rfl

theorem foldl_takeBlock_receiveData :
    blocks.foldl takeBlock (s.receiveData data) =
      (blocks.foldl takeBlock s).receiveData data := by
  induction blocks generalizing s with
  | nil => rfl
  | cons fs blocks ih => rw [List.foldl_cons, List.foldl_cons, takeBlock_receiveData, ih]

theorem absorb_absorb (blocks' : List (List Field)) (data' : Bytes) :
    (s.absorb blocks data).absorb blocks' data' =
      s.absorb (blocks ++ blocks') (data ++ data') := by
  unfold absorb
  rw [foldl_takeBlock_receiveData, List.foldl_append]
  simp [receiveData]

@[simp] theorem id_takeBlock (fs : List Field) : (s.takeBlock fs).id = s.id :=
  id_applyBlock s _ fs

@[simp] theorem id_absorb : (s.absorb blocks data).id = s.id := by
  have h : (blocks.foldl takeBlock s).id = s.id := by
    induction blocks generalizing s with
    | nil => rfl
    | cons fs blocks ih => rw [List.foldl_cons, ih, id_takeBlock]
  exact h

theorem takeBlock_of_state (fs : List Field) (state : State) :
    ({ s with state } : Stream).takeBlock fs = { s.takeBlock fs with state } := by
  rw [takeBlock_eq, takeBlock_eq]
  split <;> rfl

theorem absorb_of_state (state : State) :
    ({ s with state } : Stream).absorb blocks data = { s.absorb blocks data with state } := by
  have h : blocks.foldl takeBlock { s with state } =
      { blocks.foldl takeBlock s with state } := by
    induction blocks generalizing s with
    | nil => rfl
    | cons fs blocks ih =>
      rw [List.foldl_cons, List.foldl_cons, takeBlock_of_state, ih]
  unfold absorb
  rw [h]
  rfl

end Stream

/-! ### The response of blocks and data -/

def Stream.isFinal (fs : List Field) : Bool :=
  (namedStatus fs).any fun n => !isInterim n

namespace Response

/-- The first status that is not interim. -/
def finalStatus? (blocks : List (List Field)) : Option Nat :=
  (blocks.filterMap Stream.namedStatus).find? fun n => !Stream.isInterim n

/-- The blocks that count: before the final one those that name no status, and from it on all. -/
def counted (blocks : List (List Field)) : List (List Field) :=
  (blocks.takeWhile fun fs => !Stream.isFinal fs).filter (fun fs =>
    (Stream.namedStatus fs).isNone) ++ blocks.dropWhile fun fs => !Stream.isFinal fs

/-- The response of header blocks and data. -/
def gather (target : Nat) (blocks : List (List Field)) (data : Bytes) : Response :=
  ⟨target, finalStatus? blocks, (counted blocks).flatMap Stream.regularFields, data⟩

end Response

namespace Stream

theorem foldl_takeBlock_of_status {s : Stream} {n : Nat} (h : s.status = some n)
    (blocks : List (List Field)) : blocks.foldl takeBlock s =
      { s with headers := s.headers ++ blocks.flatMap regularFields } := by
  induction blocks generalizing s with
  | nil => simp
  | cons fs blocks ih =>
    have hone : s.takeBlock fs = { s with headers := s.headers ++ regularFields fs } := by
      simp [takeBlock, applyBlock, h]
    rw [List.foldl_cons, hone, ih (s := { s with headers := s.headers ++ regularFields fs }) h]
    simp

theorem foldl_takeBlock_of_none {s : Stream} (h : s.status = none)
    (blocks : List (List Field)) : blocks.foldl takeBlock s =
      { s with status := Response.finalStatus? blocks
               headers := s.headers ++ (Response.counted blocks).flatMap regularFields } := by
  induction blocks generalizing s with
  | nil => simp [Response.finalStatus?, Response.counted, ← h]
  | cons fs blocks ih =>
    rw [List.foldl_cons]
    cases hn : namedStatus fs with
    | none =>
      have hone : s.takeBlock fs = { s with headers := s.headers ++ regularFields fs } := by
        simp [takeBlock, applyBlock, h, hn]
      rw [hone, ih (s := { s with headers := s.headers ++ regularFields fs }) h]
      simp [Response.finalStatus?, Response.counted, isFinal, hn]
    | some n =>
      by_cases hi : isInterim n = true
      · have hone : s.takeBlock fs = s := by simp [takeBlock, applyBlock, h, hn, hi]
        rw [hone, ih h]
        simp [Response.finalStatus?, Response.counted, isFinal, hn, hi]
      · -- the final status was found, and all blocks after it count
        have hone : s.takeBlock fs =
            { s with status := some n, headers := s.headers ++ regularFields fs } := by
          simp [takeBlock, applyBlock, h, hn, hi]
        rw [hone, foldl_takeBlock_of_status rfl]
        simp [Response.finalStatus?, Response.counted, isFinal, hn, hi]

theorem response_absorb_sent (id : Nat) (blocks : List (List Field)) (data : Bytes) :
    ((new id).sent.absorb blocks data).response = .gather id blocks data := by
  have h : blocks.foldl takeBlock (new id).sent = _ := foldl_takeBlock_of_none rfl blocks
  rw [absorb, h]
  simp [response, receiveData, Response.gather, new, sent]

theorem response_absorb_frameReceived (s : Stream) (blocks : List (List Field)) (data : Bytes) :
    (s.frameReceived.absorb blocks data).response = (s.absorb blocks data).response := by
  unfold frameReceived
  split
  · rw [absorb_of_state]
    rfl
  · rfl

end Stream

end Http2
