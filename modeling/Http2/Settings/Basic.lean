import Http2.Error

/-!
The settings that a peer announced. Main statements: settings are determined by the value of each
parameter, merging takes the later value, and it is associative with no settings as its unit. A
payload has entries of six bytes, an identifier of two and a value of four; a later entry of an
identifier replaces an earlier one, and unknown identifiers mean nothing.
-/

namespace Http2

/-- The value of each parameter that a peer announced. -/
structure Settings where
  headerTableSize : Option Nat := none
  enablePush : Option Nat := none
  maxConcurrentStreams : Option Nat := none
  initialWindowSize : Option Nat := none
  maxFrameSize : Option Nat := none
  maxHeaderListSize : Option Nat := none
  enableConnectProtocol : Option Nat := none
  noRfc7540Priorities : Option Nat := none
  deriving DecidableEq, Repr

namespace Settings

def empty : Settings := {}

/-- The announced value of a parameter. -/
def get (s : Settings) : Parameter → Option Nat
  | .headerTableSize => s.headerTableSize
  | .enablePush => s.enablePush
  | .maxConcurrentStreams => s.maxConcurrentStreams
  | .initialWindowSize => s.initialWindowSize
  | .maxFrameSize => s.maxFrameSize
  | .maxHeaderListSize => s.maxHeaderListSize
  | .enableConnectProtocol => s.enableConnectProtocol
  | .noRfc7540Priorities => s.noRfc7540Priorities

def ofFn (f : Parameter → Option Nat) : Settings where
  headerTableSize := f .headerTableSize
  enablePush := f .enablePush
  maxConcurrentStreams := f .maxConcurrentStreams
  initialWindowSize := f .initialWindowSize
  maxFrameSize := f .maxFrameSize
  maxHeaderListSize := f .maxHeaderListSize
  enableConnectProtocol := f .enableConnectProtocol
  noRfc7540Priorities := f .noRfc7540Priorities

@[simp] theorem get_ofFn (f : Parameter → Option Nat) (p : Parameter) : (ofFn f).get p = f p := by
  cases p <;> rfl

@[simp] theorem get_empty (p : Parameter) : empty.get p = none := by cases p <;> rfl

theorem eq_of_get {s t : Settings} (h : ∀ p, s.get p = t.get p) : s = t := by
  cases s
  cases t
  simp only [mk.injEq]
  exact ⟨h .headerTableSize, h .enablePush, h .maxConcurrentStreams, h .initialWindowSize,
    h .maxFrameSize, h .maxHeaderListSize, h .enableConnectProtocol, h .noRfc7540Priorities⟩

/-! ### Changes -/

/-- Stores the value of one parameter. -/
def set (s : Settings) (p : Parameter) (value : Nat) : Settings :=
  ofFn fun q => if q = p then some value else s.get q

/-- The values of `later` where it has one, else those of `s`. -/
def merge (s later : Settings) : Settings :=
  ofFn fun p => (later.get p).or (s.get p)

@[simp] theorem get_set (s : Settings) (p q : Parameter) (value : Nat) :
    (s.set p value).get q = if q = p then some value else s.get q := by
  simp [set]

@[simp] theorem get_merge (s later : Settings) (p : Parameter) :
    (s.merge later).get p = (later.get p).or (s.get p) := by
  simp [merge]

@[simp] theorem merge_empty (s : Settings) : s.merge empty = s :=
  eq_of_get fun p => by simp

@[simp] theorem empty_merge (s : Settings) : empty.merge s = s :=
  eq_of_get fun p => by simp

theorem merge_assoc (s t u : Settings) : (s.merge t).merge u = s.merge (t.merge u) :=
  eq_of_get fun p => by simp [Option.or_assoc]

/-! ### Values in force -/

/-- The greatest payload that the peer takes. -/
def maxFrameSizeInForce (s : Settings) : Nat := s.maxFrameSize.getD 16384

def initialWindowSizeInForce (s : Settings) : Nat := s.initialWindowSize.getD 65535

/-- The size of the peer's table for decoding header blocks. -/
def headerTableSizeInForce (s : Settings) : Nat := s.headerTableSize.getD 4096

/-! ### Ranges -/

/-- The parameters that are only on or off, in the order in which they are checked. -/
def binaryParameters : List Parameter :=
  [.enablePush, .enableConnectProtocol, .noRfc7540Priorities]

def binaryFault? (s : Settings) (p : Parameter) : Option Fault :=
  match s.get p with
  | none => none
  | some v => if v ≤ 1 then none else some (.notBinary p v)

def windowFault? (s : Settings) : Option Fault :=
  match s.initialWindowSize with
  | none => none
  | some v => if v ≤ 0x7FFFFFFF then none else some (.initialWindowSize v)

def frameFault? (s : Settings) : Option Fault :=
  match s.maxFrameSize with
  | none => none
  | some v => if 16384 ≤ v ∧ v ≤ 16777215 then none else some (.maxFrameSize v)

def fault? (s : Settings) : Option Fault :=
  (binaryParameters.findSome? s.binaryFault?).or (s.windowFault?.or s.frameFault?)

/-- Refuses settings with a value out of its range. -/
def validate (s : Settings) : Except Error Unit :=
  match s.fault? with
  | none => .ok ()
  | some fault => .error (.settings fault)

/-! ### Payloads -/

def entrySize : Nat := 6

/-- The entries of a payload, each with its identifier and its value. -/
def entries : Bytes → List (Nat × Nat)
  | i₁ :: i₀ :: v₃ :: v₂ :: v₁ :: v₀ :: rest =>
    (Bytes.toNat [i₁, i₀], Bytes.toNat [v₃, v₂, v₁, v₀]) :: entries rest
  | _ => []

/-- Stores an entry whose identifier is known. -/
def apply (s : Settings) (entry : Nat × Nat) : Settings :=
  match Parameter.ofId? entry.1 with
  | none => s
  | some p => s.set p entry.2

def ofEntries (es : List (Nat × Nat)) : Settings :=
  es.foldl apply empty

/-- Reads a payload, and refuses values out of their range. -/
def decode (payload : Bytes) : Except Error Settings :=
  if payload.length % entrySize = 0 then
    let s := ofEntries (entries payload)
    s.validate.map fun () => s
  else .error (.frameSize (.settingsPayload payload.length))

theorem ofEntries_concat (es : List (Nat × Nat)) (e : Nat × Nat) :
    ofEntries (es ++ [e]) = (ofEntries es).apply e := by
  simp [ofEntries]

end Settings

end Http2
