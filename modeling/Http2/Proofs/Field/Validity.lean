import Mathlib.Data.List.Nodup
import Http2.Field.Basic
import Http2.Proofs.Text.Basic

/-!
The check of the fields of a request, said of their list as a whole. Main statement: just those
lists pass that name pseudo-headers of a request without repetition and then hold fields that
HTTP/2 can carry; any other list fails at its first offending field, whatever follows it.
-/

namespace Http2.Field

/-! ### One field -/

structure Regular (f : Field) : Prop where
  name : f.1 ≠ ""
  regular : isPseudoName f.1 = false
  faultless : regularFault? f.1 f.2 = none

theorem ne_and_isPseudoName {name : String} (h : name ∈ requestPseudoNames) :
    name ≠ "" ∧ isPseudoName name = true := by
  revert name
  decide +kernel

theorem fault?_eq_none_iff {seen : Seen} {f : Field} :
    fault? seen f = none ↔
      f.Regular ∨ (seen.regular = false ∧ f.1 ∈ requestPseudoNames ∧ f.1 ∉ seen.pseudo) := by
  constructor
  · intro h
    unfold fault? at h
    split at h
    · cases h
    · next hname =>
      split at h
      · unfold pseudoFault? at h
        split at h
        · cases h
        · next hr =>
          split at h
          · cases h
          · next hin =>
            split at h
            · cases h
            · next hnew => exact .inr ⟨by simpa using hr, by simpa using hin, hnew⟩
      · next hp => exact .inl ⟨hname, by simpa using hp, h⟩
  · rintro (h | ⟨hr, hin, hnew⟩)
    · simp [fault?, h.name, h.regular, h.faultless]
    · obtain ⟨hname, hp⟩ := ne_and_isPseudoName hin
      simp [fault?, pseudoFault?, hname, hp, hr, hin, hnew]

/-- A field that can follow the pseudo-headers of a request, said of its name and value. -/
structure Sendable (f : Field) : Prop where
  name_ne : f.1 ≠ ""
  regular : isPseudoName f.1 = false
  small : ∀ c ∈ f.1.toList, c.isUpper = false
  unbound : f.1 ∉ ["connection", "keep-alive", "proxy-connection", "transfer-encoding", "upgrade"]
  te : f.1 = "te" → Text.sameIgnoringCase f.2 "trailers" = true

theorem regularFault?_eq_none_iff {name value : String} :
    regularFault? name value = none ↔
      (∀ c ∈ name.toList, c.isUpper = false) ∧ name ∉ connectionNames ∧
        (name = "te" → Text.sameIgnoringCase value "trailers" = true) := by
  have hupper : Text.hasAsciiUpper name = false ↔ ∀ c ∈ name.toList, c.isUpper = false := by
    simp [Text.hasAsciiUpper]
  rw [← hupper]
  unfold regularFault?
  cases hu : Text.hasAsciiUpper name with
  | true => simp
  | false =>
    -- without capitals a name is `te` in any case only if it is `te`
    have hte : Text.sameIgnoringCase name "te" = true ↔ name = "te" := by
      rw [Text.sameIgnoringCase, Text.asciiLower_eq_self_iff.2 hu,
        Text.asciiLower_eq_self_iff.2 (by decide +kernel), beq_iff_eq]
    by_cases hc : name ∈ connectionNames
    · simp [hc]
    · simp [hc, hte]

theorem regular_iff_sendable {f : Field} : f.Regular ↔ f.Sendable := by
  constructor
  · rintro ⟨hname, hregular, hfault⟩
    obtain ⟨hsmall, hunbound, hte⟩ := regularFault?_eq_none_iff.1 hfault
    exact ⟨hname, hregular, hsmall, hunbound, hte⟩
  · rintro ⟨hname, hregular, hsmall, hunbound, hte⟩
    exact ⟨hname, hregular, regularFault?_eq_none_iff.2 ⟨hsmall, hunbound, hte⟩⟩

/-- The fault is that a pseudo-header comes after a regular field. -/
def Fault.IsOrder : Fault → Prop
  | .latePseudo _ => True
  | _ => False

theorem Fault.message_of_not_isOrder {fault : Fault} (h : ¬ fault.IsOrder) :
    ∃ text, fault.message = "Invalid header: " ++ text := by
  cases fault with
  | latePseudo name => exact absurd trivial h
  | emptyName => exact ⟨"empty header name", rfl⟩
  | te => exact ⟨"te may only be \"trailers\"", rfl⟩
  | unknownPseudo name => exact ⟨"unknown pseudo-header " ++ name, rfl⟩
  | repeatedPseudo name => exact ⟨"duplicate pseudo-header " ++ name, rfl⟩
  | upperCase name =>
    exact ⟨"header name " ++ Text.quoted name ++ " must be lowercase", rfl⟩
  | connectionSpecific name =>
    exact ⟨"connection-specific header " ++ Text.quoted name ++ " is not allowed", rfl⟩

theorem isOrder_iff_of_pseudoFault? {seen : Seen} {name : String} {fault : Fault}
    (h : pseudoFault? seen name = some fault) : fault.IsOrder ↔ seen.regular = true := by
  unfold pseudoFault? at h
  split at h
  · next hr =>
    cases h
    simp [Fault.IsOrder, hr]
  · next hr =>
    have hnot : ¬ fault.IsOrder := by
      split at h
      · cases h
        exact id
      · split at h
        · cases h
          exact id
        · cases h
    simp [hnot, hr]

theorem not_isOrder_of_regularFault? {name value : String} {fault : Fault}
    (h : regularFault? name value = some fault) : ¬ fault.IsOrder := by
  unfold regularFault? at h
  split at h
  · cases h
    exact id
  · split at h
    · cases h
      exact id
    · split at h
      · cases h
        exact id
      · cases h

theorem isOrder_iff_of_fault? {seen : Seen} {f : Field} {fault : Fault}
    (h : fault? seen f = some fault) :
    fault.IsOrder ↔ isPseudoName f.1 = true ∧ seen.regular = true := by
  unfold fault? at h
  split at h
  · next hname =>
    cases h
    simp [Fault.IsOrder, hname, isPseudoName]
  · split at h
    · next hp => rw [isOrder_iff_of_pseudoFault? h, and_iff_right hp]
    · next hp => simp [not_isOrder_of_regularFault? h, hp]

/-! ### Lists of fields -/

theorem firstFault?_cons_eq_none_iff {seen : Seen} {f : Field} {fs : List Field} :
    firstFault? seen (f :: fs) = none ↔
      fault? seen f = none ∧ firstFault? (seen.add f) fs = none := by
  rw [firstFault?]
  cases fault? seen f <;> simp

/-- A list is read from its beginning, and what follows a fault does not matter. -/
theorem firstFault?_append (seen : Seen) (pre fs : List Field) :
    firstFault? seen (pre ++ fs) =
      (firstFault? seen pre).or (firstFault? (pre.foldl Seen.add seen) fs) := by
  induction pre generalizing seen with
  | nil => rfl
  | cons f pre ih =>
    rw [List.cons_append, firstFault?, firstFault?]
    cases fault? seen f with
    | some fault => rfl
    | none => exact ih (seen.add f)

theorem exists_of_firstFault? {seen : Seen} {fs : List Field} {fault : Fault}
    (h : firstFault? seen fs = some fault) :
    ∃ pre f post, fs = pre ++ f :: post ∧ firstFault? seen pre = none ∧
      fault? (pre.foldl Seen.add seen) f = some fault := by
  induction fs generalizing seen with
  | nil => cases h
  | cons f fs ih =>
    rw [firstFault?] at h
    cases hf : fault? seen f with
    | some fault' =>
      rw [hf] at h
      exact ⟨[], f, fs, rfl, rfl, hf.trans h⟩
    | none =>
      rw [hf] at h
      obtain ⟨pre, g, post, rfl, hpre, hg⟩ := ih h
      exact ⟨f :: pre, g, post, rfl, firstFault?_cons_eq_none_iff.2 ⟨hf, hpre⟩, hg⟩

theorem regular_foldl_add (seen : Seen) (fs : List Field) :
    (fs.foldl Seen.add seen).regular = true ↔
      seen.regular = true ∨ ∃ f ∈ fs, isPseudoName f.1 = false := by
  induction fs generalizing seen with
  | nil => simp
  | cons f fs ih =>
    rw [List.foldl_cons, ih, Seen.add]
    cases hp : isPseudoName f.1 with
    | true => simp [hp]
    | false => simp [hp]

theorem validateRequest_cases (fs : List Field) :
    validateRequest fs = .ok () ∨ ∃ fault, validateRequest fs = .error (.field fault) := by
  unfold validateRequest
  split
  · exact .inl rfl
  · exact .inr ⟨_, rfl⟩

theorem validateRequest_eq_ok_iff {fs : List Field} :
    validateRequest fs = .ok () ↔ firstFault? {} fs = none := by
  unfold validateRequest
  split <;> simp_all

/-- No more pseudo-headers may come: a regular field came, or all of them did. -/
def Seen.IsFull (seen : Seen) : Prop :=
  seen.regular = true ∨ ∀ name ∈ requestPseudoNames, name ∈ seen.pseudo

theorem Seen.isFull_add_of_regular {f : Field} (h : f.Regular) (seen : Seen) :
    (seen.add f).IsFull := by
  simp [IsFull, Seen.add, h.regular]

/-- **Once no pseudo-header may come, just the regular fields pass.** -/
theorem firstFault?_eq_none_iff_of_isFull {seen : Seen} (hseen : seen.IsFull) {fs : List Field} :
    firstFault? seen fs = none ↔ ∀ f ∈ fs, Regular f := by
  induction fs generalizing seen with
  | nil => simp [firstFault?]
  | cons f fs ih =>
    have hf : fault? seen f = none ↔ f.Regular := by
      rw [fault?_eq_none_iff, or_iff_left]
      rintro ⟨hr, hin, hnew⟩
      rcases hseen with h | h
      · rw [h] at hr
        cases hr
      · exact hnew (h _ hin)
    rw [firstFault?_cons_eq_none_iff, hf, List.forall_mem_cons]
    exact and_congr_right fun h => ih (seen.isFull_add_of_regular h)

theorem regular_of_firstFault? {seen : Seen} {fs : List Field} (h : firstFault? seen fs = none) :
    ∀ f ∈ fs, Regular f ∨ f.1 ∈ requestPseudoNames := by
  induction fs generalizing seen with
  | nil => exact fun f hf => nomatch hf
  | cons g fs ih =>
    obtain ⟨hg, hfs⟩ := firstFault?_cons_eq_none_iff.1 h
    intro f hf
    rcases List.mem_cons.1 hf with rfl | hf
    · exact (fault?_eq_none_iff.1 hg).imp_right fun hp => hp.2.1
    · exact ih hfs f hf

theorem regular_of_validateRequest {fs : List Field} (h : validateRequest fs = .ok ()) :
    ∀ f ∈ fs, Regular f ∨ f.1 ∈ requestPseudoNames :=
  regular_of_firstFault? (validateRequest_eq_ok_iff.1 h)

/-! ### The shape of a request -/

theorem Seen.add_of_mem {f : Field} (h : f.1 ∈ requestPseudoNames) (seen : Seen) :
    (seen.add f).regular = seen.regular ∧ (seen.add f).pseudo = f.1 :: seen.pseudo := by
  rw [Seen.add, if_pos (ne_and_isPseudoName h).2]
  exact ⟨rfl, rfl⟩

/-- **As long as no regular field came**, more pseudo-headers pass, each once in all, and the
regular fields after them. -/
theorem firstFault?_eq_none_iff {seen : Seen} (hseen : seen.regular = false)
    (hnodup : seen.pseudo.Nodup) {fs : List Field} :
    firstFault? seen fs = none ↔ ∃ pseudo regular, fs = pseudo ++ regular ∧
      (∀ f ∈ pseudo, f.1 ∈ requestPseudoNames) ∧
      ((pseudo.map Prod.fst).reverse ++ seen.pseudo).Nodup ∧ ∀ f ∈ regular, Regular f := by
  constructor
  · intro h
    induction fs generalizing seen with
    | nil => exact ⟨[], [], rfl, nofun, hnodup, nofun⟩
    | cons f fs ih =>
      obtain ⟨hf, hfs⟩ := firstFault?_cons_eq_none_iff.1 h
      rcases fault?_eq_none_iff.1 hf with hreg | ⟨-, hin, hnew⟩
      · have hfull := seen.isFull_add_of_regular hreg
        exact ⟨[], f :: fs, rfl, nofun, hnodup,
          List.forall_mem_cons.2 ⟨hreg, (firstFault?_eq_none_iff_of_isFull hfull).1 hfs⟩⟩
      · obtain ⟨hregular, hadd⟩ := seen.add_of_mem hin
        have hnodup' : (seen.add f).pseudo.Nodup := hadd ▸ List.nodup_cons.2 ⟨hnew, hnodup⟩
        obtain ⟨pseudo, regular, rfl, hpseudo, hall, hreg⟩ :=
          ih (hregular.trans hseen) hnodup' hfs
        refine ⟨f :: pseudo, regular, rfl, List.forall_mem_cons.2 ⟨hin, hpseudo⟩, ?_, hreg⟩
        rw [hadd] at hall
        simpa using hall
  · rintro ⟨pseudo, regular, rfl, hpseudo, hall, hregular⟩
    induction pseudo generalizing seen with
    | nil =>
      cases regular with
      | nil => rfl
      | cons f fs =>
        obtain ⟨hreg, hrest⟩ := List.forall_mem_cons.1 hregular
        have hfull := seen.isFull_add_of_regular hreg
        exact firstFault?_cons_eq_none_iff.2 ⟨fault?_eq_none_iff.2 (.inl hreg),
          (firstFault?_eq_none_iff_of_isFull hfull).2 hrest⟩
    | cons f pseudo ih =>
      obtain ⟨hin, hpseudo⟩ := List.forall_mem_cons.1 hpseudo
      obtain ⟨hkept, hadd⟩ := seen.add_of_mem hin
      have hall' : ((pseudo.map Prod.fst).reverse ++ (seen.add f).pseudo).Nodup := by
        rw [hadd]
        simpa using hall
      have hnodup' : (seen.add f).pseudo.Nodup := (List.nodup_append.1 hall').2.1
      have hnew : f.1 ∉ seen.pseudo := (List.nodup_cons.1 (hadd ▸ hnodup')).1
      exact firstFault?_cons_eq_none_iff.2 ⟨fault?_eq_none_iff.2 (.inr ⟨hseen, hin, hnew⟩),
        ih (hkept.trans hseen) hnodup' hpseudo hall'⟩

/-- The fields of a request: pseudo-headers of a request, none of them twice, and then fields that
can follow them. -/
def RequestForm (fs : List Field) : Prop :=
  ∃ pseudo regular, fs = pseudo ++ regular ∧
    (∀ f ∈ pseudo, f.1 ∈ [":method", ":scheme", ":authority", ":path"]) ∧
    (pseudo.map Prod.fst).Nodup ∧ ∀ f ∈ regular, f.Sendable

theorem validateRequest_eq_ok_iff_requestForm {fs : List Field} :
    validateRequest fs = .ok () ↔ RequestForm fs := by
  have hnodup : ({} : Seen).pseudo.Nodup := .nil
  rw [validateRequest_eq_ok_iff, firstFault?_eq_none_iff rfl hnodup]
  simp only [List.append_nil, List.nodup_reverse, regular_iff_sendable]
  exact Iff.rfl

/-- **The check of a request's fields.** A list passes exactly if it has the form of a request. One
that does not pass has a first field at fault: the list before it passes, every list that begins
with both fails in the same way, and the failure is one of order exactly if the field is a
pseudo-header after a regular field, and reported as an invalid header otherwise. -/
theorem validateRequest_decides (fs : List Field) :
    (validateRequest fs = .ok () ↔ RequestForm fs) ∧
      ∀ e, validateRequest fs = .error e →
        ∃ fault pre f post, e = .field fault ∧ fs = pre ++ f :: post ∧
          validateRequest pre = .ok () ∧
          (∀ rest, validateRequest (pre ++ f :: rest) = .error e) ∧
          (fault.IsOrder ↔ isPseudoName f.1 = true ∧ ∃ g ∈ pre, isPseudoName g.1 = false) ∧
          (¬ fault.IsOrder → ∃ text, e.message = "Invalid header: " ++ text) := by
  refine ⟨validateRequest_eq_ok_iff_requestForm, fun e he => ?_⟩
  unfold validateRequest at he
  split at he
  · cases he
  · next fault hfault =>
    cases he
    obtain ⟨pre, f, post, rfl, hpre, hf⟩ := exists_of_firstFault? hfault
    have hfail (rest : List Field) :
        validateRequest (pre ++ f :: rest) = .error (.field fault) := by
      have hfirst : firstFault? {} (pre ++ f :: rest) = some fault := by
        rw [firstFault?_append, hpre, Option.none_or, firstFault?, hf]
      rw [validateRequest, hfirst]
    refine ⟨fault, pre, f, post, rfl, rfl, validateRequest_eq_ok_iff.2 hpre, hfail, ?_,
      Fault.message_of_not_isOrder⟩
    rw [isOrder_iff_of_fault? hf, regular_foldl_add]
    simp

end Http2.Field
