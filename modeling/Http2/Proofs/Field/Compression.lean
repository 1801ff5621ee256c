import Http2.Connection.Endpoint
import Http2.Proofs.Field.Validity
import Http2.Proofs.Hpack.Known

/-!
The compression of requests. The entries of the encoder's table come from regular fields that
passed the check of a request, so at any time one more request could carry all of them.
-/

namespace Http2

namespace Field

/-- What the pseudo-headers of a request leave open. -/
def seenPseudo : Seen := { pseudo := requestPseudoNames.reverse }

theorem isFull_seenPseudo : seenPseudo.IsFull :=
  .inr fun _ h => List.mem_reverse.2 h

theorem firstFault?_requestFields (method authority path : String) (extra : List Field) :
    firstFault? {} (Endpoint.requestFields method authority path extra) =
      firstFault? seenPseudo extra := by
  have hpseudo : isPseudoName ":method" = true ∧ isPseudoName ":scheme" = true ∧
      isPseudoName ":authority" = true ∧ isPseudoName ":path" = true := by
    decide +kernel
  obtain ⟨h₁, h₂, h₃, h₄⟩ := hpseudo
  simp [Endpoint.requestFields, firstFault?, fault?, pseudoFault?, Seen.add, seenPseudo,
    requestPseudoNames, h₁, h₂, h₃, h₄]

/-- The pseudo-headers of a request pass with any values, and just the regular fields after
them. -/
theorem validateRequest_requestFields_iff (method authority path : String) {extra : List Field} :
    validateRequest (Endpoint.requestFields method authority path extra) = .ok () ↔
      ∀ f ∈ extra, Regular f := by
  rw [validateRequest_eq_ok_iff, firstFault?_requestFields,
    firstFault?_eq_none_iff_of_isFull isFull_seenPseudo]

theorem validateRequest_requestFields (method authority path : String) {extra : List Field}
    (h : ∀ f ∈ extra, Regular f) :
    validateRequest (Endpoint.requestFields method authority path extra) = .ok () :=
  (validateRequest_requestFields_iff method authority path).2 h

theorem static_of_requestPseudoName :
    ∀ name ∈ requestPseudoNames,
      ∃ x ∈ Hpack.staticEntries, x.name = Text.Utf8.encode name := by
  decide +kernel

end Field

namespace Hpack

/-- A table that the encoder of requests can come to: bounded, without repetitions, and with
entries that come from regular fields. -/
structure Table.Kept (t : Table) : Prop extends t.Bounded, t.Distinct where
  fields : ∀ e ∈ t.entries, ∃ f : Field, f.toEntry = e ∧ f.Regular

theorem Table.kept_initial : Table.initial.Kept :=
  ⟨Table.bounded_initial, Table.distinct_initial, nofun⟩

theorem Table.Kept.encodeField {t : Table} (h : t.Kept) {f : Field}
    (hf : f.Regular ∨ f.1 ∈ Field.requestPseudoNames) :
    (encodeField t f.toEntry).2.Kept := by
  refine ⟨h.toBounded.encodeField _, h.toDistinct.encodeField _, ?_⟩
  have hamong := t.search_among f.toEntry
  unfold Hpack.encodeField
  split
  · exact h.fields
  · exact h.fields
  · next hs =>
    rw [hs] at hamong
    have hreg : f.Regular := by
      refine hf.resolve_right fun hp => ?_
      obtain ⟨x, hx, hn⟩ := Field.static_of_requestPseudoName f.1 hp
      exact hamong x (List.mem_append_left _ hx) hn
    intro e he
    rcases List.mem_cons.1 ((fit_isPrefix _ _).subset he) with rfl | he
    · exact ⟨f, rfl, hreg⟩
    · exact h.fields e he

/-- **The encoder's table stays as requests leave it.** -/
theorem Table.Kept.encode {t : Table} (h : t.Kept) {fs : List Field}
    (hfs : ∀ f ∈ fs, f.Regular ∨ f.1 ∈ Field.requestPseudoNames) :
    (encode t (fs.map Field.toEntry)).2.Kept := by
  induction fs generalizing t with
  | nil => exact h
  | cons f fs ih =>
    exact ih (h.encodeField (hfs f List.mem_cons_self)) fun f hf =>
      hfs f (List.mem_cons_of_mem _ hf)

theorem Table.Kept.exists_fields {t : Table} (h : t.Kept) :
    ∃ fs : List Field, fs.map Field.toEntry = t.entries ∧ ∀ f ∈ fs, f.Regular := by
  have hfields := h.fields
  generalize t.entries = es at hfields
  induction es with
  | nil => exact ⟨[], rfl, nofun⟩
  | cons e es ih =>
    obtain ⟨fs, hfs, hreg⟩ := ih fun e he => hfields e (List.mem_cons_of_mem _ he)
    obtain ⟨f, hf, hr⟩ := hfields e List.mem_cons_self
    refine ⟨f :: fs, by rw [List.map_cons, hf, hfs], fun g hg => ?_⟩
    rcases List.mem_cons.1 hg with rfl | hg
    · exact hr
    · exact hreg g hg

end Hpack

end Http2
