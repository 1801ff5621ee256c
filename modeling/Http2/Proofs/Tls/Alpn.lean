import Mathlib.Data.List.Basic
import Http2.Proofs.Frame.Padding
import Http2.Proofs.Text.Basic
import Http2.Tls.Config

/-!
The negotiation of a protocol, both sides of it. A list of names is a run of entries, each behind
its length, and a server chooses the first whole entry that it speaks, whatever the bytes are. Main
statement: from a client's encoded list that is the first of its names that the server speaks.
-/

namespace Http2.Tls.Alpn

/-! ### Entries -/

def prefixed (name : Bytes) : Bytes := UInt8.ofNat name.length :: name

/-- The whole entries of a list, in order. From one that reaches past the end there are none. -/
def entries : Bytes → List Bytes
  | [] => []
  | length :: rest =>
    if rest.length < length.toNat then []
    else rest.take length.toNat :: entries (rest.drop length.toNat)
termination_by bs => bs.length
decreasing_by simp only [List.length_drop, List.length_cons]; omega

theorem select_eq_find? (spoken : List Bytes) (wire : Bytes) :
    select spoken wire = (entries wire).find? (· ∈ spoken) := by
  fun_induction select spoken wire with
  | case1 => rw [entries, List.find?_nil]
  | case2 length rest hlen => rw [entries, if_pos hlen, List.find?_nil]
  | case3 length rest hlen name hm =>
    rw [entries, if_neg hlen, List.find?_cons_of_pos (by simpa using hm)]
  | case4 length rest hlen name hm ih =>
    rw [entries, if_neg hlen, List.find?_cons_of_neg (by simpa using hm), ih]

theorem entries_prefixed_append {name : Bytes} (hn : name.length ≤ 255) (rest : Bytes) :
    entries (prefixed name ++ rest) = name :: entries rest := by
  have hlen : (UInt8.ofNat name.length).toNat = name.length :=
    UInt8.toNat_ofNat_of_lt' (Nat.lt_succ_of_le hn)
  rw [prefixed, List.cons_append, entries, hlen, if_neg (by simp), List.take_left, List.drop_left]

theorem entries_flatMap_prefixed {names : List Bytes} (hn : ∀ name ∈ names, name.length ≤ 255)
    (rest : Bytes) : entries (names.flatMap prefixed ++ rest) = names ++ entries rest := by
  induction names with
  | nil => rfl
  | cons name names ih =>
    rw [List.flatMap_cons, List.append_assoc, entries_prefixed_append (hn name List.mem_cons_self),
      ih fun name hm => hn name (List.mem_cons_of_mem _ hm), List.cons_append]

/-- A list is its whole entries and a rest that has none, and no entry is longer than its length
can say. -/
theorem exists_entries (wire : Bytes) :
    (∃ rest, wire = (entries wire).flatMap prefixed ++ rest) ∧
      ∀ name ∈ entries wire, name.length ≤ 255 := by
  fun_induction entries wire with
  | case1 => exact ⟨⟨[], rfl⟩, nofun⟩
  | case2 length rest hlen => exact ⟨⟨length :: rest, rfl⟩, nofun⟩
  | case3 length rest hlen ih =>
    obtain ⟨⟨left, hleft⟩, hall⟩ := ih
    have htake : (rest.take length.toNat).length = length.toNat := by
      rw [List.length_take]
      omega
    have hprefixed : prefixed (rest.take length.toNat) = length :: rest.take length.toNat := by
      rw [prefixed, htake, UInt8.ofNat_toNat]
    refine ⟨⟨left, ?_⟩, ?_⟩
    · rw [List.flatMap_cons, hprefixed, List.append_assoc, ← hleft, List.cons_append,
        List.take_append_drop]
    · intro name hm
      rcases List.mem_cons.1 hm with rfl | hm
      · rw [htake]
        exact Nat.le_of_lt_succ length.toNat_lt
      · exact hall name hm

/-- **The choice from any bytes** is an entry that lies in them whole, behind entries that the
server does not speak. -/
theorem select_eq_some_iff {spoken : List Bytes} {wire name : Bytes} :
    select spoken wire = some name ↔
      name ∈ spoken ∧ name.length ≤ 255 ∧
        ∃ (skipped : List Bytes) (rest : Bytes),
          wire = skipped.flatMap prefixed ++ (prefixed name ++ rest) ∧
            ∀ other ∈ skipped, other ∉ spoken ∧ other.length ≤ 255 := by
  rw [select_eq_find?, List.find?_eq_some_iff_append]
  constructor
  · rintro ⟨hspoken, skipped, others, hsplit, hskipped⟩
    obtain ⟨⟨rest, hwire⟩, hall⟩ := exists_entries wire
    rw [hsplit] at hwire hall
    refine ⟨by simpa using hspoken, hall name (by simp), skipped, others.flatMap prefixed ++ rest,
      ?_, fun other hm => ⟨by simpa using hskipped other hm, hall other (by simp [hm])⟩⟩
    rw [hwire]
    simp
  · rintro ⟨hspoken, hlen, skipped, rest, rfl, hskipped⟩
    refine ⟨by simpa using hspoken, skipped, entries rest, ?_, fun other hm => ?_⟩
    · rw [entries_flatMap_prefixed fun other hm => (hskipped other hm).2,
        entries_prefixed_append hlen]
    · simpa using (hskipped other hm).1

/-! ### The choice by positions -/

/-- The choice as a walk over the positions of a buffer, from `pos` on: `none` where a byte or a
slice out of range would be read. -/
def walk (spoken : List Bytes) (wire : Bytes) (pos : Nat) : Option (Option Bytes) :=
  if pos < wire.length then
    match wire[pos]? with
    | none => none
    | some length =>
      if wire.length < pos + 1 + length.toNat then some none
      else
        match wire.slice? (pos + 1) (pos + 1 + length.toNat) with
        | none => none
        | some name =>
          if name ∈ spoken then some (some name) else walk spoken wire (pos + 1 + length.toNat)
  else some none
termination_by wire.length - pos

/-- **The walk stays in range** and makes the choice from what is left of the buffer. -/
theorem walk_eq (spoken : List Bytes) (wire : Bytes) (pos : Nat) :
    walk spoken wire pos = some (select spoken (wire.drop pos)) := by
  fun_induction walk spoken wire pos with
  | case1 pos hpos hnone =>
    rw [List.getElem?_eq_getElem hpos] at hnone
    cases hnone
  | case2 pos hpos length hget hlong =>
    obtain ⟨_, rfl⟩ := List.getElem?_eq_some_iff.1 hget
    rw [List.drop_eq_getElem_cons hpos, select, if_pos (by rw [List.length_drop]; omega)]
  | case3 pos hpos length hget hfits hnone =>
    rw [Bytes.slice?, if_pos (by omega)] at hnone
    cases hnone
  | case4 pos hpos length hget hfits name hslice hm =>
    obtain ⟨_, rfl⟩ := List.getElem?_eq_some_iff.1 hget
    rw [Bytes.slice?, if_pos (by omega), Option.some.injEq, List.drop_take,
      Nat.add_sub_cancel_left] at hslice
    rw [List.drop_eq_getElem_cons hpos, select, if_neg (by rw [List.length_drop]; omega)]
    simp only [hslice, hm, if_true]
  | case5 pos hpos length hget hfits name hslice hm ih =>
    obtain ⟨_, rfl⟩ := List.getElem?_eq_some_iff.1 hget
    rw [Bytes.slice?, if_pos (by omega), Option.some.injEq, List.drop_take,
      Nat.add_sub_cancel_left] at hslice
    rw [ih, List.drop_eq_getElem_cons hpos, select, if_neg (by rw [List.length_drop]; omega)]
    simp only [hslice, hm, if_false, List.drop_drop]
  | case6 pos hpos => rw [List.drop_of_length_le (Nat.le_of_not_lt hpos), select]

/-! ### A client's list -/

/-- A name that has no entry: it is empty, or longer than a length can say. -/
def Unnameable (name : String) : Prop := name = "" ∨ 255 < name.utf8ByteSize

theorem unnameable_iff {name : String} :
    Unnameable name ↔ Text.Utf8.encode name = [] ∨ 255 < (Text.Utf8.encode name).length := by
  rw [Unnameable, ← List.length_eq_zero_iff, Text.Utf8.length_encode,
    String.utf8ByteSize_eq_zero_iff]

theorem encode_cons (name : String) (names : List String) :
    encode (name :: names) =
      if Text.Utf8.encode name = [] ∨ 255 < (Text.Utf8.encode name).length then
        .error (.config (.protocolName name))
      else (encode names).map fun rest => prefixed (Text.Utf8.encode name) ++ rest := rfl

theorem encode_eq_ok_iff {names : List String} {wire : Bytes} :
    encode names = .ok wire ↔ (∀ name ∈ names, ¬ Unnameable name) ∧
      wire = (names.map Text.Utf8.encode).flatMap prefixed := by
  induction names generalizing wire with
  | nil => simp [encode, eq_comm]
  | cons name names ih =>
    rw [encode_cons, List.forall_mem_cons, unnameable_iff, List.map_cons, List.flatMap_cons]
    split
    · next hbad =>
      constructor
      · intro h
        cases h
      · rintro ⟨⟨hgood, -⟩, -⟩
        exact absurd hbad hgood
    · next hgood =>
      rw [and_iff_right hgood]
      cases hrest : encode names with
      | error fault =>
        constructor
        · intro h
          cases h
        · rintro ⟨hall, -⟩
          rw [ih.2 ⟨hall, rfl⟩] at hrest
          cases hrest
      | ok rest =>
        obtain ⟨hall, rfl⟩ := ih.1 hrest
        rw [and_iff_right hall, Except.map, Except.ok.injEq, eq_comm]

theorem encode_eq_error_iff {names : List String} :
    (∃ fault, encode names = .error fault) ↔ ∃ name ∈ names, Unnameable name := by
  cases h : encode names with
  | error fault =>
    refine ⟨fun _ => ?_, fun _ => ⟨fault, rfl⟩⟩
    by_contra hnone
    have hall : ∀ name ∈ names, ¬ Unnameable name := fun name hm hbad => hnone ⟨name, hm, hbad⟩
    rw [encode_eq_ok_iff.2 ⟨hall, rfl⟩] at h
    cases h
  | ok wire =>
    have hall := (encode_eq_ok_iff.1 h).1
    constructor
    · rintro ⟨fault, hf⟩
      cases hf
    · rintro ⟨name, hm, hbad⟩
      exact absurd hbad (hall name hm)

theorem entries_of_encode {names : List String} {wire : Bytes} (h : encode names = .ok wire) :
    entries wire = names.map Text.Utf8.encode := by
  obtain ⟨hall, rfl⟩ := encode_eq_ok_iff.1 h
  have hlen : ∀ name ∈ names.map Text.Utf8.encode, name.length ≤ 255 := by
    intro bytes hbytes
    obtain ⟨name, hm, rfl⟩ := List.mem_map.1 hbytes
    exact Nat.le_of_not_lt fun hlong => hall name hm (unnameable_iff.2 (.inr hlong))
  have hentries := entries_flatMap_prefixed hlen []
  rwa [List.append_nil, entries, List.append_nil] at hentries

theorem encode_injective : Function.Injective Text.Utf8.encode :=
  Function.LeftInverse.injective Text.Utf8.lossy_encode

theorem select_of_encode {offered : List String} {wire : Bytes} (h : encode offered = .ok wire)
    (spoken : List String) :
    select (spoken.map Text.Utf8.encode) wire =
      (offered.find? (· ∈ spoken)).map Text.Utf8.encode := by
  rw [select_eq_find?, entries_of_encode h, List.find?_map]
  congr 2
  funext name
  simp [encode_injective.eq_iff]

/-! ### Both sides -/

/-- **The two sides of the negotiation fit together.** From a list that a client may send, a server
chooses the first of its names that the server speaks too, and none exactly if there is none. A list
may be sent exactly if none of its names is empty or longer than 255 bytes, and no two lists
are sent alike. From any other bytes a server chooses in the same way: its walk over their positions
ends and never leaves them, and it chooses an entry exactly if the server speaks it and it lies in
them whole behind its length and behind entries that the server does not speak. -/
theorem negotiation_fits (server : ServerConfig) :
    (∀ (offered spoken : List String) (wire : Bytes), encode offered = .ok wire →
      (server.withProtocols spoken).select wire =
        (offered.find? (· ∈ spoken)).map Text.Utf8.encode ∧
      ((server.withProtocols spoken).select wire = none ↔ offered.Disjoint spoken)) ∧
    (∀ names, (∃ fault, encode names = .error fault) ↔
      ∃ name ∈ names, name = "" ∨ 255 < name.utf8ByteSize) ∧
    (∀ (names names' : List String) (wire : Bytes),
      encode names = .ok wire → encode names' = .ok wire → names' = names) ∧
    ∀ wire : Bytes,
      walk server.protocols wire 0 = some (server.select wire) ∧
      ∀ name, server.select wire = some name ↔
        name ∈ server.protocols ∧ name.length ≤ 255 ∧
          ∃ (skipped : List Bytes) (rest : Bytes),
            wire = skipped.flatMap prefixed ++ (prefixed name ++ rest) ∧
              ∀ other ∈ skipped, other ∉ server.protocols ∧ other.length ≤ 255 := by
  refine ⟨fun offered spoken wire h => ?_, fun names => encode_eq_error_iff,
    fun names names' wire h h' => ?_, fun wire => ⟨walk_eq _ wire 0, fun name => ?_⟩⟩
  · have hselect : (server.withProtocols spoken).select wire =
        (offered.find? (· ∈ spoken)).map Text.Utf8.encode := select_of_encode h spoken
    refine ⟨hselect, ?_⟩
    rw [hselect, Option.map_eq_none_iff, List.find?_eq_none]
    simp [List.Disjoint]
  · have hnames := (entries_of_encode h').symm.trans (entries_of_encode h)
    exact encode_injective.list_map hnames
  · exact select_eq_some_iff

/-- A client that prefers a name with a length in it, and a server without this name. -/
theorem negotiation_fits_second :
    encode ["\x02h2", "h2", "a"] = .ok [3, 2, 104, 50, 2, 104, 50, 1, 97] ∧
    (({} : ServerConfig).withProtocols ["a", "h2"]).select [3, 2, 104, 50, 2, 104, 50, 1, 97] =
      some [104, 50] := by
  have h : encode ["\x02h2", "h2", "a"] = .ok [3, 2, 104, 50, 2, 104, 50, 1, 97] := by cbv
  have hfirst : (["\x02h2", "h2", "a"].find? (· ∈ ["a", "h2"])).map Text.Utf8.encode =
      some [104, 50] := by cbv
  obtain ⟨hfits, -⟩ := negotiation_fits {}
  rw [(hfits _ ["a", "h2"] _ h).1]
  exact ⟨h, hfirst⟩

-- a list that ends inside its second entry, behind an empty one
example : select [[104, 50], [104]] [0, 2, 104] = none := by cbv

end Http2.Tls.Alpn
