import Mathlib.Data.List.Basic
import Mathlib.Data.List.TakeDrop
import Mathlib.Data.List.TakeWhile
import Http2.Proofs.Text.Basic
import Http2.Url.Basic

/-!
The texts that spell a URL. Without the blanks around it, such a text is a scheme up to the first
`://`, then an authority, a path up to the first `#`, and a fragment. Main statement: reading a
text gives a URL exactly if the text spells it, and every other text is refused.
-/

namespace Http2

namespace Text

/-! ### Cutting -/

theorem dropWhile_eq_iff {p : Char → Bool} {cs rest : List Char} :
    cs.dropWhile p = rest ↔
      ∃ front, cs = front ++ rest ∧ (∀ c ∈ front, p c = true) ∧
        ∀ c, rest.head? = some c → p c = false := by
  constructor
  · rintro rfl
    refine ⟨cs.takeWhile p, List.takeWhile_append_dropWhile.symm,
      fun c hc => List.mem_takeWhile_imp hc, fun c hc => ?_⟩
    have := List.head?_dropWhile_not p cs
    rwa [hc] at this
  · rintro ⟨front, rfl, hfront, hrest⟩
    rw [List.dropWhile_append_of_pos hfront]
    cases rest with
    | nil => rfl
    | cons c rest => rw [List.dropWhile_cons, hrest c rfl, if_neg Bool.false_ne_true]

theorem span_eq_iff {p : Char → Bool} {cs front rest : List Char} :
    cs.span p = (front, rest) ↔
      cs = front ++ rest ∧ (∀ c ∈ front, p c = true) ∧ ∀ c, rest.head? = some c → p c = false := by
  rw [List.span_eq_takeWhile_dropWhile, Prod.mk.injEq]
  constructor
  · rintro ⟨rfl, hrest⟩
    obtain ⟨-, -, -, hhead⟩ := dropWhile_eq_iff.1 hrest
    exact ⟨by rw [← hrest, List.takeWhile_append_dropWhile],
      fun c hc => List.mem_takeWhile_imp hc, hhead⟩
  · rintro ⟨rfl, hfront, hrest⟩
    have hdrop : (front ++ rest).dropWhile p = rest :=
      dropWhile_eq_iff.2 ⟨front, rfl, hfront, hrest⟩
    have happ := @List.takeWhile_append_dropWhile _ p (front ++ rest)
    rw [hdrop] at happ
    exact ⟨List.append_cancel_right happ, hdrop⟩

theorem span_ne_eq_iff {x : Char} {cs front rest : List Char} :
    cs.span (· ≠ x) = (front, rest) ↔
      cs = front ++ rest ∧ x ∉ front ∧ ∀ c, rest.head? = some c → c = x := by
  have hfront : (∀ c ∈ front, decide (c ≠ x) = true) ↔ x ∉ front := by
    simp only [decide_eq_true_eq, ne_eq]
    exact ⟨fun h hx => h x hx rfl, fun h c hc hcx => h (hcx ▸ hc)⟩
  have hrest (c : Char) : decide (c ≠ x) = false ↔ c = x := by simp
  rw [span_eq_iff, hfront]
  simp only [hrest]

/-- `body` is the text without the blanks at either end. -/
def Trims (cs body : List Char) : Prop :=
  ∃ front back, cs = front ++ body ++ back ∧ (∀ c ∈ front ++ back, isBlank c = true) ∧
    ∀ c, body.head? = some c ∨ body.getLast? = some c → isBlank c = false

theorem trims_trim (cs : List Char) : Trims cs (trim cs) := by
  obtain ⟨front, hcs, hfront, hhead⟩ := dropWhile_eq_iff.1 (Eq.refl (cs.dropWhile isBlank))
  obtain ⟨back, hback, hblank, hlast⟩ :=
    dropWhile_eq_iff.1 (Eq.refl ((cs.dropWhile isBlank).reverse.dropWhile isBlank))
  have hbody : cs.dropWhile isBlank = trim cs ++ back.reverse := by
    rw [← List.reverse_reverse (cs.dropWhile isBlank), hback, List.reverse_append, trim]
  refine ⟨front, back.reverse, by rw [List.append_assoc, ← hbody, ← hcs], fun c hc => ?_,
    fun c hc => ?_⟩
  · rcases List.mem_append.1 hc with hc | hc
    · exact hfront c hc
    · exact hblank c (List.mem_reverse.1 hc)
  · rcases hc with hc | hc
    · refine hhead c ?_
      rw [hbody, List.head?_append, hc]
      rfl
    · refine hlast c ?_
      rwa [trim, List.getLast?_reverse] at hc

/-- **Trimming** takes the blanks off both ends and no more. -/
theorem trim_eq_iff {cs body : List Char} : trim cs = body ↔ Trims cs body := by
  constructor
  · rintro rfl
    exact trims_trim cs
  · rintro ⟨front, back, rfl, hblank, hends⟩
    have hback : ∀ c ∈ back.reverse, isBlank c = true := fun c hc =>
      hblank c (List.mem_append_right _ (List.mem_reverse.1 hc))
    rw [trim, List.append_assoc,
      List.dropWhile_append_of_pos fun c hc => hblank c (List.mem_append_left _ hc)]
    cases body with
    | nil =>
      have hdrop : back.dropWhile isBlank = [] := List.dropWhile_eq_nil_iff.2 fun c hc =>
        hblank c (List.mem_append_right _ hc)
      rw [List.nil_append, hdrop]
      rfl
    | cons c body =>
      have hc : ¬ isBlank c = true := by simp [hends c (.inl rfl)]
      rw [List.cons_append, List.dropWhile_cons, if_neg hc, ← List.cons_append,
        List.reverse_append, dropWhile_eq_iff.2 ⟨back.reverse, rfl, hback, fun d hd => ?_⟩,
        List.reverse_reverse]
      rw [List.head?_reverse] at hd
      exact hends d (.inr hd)

/-! ### Numerals -/

/-- A text for a number: one `+` or none, and at least one digit. -/
def Numeral (cs : List Char) (n : Nat) : Prop :=
  ∃ ds, (cs = ds ∨ cs = '+' :: ds) ∧ ds ≠ [] ∧ (∀ d ∈ ds, d.isDigit = true) ∧
    Nat.ofDigitChars 10 ds 0 = n

theorem digitsValue_eq (ds : List Char) : digitsValue ds = Nat.ofDigitChars 10 ds 0 := by
  rw [digitsValue, Nat.ofDigitChars_eq_foldl]
  congr 1
  funext n d
  rw [Nat.mul_comm]

theorem withoutPlus_of_isDigit {ds : List Char} (h : ∀ d ∈ ds, d.isDigit = true) :
    withoutPlus ds = ds := by
  unfold withoutPlus
  split
  · exact absurd (h '+' List.mem_cons_self) (by decide)
  · rfl

theorem withoutPlus_cases (cs : List Char) : cs = withoutPlus cs ∨ cs = '+' :: withoutPlus cs := by
  unfold withoutPlus
  split
  · exact .inr rfl
  · exact .inl rfl

/-- A number of 16 bits is read from its numerals and from nothing else. -/
theorem word16?_eq_some_iff {cs : List Char} {n : Nat} :
    word16? cs = some n ↔ Numeral cs n ∧ n < 65536 := by
  simp only [word16?, Option.ite_none_right_eq_some, Option.some.injEq, digitsValue_eq,
    List.all_eq_true]
  constructor
  · rintro ⟨⟨hne, hdigits, hlt⟩, rfl⟩
    exact ⟨⟨withoutPlus cs, withoutPlus_cases cs, hne, hdigits, rfl⟩, hlt⟩
  · rintro ⟨⟨ds, hcs, hne, hdigits, rfl⟩, hlt⟩
    have hds : withoutPlus cs = ds := by
      rcases hcs with rfl | rfl
      · exact withoutPlus_of_isDigit hdigits
      · rfl
    rw [hds]
    exact ⟨⟨hne, hdigits, hlt⟩, rfl⟩

theorem numeral_toDigits (n : Nat) : Numeral (Nat.toDigits 10 n) n :=
  ⟨_, .inl rfl, Nat.toDigits_ne_nil,
    fun _ hd => Nat.isDigit_of_mem_toDigits (by decide) (by decide) hd,
    Nat.ofDigitChars_ten_toDigits⟩

end Text

namespace Url

section Steps

variable {ε α β : Type} {x : Except ε α} {b : β}

theorem map_eq_ok_iff {f : α → β} : x.map f = .ok b ↔ ∃ a, x = .ok a ∧ f a = b := by
  cases x <;> simp [Except.map]

theorem bind_eq_ok_iff {f : α → Except ε β} : x >>= f = .ok b ↔ ∃ a, x = .ok a ∧ f a = .ok b := by
  cases x <;> simp [bind, Except.bind]

end Steps

/-! ### Ports -/

/-- What follows a host: nothing for the default port, or a colon and a port. -/
inductive PortForm : List Char → Nat → Prop
  | absent : PortForm [] defaultPort
  | given {cs : List Char} {port : Nat} (numeral : Text.Numeral cs port) (pos : 1 ≤ port)
      (le : port ≤ 65535) : PortForm (':' :: cs) port

theorem parsePort_eq_ok_iff {cs : List Char} {port : Nat} :
    parsePort cs = .ok port ↔ Text.Numeral cs port ∧ 1 ≤ port ∧ port ≤ 65535 := by
  unfold parsePort
  constructor
  · intro h
    split at h
    · next n hn =>
      cases h
      obtain ⟨hnum, hlt⟩ := Text.word16?_eq_some_iff.1 hn
      exact ⟨hnum, Nat.le_add_left 1 n, Nat.le_of_lt_succ hlt⟩
    · cases h
  · rintro ⟨hnum, hpos, hle⟩
    rw [Text.word16?_eq_some_iff.2 ⟨hnum, Nat.lt_succ_of_le hle⟩]
    cases port with
    | zero => exact absurd hpos (by decide)
    | succ n => rfl

/-! ### Authorities -/

/-- A host as it stands in an authority, and the host that is meant. -/
inductive HostForm : List Char → String → Prop
  | plain {cs : List Char} (ne_nil : cs ≠ []) (noColon : ':' ∉ cs)
      (noBlank : ∀ c ∈ cs, Text.isBlank c = false) (noBracket : cs.head? ≠ some '[') :
      HostForm cs (String.ofList (cs.map Char.toLower))
  | bracketed {cs : List Char} (ne_nil : cs ≠ []) (noBracket : ']' ∉ cs) :
      HostForm ('[' :: cs ++ [']']) (String.ofList cs)

/-- An authority for a host and a port. -/
def AuthorityForm (cs : List Char) (host : String) (port : Nat) : Prop :=
  ∃ a b, cs = a ++ b ∧ HostForm a host ∧ PortForm b port

theorem parseBracketed_eq_ok_iff {cs : List Char} {host : String} {port : Nat} :
    parseBracketed cs = .ok (host, port) ↔
      ∃ a b, cs = a ++ ']' :: b ∧ a ≠ [] ∧ ']' ∉ a ∧ host = String.ofList a ∧ PortForm b port := by
  constructor
  · intro h
    unfold parseBracketed at h
    split at h
    · cases h
    · cases h
    · next a c b hne hspan =>
      obtain ⟨rfl, ha, hc⟩ := Text.span_ne_eq_iff.1 hspan
      obtain rfl : c = ']' := hc c rfl
      refine ⟨a, b, rfl, hne, ha, ?_⟩
      split at h
      · cases h
        exact ⟨rfl, .absent⟩
      · obtain ⟨p, hp, heq⟩ := map_eq_ok_iff.1 h
        cases heq
        obtain ⟨hnum, hpos, hle⟩ := parsePort_eq_ok_iff.1 hp
        exact ⟨rfl, .given hnum hpos hle⟩
      · cases h
  · rintro ⟨a, b, rfl, hne, hmem, rfl, hport⟩
    have hspan : (a ++ ']' :: b).span (· ≠ ']') = (a, ']' :: b) :=
      Text.span_ne_eq_iff.2 ⟨rfl, hmem, by simp⟩
    cases a with
    | nil => exact absurd rfl hne
    | cons c a =>
      unfold parseBracketed
      rw [hspan]
      cases hport with
      | absent => rfl
      | given hnum hpos hle =>
        simp only [parsePort_eq_ok_iff.2 ⟨hnum, hpos, hle⟩]
        rfl

theorem splitLastColon_eq_none_iff {cs : List Char} : splitLastColon cs = none ↔ ':' ∉ cs := by
  unfold splitLastColon
  split
  · next a hspan =>
    obtain ⟨hcs, ha, -⟩ := Text.span_ne_eq_iff.1 hspan
    rw [List.append_nil] at hcs
    exact ⟨fun _ hmem => ha (hcs ▸ List.mem_reverse.2 hmem), fun _ => rfl⟩
  · next a c b hspan =>
    obtain ⟨hcs, -, hc⟩ := Text.span_ne_eq_iff.1 hspan
    obtain rfl : c = ':' := hc c rfl
    refine ⟨nofun, fun h => absurd (List.mem_reverse.1 ?_) h⟩
    rw [hcs]
    exact List.mem_append_right _ List.mem_cons_self

theorem splitLastColon_eq_some_iff {cs a b : List Char} :
    splitLastColon cs = some (a, b) ↔ cs = a ++ ':' :: b ∧ ':' ∉ b := by
  constructor
  · intro h
    unfold splitLastColon at h
    split at h
    · cases h
    · next b c a hspan =>
      obtain ⟨hcs, hb, hc⟩ := Text.span_ne_eq_iff.1 hspan
      obtain rfl : c = ':' := hc c rfl
      cases h
      refine ⟨?_, fun hmem => hb (List.mem_reverse.1 hmem)⟩
      rw [← List.reverse_reverse cs, hcs, List.reverse_append, List.reverse_cons,
        List.append_assoc, List.singleton_append]
  · rintro ⟨rfl, hb⟩
    have hspan : (a ++ ':' :: b).reverse.span (· ≠ ':') = (b.reverse, ':' :: a.reverse) :=
      Text.span_ne_eq_iff.2 ⟨by simp, fun hmem => hb (List.mem_reverse.1 hmem), by simp⟩
    rw [splitLastColon, hspan]
    simp only [List.reverse_reverse]

theorem parseHost_eq_ok_iff {cs : List Char} {host : String} :
    parseHost cs = .ok host ↔
      cs ≠ [] ∧ ':' ∉ cs ∧ (∀ c ∈ cs, Text.isBlank c = false) ∧
        host = String.ofList (cs.map Char.toLower) := by
  have hlower : Text.asciiLower (String.ofList cs) = String.ofList (cs.map Char.toLower) := by
    rw [← String.toList_inj, Text.toList_asciiLower, String.toList_ofList, String.toList_ofList]
  have hany : (cs.any fun c => Text.isBlank c || c == ':') = true ↔
      ¬ (':' ∉ cs ∧ ∀ c ∈ cs, Text.isBlank c = false) := by
    rw [List.any_eq_true]
    grind
  unfold parseHost
  split
  · next h => simp [h]
  · next hne =>
    split
    · next h =>
      have := hany.1 h
      exact ⟨nofun, fun ⟨_, h₁, h₂, _⟩ => absurd ⟨h₁, h₂⟩ this⟩
    · next h =>
      obtain ⟨h₁, h₂⟩ := Decidable.not_not.1 (mt hany.2 h)
      rw [hlower, Except.ok.injEq]
      exact ⟨fun h => ⟨hne, h₁, h₂, h.symm⟩, fun h => h.2.2.2.symm⟩

theorem parseAuthority_of_head {cs : List Char} (hne : cs ≠ []) (hb : cs.head? ≠ some '[') :
    parseAuthority cs =
      match splitLastColon cs with
      | none => (parseHost cs).map fun host => (host, defaultPort)
      | some (host, port) => do
        let p ← parsePort port
        let h ← parseHost host
        return (h, p) := by
  unfold parseAuthority
  split
  · exact absurd rfl hne
  · exact absurd rfl hb
  · rfl

theorem not_mem_of_numeral {cs : List Char} {n : Nat} (h : Text.Numeral cs n) {c : Char}
    (hdigit : c.isDigit = false) (hplus : c ≠ '+') : c ∉ cs := by
  obtain ⟨ds, hcs, -, hdigits, -⟩ := h
  have hds : c ∉ ds := fun hmem => by simp [hdigits c hmem] at hdigit
  rcases hcs with rfl | rfl
  · exact hds
  · exact List.not_mem_cons_of_ne_of_not_mem hplus hds

theorem authorityForm_of_parse {cs : List Char} {host : String} {port : Nat}
    (h : parseAuthority cs = .ok (host, port)) : AuthorityForm cs host port := by
  by_cases hne : cs = []
  · rw [hne] at h
    cases h
  by_cases hb : cs.head? = some '['
  · obtain ⟨rest, rfl⟩ := List.head?_eq_some_iff.1 hb
    obtain ⟨a, b, rfl, ha, hmem, rfl, hport⟩ := parseBracketed_eq_ok_iff.1 h
    exact ⟨'[' :: a ++ [']'], b, by simp, .bracketed ha hmem, hport⟩
  · rw [parseAuthority_of_head hne hb] at h
    split at h
    · obtain ⟨_, hh, heq⟩ := map_eq_ok_iff.1 h
      cases heq
      obtain ⟨-, hcolon, hblank, rfl⟩ := parseHost_eq_ok_iff.1 hh
      exact ⟨cs, [], (List.append_nil cs).symm, .plain hne hcolon hblank hb, .absent⟩
    · next a b hs =>
      obtain ⟨rfl, -⟩ := splitLastColon_eq_some_iff.1 hs
      obtain ⟨p, hp, h⟩ := bind_eq_ok_iff.1 h
      obtain ⟨_, hh, heq⟩ := bind_eq_ok_iff.1 h
      cases heq
      obtain ⟨hnum, hpos, hle⟩ := parsePort_eq_ok_iff.1 hp
      obtain ⟨ha, hcolon, hblank, rfl⟩ := parseHost_eq_ok_iff.1 hh
      rw [List.head?_append_of_ne_nil _ ha] at hb
      exact ⟨a, ':' :: b, rfl, .plain ha hcolon hblank hb, .given hnum hpos hle⟩

theorem parseAuthority_of_form {cs : List Char} {host : String} {port : Nat}
    (h : AuthorityForm cs host port) : parseAuthority cs = .ok (host, port) := by
  obtain ⟨a, b, rfl, hhost, hport⟩ := h
  cases hhost with
  | @bracketed a ha hmem =>
    have hcs : '[' :: a ++ [']'] ++ b = '[' :: (a ++ ']' :: b) := by simp
    rw [hcs]
    exact parseBracketed_eq_ok_iff.2 ⟨a, b, rfl, ha, hmem, rfl, hport⟩
  | plain ha hcolon hblank hb =>
    have hread := parseHost_eq_ok_iff.2 ⟨ha, hcolon, hblank, rfl⟩
    rw [parseAuthority_of_head (List.append_ne_nil_of_left_ne_nil ha b)
      (by rwa [List.head?_append_of_ne_nil _ ha])]
    cases hport with
    | absent =>
      rw [List.append_nil, splitLastColon_eq_none_iff.2 hcolon]
      simp only [hread]
      rfl
    | given hnum hpos hle =>
      rw [splitLastColon_eq_some_iff.2 ⟨rfl, not_mem_of_numeral hnum rfl (by decide)⟩]
      simp only [parsePort_eq_ok_iff.2 ⟨hnum, hpos, hle⟩, hread]
      rfl

/-- **Authorities** are read from their forms and from nothing else. -/
theorem parseAuthority_eq_ok_iff {cs : List Char} {host : String} {port : Nat} :
    parseAuthority cs = .ok (host, port) ↔ AuthorityForm cs host port :=
  ⟨authorityForm_of_parse, parseAuthority_of_form⟩

/-! ### What follows the scheme -/

/-- What follows `://` in a text for a URL. -/
inductive RestForm : List Char → Url → Prop
  | intro {authority path fragment : List Char} {host : String} {port : Nat}
      (noHash : '#' ∉ authority ++ path)
      (fragment_head : ∀ c, fragment.head? = some c → c = '#')
      (path_head : ∀ c, path.head? = some c → c = '/' ∨ c = '?')
      (plain : ∀ c ∈ authority, c ≠ '/' ∧ c ≠ '?' ∧ c ≠ '@')
      (form : AuthorityForm authority host port) :
      RestForm (authority ++ path ++ fragment)
        ⟨host, port, String.ofList (if path.head? = some '/' then path else '/' :: path)⟩

theorem requestPath_eq (cs : List Char) :
    requestPath cs = if cs.head? = some '/' then cs else '/' :: cs := by
  unfold requestPath
  split
  · rfl
  · next h =>
    rw [if_neg fun hc => ?_]
    obtain ⟨rest, rfl⟩ := List.head?_eq_some_iff.1 hc
    exact h rest rfl

/-- The cut at the first `#` and the cut before the path. -/
theorem split_rest_iff {cs authority path : List Char} :
    (cs.takeWhile (· ≠ '#')).span (fun c => c ≠ '/' && c ≠ '?') = (authority, path) ↔
      ∃ fragment, cs = authority ++ path ++ fragment ∧ '#' ∉ authority ++ path ∧
        (∀ c, fragment.head? = some c → c = '#') ∧
        (∀ c, path.head? = some c → c = '/' ∨ c = '?') ∧ ∀ c ∈ authority, c ≠ '/' ∧ c ≠ '?' := by
  rw [Text.span_eq_iff]
  constructor
  · rintro ⟨hcut, hauthority, hpath⟩
    have hspan : cs.span (· ≠ '#') = (authority ++ path, cs.dropWhile (· ≠ '#')) := by
      rw [List.span_eq_takeWhile_dropWhile, hcut]
    obtain ⟨hcs, hno, hhead⟩ := Text.span_ne_eq_iff.1 hspan
    refine ⟨_, hcs, hno, hhead, fun c hc => ?_, fun c hc => by simpa using hauthority c hc⟩
    have := hpath c hc
    grind
  · rintro ⟨fragment, rfl, hno, hfragment, hpath, hauthority⟩
    have hspan : (authority ++ path ++ fragment).span (· ≠ '#') = (authority ++ path, fragment) :=
      Text.span_ne_eq_iff.2 ⟨rfl, hno, hfragment⟩
    rw [List.span_eq_takeWhile_dropWhile] at hspan
    refine ⟨congrArg Prod.fst hspan, fun c hc => by simpa using hauthority c hc, fun c hc => ?_⟩
    rcases hpath c hc with rfl | rfl <;> rfl

theorem parseRest_eq_ok_iff {cs : List Char} {u : Url} :
    parseRest cs = .ok u ↔ RestForm cs u := by
  constructor
  · intro h
    unfold parseRest at h
    split at h
    next authority path hsplit =>
    obtain ⟨fragment, rfl, hno, hfragment, hpath, hauthority⟩ := split_rest_iff.1 hsplit
    split at h
    · cases h
    · next hat =>
      obtain ⟨_, hp, heq⟩ := map_eq_ok_iff.1 h
      cases heq
      rw [requestPath_eq]
      refine .intro hno hfragment hpath (fun c hc => ?_) (parseAuthority_eq_ok_iff.1 hp)
      obtain ⟨h₁, h₂⟩ := hauthority c hc
      exact ⟨h₁, h₂, fun h => hat (by simpa using h ▸ hc)⟩
  · rintro @⟨authority, path, fragment, host, port, hno, hfragment, hpath, hplain, hform⟩
    have hsplit := split_rest_iff.2 ⟨fragment, rfl, hno, hfragment, hpath,
      fun c hc => ⟨(hplain c hc).1, (hplain c hc).2.1⟩⟩
    have hat : ¬ authority.contains '@' = true := by
      simpa using fun hmem => (hplain _ hmem).2.2 rfl
    unfold parseRest
    rw [hsplit]
    simp only [if_neg hat, parseAuthority_eq_ok_iff.2 hform, ← requestPath_eq]
    rfl

/-! ### Whole texts -/

theorem splitScheme_eq_some_iff {cs scheme rest : List Char} :
    splitScheme cs = some (scheme, rest) ↔
      cs = scheme ++ "://".toList ++ rest ∧ ¬ "://".toList <:+: scheme := by
  have hmark : "://".toList = [':', '/', '/'] := rfl
  rw [hmark]
  constructor
  · intro h
    fun_induction splitScheme cs generalizing scheme with
    | case1 rest' =>
      cases h
      exact ⟨rfl, by simp⟩
    | case2 c cs hno ih =>
      obtain ⟨⟨s, r⟩, hs, heq⟩ := Option.map_eq_some_iff.1 h
      cases heq
      obtain ⟨rfl, hinfix⟩ := ih hs
      refine ⟨rfl, fun hmem => ?_⟩
      rcases List.infix_cons_iff.1 hmem with ⟨t, ht⟩ | hmem
      · simp only [List.cons_append, List.nil_append, List.cons.injEq] at ht
        obtain ⟨rfl, rfl⟩ := ht
        exact hno _ rfl rfl
      · exact hinfix hmem
    | case3 => cases h
  · rintro ⟨rfl, hinfix⟩
    induction scheme with
    | nil => rfl
    | cons c scheme ih =>
      have hrest := ih fun hmem => hinfix (List.infix_cons hmem)
      rw [List.cons_append, List.cons_append, splitScheme, hrest]
      · rfl
      · -- the mark would begin with the character and end inside the scheme or the mark itself
        rintro t rfl ht
        rcases scheme with _ | ⟨d, _ | ⟨e, scheme⟩⟩
        · simp at ht
        · simp at ht
        · simp only [List.cons_append, List.cons.injEq] at ht
          obtain ⟨rfl, rfl, -⟩ := ht
          exact hinfix (List.prefix_append [':', '/', '/'] scheme).isInfix

/-- The texts that spell a URL. -/
inductive Spells (s : String) (u : Url) : Prop
  | intro {scheme rest : List Char}
      (trims : Text.Trims s.toList (scheme ++ "://".toList ++ rest))
      (first : ¬ "://".toList <:+: scheme) (https : scheme.map Char.toLower = "https".toList)
      (form : RestForm rest u)

theorem parse_eq_ok_iff {s : String} {u : Url} : parse s = .ok u ↔ Spells s u := by
  have hscheme {scheme : List Char} : Text.sameIgnoringCase (String.ofList scheme) "https" = true ↔
      scheme.map Char.toLower = "https".toList := by
    have hlower : Text.asciiLower "https" = "https" := by decide +kernel
    rw [Text.sameIgnoringCase, hlower, beq_iff_eq, ← String.toList_inj, Text.toList_asciiLower,
      String.toList_ofList]
  constructor
  · intro h
    unfold parse at h
    simp only at h
    split at h
    · cases h
    · split at h
      · cases h
      · next scheme rest hsplit =>
        obtain ⟨htrim, hfirst⟩ := splitScheme_eq_some_iff.1 hsplit
        split at h
        · next hs =>
          exact .intro (Text.trim_eq_iff.1 htrim) hfirst (hscheme.1 hs) (parseRest_eq_ok_iff.1 h)
        · cases h
  · rintro @⟨scheme, rest, htrims, hfirst, hs, hform⟩
    have htrim := Text.trim_eq_iff.2 htrims
    have hne : scheme ++ "://".toList ++ rest ≠ [] := by simp
    unfold parse
    simp only [htrim, if_neg hne, splitScheme_eq_some_iff.2 ⟨rfl, hfirst⟩, hscheme.2 hs, if_true]
    exact parseRest_eq_ok_iff.2 hform

/-- **Reading a URL.** A text gives a URL exactly if it spells it, and any other text is refused as
no valid URL. -/
theorem parse_decides (s : String) :
    (∀ u, parse s = .ok u ↔ Spells s u) ∧
      ((∃ fault : Fault, parse s = .error fault) ↔ ∀ u, ¬ Spells s u) := by
  refine ⟨fun u => parse_eq_ok_iff, ⟨fun ⟨fault, h⟩ u hu => ?_, fun h => ?_⟩⟩
  · rw [parse_eq_ok_iff.2 hu] at h
    cases h
  · cases hp : parse s with
    | error fault => exact ⟨fault, rfl⟩
    | ok u => exact absurd (parse_eq_ok_iff.1 hp) (h u)

end Url

end Http2
