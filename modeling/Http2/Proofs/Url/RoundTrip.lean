import Http2.Proofs.Url.Grammar

/-!
URLs as texts, and back. The text of a URL has brackets around its host only where the host holds a
colon, and it ends with the path. Main statement: the text of a URL that was read gives the same URL
exactly if the host holds a colon or could stand in an authority as it is, and the path does not
end in a blank.
-/

namespace Http2

namespace Url

variable {u : Url}

/-! ### URLs that were read -/

/-- What holds of every URL that is read from a text. -/
structure WellFormed (u : Url) : Prop where
  ne_nil : u.host.toList ≠ []
  separate : ∀ c ∈ u.host.toList, c ≠ '/' ∧ c ≠ '?' ∧ c ≠ '@' ∧ c ≠ '#'
  /-- A host with a colon stood in brackets. -/
  closed : ':' ∈ u.host.toList → ']' ∉ u.host.toList
  port_pos : 1 ≤ u.port
  port_le : u.port ≤ 65535
  path_head : u.path.toList.head? = some '/'
  noHash : '#' ∉ u.path.toList

/-- The characters of a host that are no letters stand in its form too. -/
theorem HostForm.mem {cs : List Char} {host : String} (h : HostForm cs host) {c : Char}
    (hc : c ∈ host.toList) (hlower : c.isLower = false) : c ∈ cs := by
  cases h with
  | plain =>
    rw [String.toList_ofList] at hc
    obtain ⟨d, hd, hdc⟩ := List.mem_map.1 hc
    rwa [← Text.eq_of_toLower_eq hlower hdc]
  | bracketed =>
    rw [String.toList_ofList] at hc
    exact List.mem_cons_of_mem _ (List.mem_append_left _ hc)

theorem HostForm.ne_nil_host {cs : List Char} {host : String} (h : HostForm cs host) :
    host.toList ≠ [] := by
  cases h with
  | plain hne => simpa using hne
  | bracketed hne => simpa using hne

theorem HostForm.closed {cs : List Char} {host : String} (h : HostForm cs host)
    (hcolon : ':' ∈ host.toList) : ']' ∉ host.toList := by
  have hcs := h.mem hcolon rfl
  cases h with
  | plain _ noColon => exact absurd hcs noColon
  | bracketed _ noBracket => simpa using noBracket

theorem PortForm.bounds {cs : List Char} {port : Nat} (h : PortForm cs port) :
    1 ≤ port ∧ port ≤ 65535 := by
  cases h with
  | absent => decide
  | given _ hpos hle => exact ⟨hpos, hle⟩

theorem PortForm.head {cs : List Char} {port : Nat} (h : PortForm cs port) :
    ∀ c, cs.head? = some c → c = ':' := by
  cases h with
  | absent => nofun
  | given => exact fun c hc => (Option.some.inj hc).symm

theorem PortForm.noBracket {cs : List Char} {port : Nat} (h : PortForm cs port) : ']' ∉ cs := by
  cases h with
  | absent => nofun
  | given hnum =>
    exact List.not_mem_cons_of_ne_of_not_mem (by decide)
      (not_mem_of_numeral hnum rfl (by decide))

theorem wellFormed_of_parse {s : String} (h : parse s = .ok u) : u.WellFormed := by
  obtain @⟨scheme, rest, -, -, -, hrest⟩ := parse_eq_ok_iff.1 h
  obtain @⟨authority, path, fragment, host, port, hno, -, hpath, hplain, a, b, rfl, hhost, hport⟩ :=
    hrest
  have hmem {c : Char} (hc : c ∈ host.toList) (hlower : c.isLower = false) : c ∈ a ++ b :=
    List.mem_append_left _ (hhost.mem hc hlower)
  obtain ⟨hpos, hle⟩ := hport.bounds
  refine ⟨hhost.ne_nil_host, fun c hc => ⟨?_, ?_, ?_, ?_⟩, hhost.closed, hpos, hle, ?_, ?_⟩
  · exact fun h => (hplain _ (hmem hc (h ▸ rfl))).1 h
  · exact fun h => (hplain _ (hmem hc (h ▸ rfl))).2.1 h
  · exact fun h => (hplain _ (hmem hc (h ▸ rfl))).2.2 h
  · exact fun h => hno (h ▸ List.mem_append_left _ (hmem hc (h ▸ rfl)))
  · rw [String.toList_ofList]
    split
    · assumption
    · rfl
  · rw [String.toList_ofList]
    intro hmem
    refine hno (List.mem_append_right _ ?_)
    split at hmem
    · exact hmem
    · simpa using hmem

/-! ### The text of a URL -/

theorem toList_authority (u : Url) :
    u.authority.toList =
      (if ':' ∈ u.host.toList then '[' :: u.host.toList ++ [']'] else u.host.toList) ++
        if u.port = defaultPort then [] else ':' :: Nat.toDigits 10 u.port := by
  have hhost : u.bracketedHost.toList =
      if ':' ∈ u.host.toList then '[' :: u.host.toList ++ [']'] else u.host.toList := by
    unfold bracketedHost
    by_cases hc : ':' ∈ u.host.toList <;>
      simp [hc, toString]
  unfold authority
  split
  · rw [hhost, List.append_nil]
  · simp [hhost, toString, String.toList_append, Nat.repr]

theorem toList_text (u : Url) :
    u.text.toList = "https".toList ++ "://".toList ++ (u.authority.toList ++ u.path.toList) := by
  simp [text, toString, String.toList_append]

theorem WellFormed.separate_authority (h : u.WellFormed) :
    ∀ c ∈ u.authority.toList, c ≠ '/' ∧ c ≠ '?' ∧ c ≠ '@' ∧ c ≠ '#' := by
  have hbrackets {c : Char} (hc : c ∈ '[' :: u.host.toList ++ [']']) :
      c ≠ '/' ∧ c ≠ '?' ∧ c ≠ '@' ∧ c ≠ '#' := by
    have := h.separate c
    grind
  have hdigits {c : Char} (hc : c ∈ Nat.toDigits 10 u.port) :
      c ≠ '/' ∧ c ≠ '?' ∧ c ≠ '@' ∧ c ≠ '#' := by
    have hdigit := Nat.isDigit_of_mem_toDigits (by decide) (by decide) hc
    refine ⟨?_, ?_, ?_, ?_⟩ <;>
      · rintro rfl
        exact absurd hdigit (by decide)
  intro c hc
  rw [toList_authority] at hc
  rcases List.mem_append.1 hc with hc | hc
  · split at hc
    · exact hbrackets hc
    · exact h.separate c hc
  · split at hc
    · cases hc
    · rcases List.mem_cons.1 hc with rfl | hc
      · decide
      · exact hdigits hc

theorem WellFormed.trim_path (h : u.WellFormed) :
    (Text.trim u.path.toList).head? = some '/' ∧
      ∃ back, u.path.toList = Text.trim u.path.toList ++ back ∧
        (∀ c ∈ back, Text.isBlank c = true) ∧
        ∀ c, (Text.trim u.path.toList).getLast? = some c → Text.isBlank c = false := by
  obtain ⟨front, back, hpath, hblank, hends⟩ := Text.trims_trim u.path.toList
  have hslash : '/' ∉ front ++ back := fun hmem => absurd (hblank '/' hmem) (by decide)
  have hhead := h.path_head
  rw [hpath] at hhead
  obtain rfl : front = [] := by
    cases front with
    | nil => rfl
    | cons c front =>
      obtain rfl : c = '/' := Option.some.inj hhead
      exact absurd List.mem_cons_self hslash
  refine ⟨?_, back, hpath, hblank, fun c hc => hends c (.inr hc)⟩
  cases hkept : Text.trim u.path.toList with
  | nil =>
    rw [hkept] at hhead
    exact absurd (List.mem_of_head? hhead) hslash
  | cons c kept =>
    rw [hkept] at hhead
    exact hhead

theorem WellFormed.trim_text (h : u.WellFormed) :
    Text.trim u.text.toList =
      "https".toList ++ "://".toList ++ (u.authority.toList ++ Text.trim u.path.toList) := by
  obtain ⟨hhead, back, hpath, hblank, hlast⟩ := h.trim_path
  generalize Text.trim u.path.toList = kept at hhead hpath hlast
  refine Text.trim_eq_iff.2 ⟨[], back, ?_, hblank, fun c hc => ?_⟩
  · rw [toList_text, hpath]
    simp
  · rcases hc with hc | hc
    · obtain rfl : 'h' = c := Option.some.inj hc
      decide
    · refine hlast c ?_
      have hne : kept ≠ [] := fun hnil => by simp [hnil] at hhead
      rwa [List.getLast?_append_of_ne_nil _ (List.append_ne_nil_of_right_ne_nil _ hne),
        List.getLast?_append_of_ne_nil _ hne] at hc

/-- **The text of a URL** is cut where it was put together; only blanks at the end of the path go
lost. -/
theorem parse_text (h : u.WellFormed) :
    parse u.text = (parseAuthority u.authority.toList).map fun (host, port) =>
      ⟨host, port, String.ofList (Text.trim u.path.toList)⟩ := by
  have htrim := h.trim_text
  obtain ⟨hhead, back, hpath, -⟩ := h.trim_path
  generalize Text.trim u.path.toList = kept at htrim hhead hpath ⊢
  have hsplit : splitScheme ("https".toList ++ "://".toList ++ (u.authority.toList ++ kept)) =
      some ("https".toList, u.authority.toList ++ kept) :=
    splitScheme_eq_some_iff.2 ⟨rfl, by decide⟩
  have hcut : ((u.authority.toList ++ kept).takeWhile (· ≠ '#')).span
      (fun c => c ≠ '/' && c ≠ '?') = (u.authority.toList, kept) := by
    refine split_rest_iff.2 ⟨[], by simp, fun hmem => ?_, nofun, fun c hc => ?_, fun c hc => ?_⟩
    · rcases List.mem_append.1 hmem with hmem | hmem
      · exact (h.separate_authority _ hmem).2.2.2 rfl
      · exact h.noHash (by rw [hpath]; simp [hmem])
    · exact .inl (Option.some.inj (hc.symm.trans hhead))
    · exact ⟨(h.separate_authority c hc).1, (h.separate_authority c hc).2.1⟩
  have hat : ¬ u.authority.toList.contains '@' = true := by
    simpa using fun hmem => (h.separate_authority _ hmem).2.2.1 rfl
  have hsame : Text.sameIgnoringCase (String.ofList "https".toList) "https" = true := by
    decide +kernel
  unfold parse
  simp only [htrim, hsplit, hsame, if_true]
  rw [if_neg (by simp), parseRest, hcut]
  simp only [if_neg hat, requestPath_eq, hhead, if_true]

/-! ### What the text keeps -/

/-- A host that stands in the text of a URL so that it is read as it is. -/
def HostKept (u : Url) : Prop :=
  ':' ∈ u.host.toList ∨
    u.host.toList.head? ≠ some '[' ∧
      ∀ c ∈ u.host.toList, Text.isBlank c = false ∧ c.isUpper = false

/-- A path without a blank at its end. -/
def PathKept (u : Url) : Prop :=
  ∀ c, u.path.toList.getLast? = some c → Text.isBlank c = false

theorem WellFormed.portForm (h : u.WellFormed) :
    PortForm (if u.port = defaultPort then [] else ':' :: Nat.toDigits 10 u.port) u.port := by
  split
  · next hp =>
    rw [hp]
    exact .absent
  · exact .given (Text.numeral_toDigits _) h.port_pos h.port_le

theorem WellFormed.authorityForm (h : u.WellFormed) (hkept : u.HostKept) :
    AuthorityForm u.authority.toList u.host u.port := by
  refine ⟨_, _, toList_authority u, ?_, h.portForm⟩
  rw [← @String.ofList_toList u.host, String.toList_ofList]
  split
  · next hcolon => exact .bracketed h.ne_nil (h.closed hcolon)
  · next hcolon =>
    obtain ⟨hbracket, hchars⟩ := hkept.resolve_left hcolon
    have hform := HostForm.plain h.ne_nil hcolon (fun c hc => (hchars c hc).1) hbracket
    rwa [Text.map_toLower_eq_self_iff.2 fun c hc => (hchars c hc).2] at hform

/-- Without a colon in the host, the authority is cut at the port and nowhere else. -/
theorem WellFormed.hostKept (h : u.WellFormed)
    (hform : AuthorityForm u.authority.toList u.host u.port) : u.HostKept := by
  by_cases hcolon : ':' ∈ u.host.toList
  · exact .inl hcolon
  obtain ⟨a, b, hab, hhost, hport⟩ := hform
  rw [toList_authority, if_neg hcolon] at hab
  right
  generalize hname : u.host = host at hhost
  cases hhost with
  | plain hne noColon noBlank noBracket =>
    have hcut {x y : List Char} (hx : ':' ∉ x) (hy : PortForm y u.port) :
        (x ++ y).span (· ≠ ':') = (x, y) :=
      Text.span_ne_eq_iff.2 ⟨rfl, hx, hy.head⟩
    have heq := hcut hcolon h.portForm
    rw [hab, hcut noColon hport] at heq
    obtain rfl : a = u.host.toList := congrArg Prod.fst heq
    have hlower := Text.map_toLower_eq_self_iff.1 (String.toList_ofList.symm.trans
      (congrArg String.toList hname).symm)
    rw [← hname]
    exact ⟨noBracket, fun c hc => ⟨noBlank c hc, hlower c hc⟩⟩
  | @bracketed cs _ noBracket =>
    -- the closing bracket would have to stand in the host or in the port
    rw [hname, String.toList_ofList] at hab
    have hmem : ']' ∈ '[' :: cs ++ [']'] ++ b := by simp
    rw [← hab] at hmem
    rcases List.mem_append.1 hmem with hmem | hmem
    · exact absurd hmem noBracket
    · exact absurd hmem h.portForm.noBracket

theorem trim_path_iff (h : u.WellFormed) :
    Text.trim u.path.toList = u.path.toList ↔ u.PathKept := by
  constructor
  · intro htrim c hc
    obtain ⟨-, -, -, -, hends⟩ := Text.trim_eq_iff.1 htrim
    exact hends c (.inr hc)
  · intro hkept
    refine Text.trim_eq_iff.2 ⟨[], [], by simp, nofun, fun c hc => ?_⟩
    rcases hc with hc | hc
    · obtain rfl : '/' = c := Option.some.inj (h.path_head.symm.trans hc)
      decide
    · exact hkept c hc

/-- **Reading the text of a URL** that was read gives the same URL exactly if the host holds a colon,
or has no blank, no capital and no bracket in front, and the path does not end in a blank. -/
theorem parse_text_iff {s : String} (h : parse s = .ok u) :
    parse u.text = .ok u ↔ u.HostKept ∧ u.PathKept := by
  have hwell := wellFormed_of_parse h
  rw [parse_text hwell]
  constructor
  · intro hread
    obtain ⟨⟨host, port⟩, hp, heq⟩ := map_eq_ok_iff.1 hread
    obtain rfl : host = u.host := congrArg Url.host heq
    obtain rfl : port = u.port := congrArg Url.port heq
    have hpath := congrArg (String.toList ∘ Url.path) heq
    exact ⟨hwell.hostKept (parseAuthority_eq_ok_iff.1 hp),
      (trim_path_iff hwell).1 (String.toList_ofList.symm.trans hpath)⟩
  · rintro ⟨hhost, hpath⟩
    rw [parseAuthority_eq_ok_iff.2 (hwell.authorityForm hhost), (trim_path_iff hwell).2 hpath]
    simp [Except.map]

/-- An address with a port, a path with a blank inside and a fragment. -/
theorem parse_text_iff_address :
    parse " https://[::1]:09443/a b?q=h2#top " = .ok ⟨"::1", 9443, "/a b?q=h2"⟩ ∧
      parse (text ⟨"::1", 9443, "/a b?q=h2"⟩) = .ok ⟨"::1", 9443, "/a b?q=h2"⟩ := by
  have hread : parse " https://[::1]:09443/a b?q=h2#top " = .ok ⟨"::1", 9443, "/a b?q=h2"⟩ := by
    decide +kernel
  refine ⟨hread, (parse_text_iff hread).2 ⟨.inl (by decide +kernel), fun c hc => ?_⟩⟩
  obtain rfl : '2' = c := Option.some.inj hc
  decide

/-- A name in brackets loses the brackets and is then read as any other name, and a blank before a
fragment comes to stand at the end. -/
theorem not_kept_bracketedName :
    (parse "https://[ABC]/" = .ok ⟨"ABC", 443, "/"⟩ ∧
      parse (text ⟨"ABC", 443, "/"⟩) ≠ .ok ⟨"ABC", 443, "/"⟩) ∧
    (parse "https://[a b]/" = .ok ⟨"a b", 443, "/"⟩ ∧
      parse (text ⟨"a b", 443, "/"⟩) = .error (.host "a b")) ∧
    (parse "https://a/x #top" = .ok ⟨"a", 443, "/x "⟩ ∧
      parse (text ⟨"a", 443, "/x "⟩) = .ok ⟨"a", 443, "/x"⟩) := by
  decide +kernel

end Url

end Http2
