import Http2.Client.Basic
import Http2.Proofs.Connection.FieldFaults
import Http2.Proofs.Field.Compression
import Http2.Proofs.Text.Basic

/-!
Which clients can send. A client is built if its fields pass the check of a request on their own,
while a request has them checked behind its four pseudo-headers. Main statement: a client that was
built can send exactly if no pseudo-header was chosen for it, and with one every request fails.
-/

namespace Http2

namespace Field

theorem isPseudoName_asciiLower (name : String) :
    isPseudoName (Text.asciiLower name) = isPseudoName name := by
  rw [isPseudoName, isPseudoName, Text.toList_asciiLower, List.head?_map]
  cases name.toList.head? with
  | none => rfl
  | some c =>
    rw [Option.map_some, Bool.eq_iff_iff, beq_iff_eq, beq_iff_eq, Option.some.injEq,
      Option.some.injEq]
    constructor
    · exact Text.eq_of_toLower_eq rfl
    · rintro rfl
      rfl

/-- **Fields that pass on their own** pass behind the pseudo-headers of a request too, unless they
begin with a pseudo-header, which then comes twice. -/
theorem validateRequest_requestFields_of_alone (method authority path : String)
    {extra : List Field} (h : validateRequest extra = .ok ()) :
    (∀ f ∈ extra, Regular f) ∨ ∃ name ∈ requestPseudoNames,
      validateRequest (Endpoint.requestFields method authority path extra) =
        .error (.field (.repeatedPseudo name)) := by
  cases extra with
  | nil => exact .inl nofun
  | cons f fs =>
    obtain ⟨hf, hfs⟩ := firstFault?_cons_eq_none_iff.1 (validateRequest_eq_ok_iff.1 h)
    rcases fault?_eq_none_iff.1 hf with hreg | ⟨-, hin, -⟩
    · exact .inl (List.forall_mem_cons.2
        ⟨hreg, (firstFault?_eq_none_iff_of_isFull (Seen.isFull_add_of_regular hreg _)).1 hfs⟩)
    · refine .inr ⟨f.1, hin, ?_⟩
      obtain ⟨hname, hpseudo⟩ := ne_and_isPseudoName hin
      have hfault : fault? seenPseudo f = some (.repeatedPseudo f.1) := by
        simp [fault?, pseudoFault?, hname, hpseudo, hin, seenPseudo]
      rw [validateRequest, firstFault?_requestFields, firstFault?, hfault]

end Field

namespace Client

/-! ### Choices -/

/-- What a program chooses for its client. -/
inductive Draft.Choice where
  | connectTimeout (timeout : Option Nat)
  | timeout (timeout : Option Nat)
  | verification (verify : Bool)
  | trustFile (path : String)
  | versions (min max : Tls.Version)
  | header (name value : String)
  | userAgent (agent : String)
  deriving DecidableEq, Repr

namespace Draft

def choose (d : Draft) : Choice → Draft
  | .connectTimeout timeout => d.withConnectTimeout timeout
  | .timeout timeout => d.withTimeout timeout
  | .verification verify => d.withVerification verify
  | .trustFile path => d.withTrustFile path
  | .versions min max => d.withVersions min max
  | .header name value => d.withHeader name value
  | .userAgent agent => d.withUserAgent agent

/-- What choices make of the client that nothing was asked of. -/
def ofChoices (choices : List Choice) : Draft :=
  choices.foldl choose {}

/-- The name of the field that a choice sets, if it sets one. -/
def Choice.name? : Choice → Option String
  | .header name _ => some (Text.asciiLower name)
  | .userAgent _ => some "user-agent"
  | _ => none

/-- The choice is of a field that is named like a pseudo-header. -/
def Choice.isPseudo : Choice → Bool
  | .header name _ => Field.isPseudoName name
  | _ => false

theorem isPseudoName_userAgent : Field.isPseudoName "user-agent" = false := by
  decide +kernel

theorem Choice.isPseudo_iff (choice : Choice) :
    choice.isPseudo = true ↔ ∃ name, choice.name? = some name ∧ Field.isPseudoName name = true := by
  cases choice with
  | header name value => simp [isPseudo, name?, Field.isPseudoName_asciiLower]
  | userAgent agent => simp [isPseudo, name?, isPseudoName_userAgent]
  | _ => simp [isPseudo, name?]

def names (d : Draft) : List String :=
  d.headers.map Prod.fst

theorem mem_names_withHeader (d : Draft) (name value : String) {n : String} :
    n ∈ (d.withHeader name value).names ↔ n ∈ d.names ∨ Text.asciiLower name = n := by
  -- the fields that are taken out carry the name of the one that is put in
  by_cases h : Text.asciiLower name = n
  · subst h
    simp [names, withHeader]
  · simp [names, withHeader, h, Ne.symm h]

theorem mem_names_choose (d : Draft) (choice : Choice) {n : String} :
    n ∈ (d.choose choice).names ↔ n ∈ d.names ∨ choice.name? = some n := by
  cases choice with
  | header name value => simp [choose, mem_names_withHeader, Choice.name?]
  | userAgent agent =>
    have hname : Text.asciiLower "user-agent" = "user-agent" := by decide +kernel
    simp [choose, withUserAgent, mem_names_withHeader, Choice.name?, hname]
  | connectTimeout | timeout | verification | trustFile | versions =>
    simp only [Choice.name?, reduceCtorEq, or_false]
    rfl

/-- **The names of a client's fields** are those that were chosen, in whatever order, and the one
that every client has. -/
theorem mem_names_ofChoices (choices : List Choice) {n : String} :
    n ∈ (ofChoices choices).names ↔
      n = "user-agent" ∨ ∃ choice ∈ choices, choice.name? = some n := by
  have hfold (d : Draft) : n ∈ (choices.foldl choose d).names ↔
      n ∈ d.names ∨ ∃ choice ∈ choices, choice.name? = some n := by
    induction choices generalizing d with
    | nil => simp
    | cons choice choices ih => simp [ih, mem_names_choose, or_assoc]
  rw [ofChoices, hfold]
  simp [names, Client.default]

theorem noPseudo_iff (choices : List Choice) :
    (∀ choice ∈ choices, choice.isPseudo = false) ↔
      ∀ f ∈ (ofChoices choices).headers, Field.isPseudoName f.1 = false := by
  constructor
  · intro h f hf
    rcases (mem_names_ofChoices choices).1 (List.mem_map_of_mem hf) with hn | ⟨choice, hmem, hn⟩
    · rw [hn, isPseudoName_userAgent]
    · refine Bool.eq_false_iff.2 fun hp => ?_
      have hchoice := choice.isPseudo_iff.2 ⟨f.1, hn, hp⟩
      rw [h choice hmem] at hchoice
      cases hchoice
  · refine fun h choice hmem => Bool.eq_false_iff.2 fun hp => ?_
    obtain ⟨name, hn, hp⟩ := choice.isPseudo_iff.1 hp
    have hname : name ∈ (ofChoices choices).names :=
      (mem_names_ofChoices choices).2 (.inr ⟨choice, hmem, hn⟩)
    obtain ⟨f, hf, rfl⟩ := List.mem_map.1 hname
    rw [h f hf] at hp
    cases hp

theorem build_eq_ok_iff {d : Draft} {client : Client} :
    d.build = .ok client ↔
      d.options.minVersion.rank ≤ d.options.maxVersion.rank ∧
        Field.validateRequest d.headers = .ok () ∧ client = ⟨d.options, d.headers⟩ := by
  unfold build
  simp only
  split
  · next h => exact ⟨nofun, fun hok => absurd hok.1 (Nat.not_le.2 h)⟩
  · next h =>
    cases Field.validateRequest d.headers with
    | error e => simp [Except.map]
    | ok u => simp [Except.map, Nat.le_of_not_lt h, eq_comm]

theorem regular_iff {choices : List Choice} {client : Client}
    (hbuild : (ofChoices choices).build = .ok client) :
    (∀ f ∈ client.headers, f.Regular) ↔ ∀ choice ∈ choices, choice.isPseudo = false := by
  obtain ⟨-, hvalid, rfl⟩ := build_eq_ok_iff.1 hbuild
  rw [noPseudo_iff]
  refine forall₂_congr fun f hf => ⟨fun h => h.regular, fun h => ?_⟩
  refine (Field.regular_of_validateRequest hvalid f hf).resolve_right fun hin => ?_
  rw [(Field.ne_and_isPseudoName hin).2] at h
  cases h

end Draft

/-! ### Sending -/

/-- **A client that was built can send exactly if no pseudo-header was chosen for it.** With one,
every request on an open connection fails for a pseudo-header that comes twice. -/
theorem sends_iff {choices : List Draft.Choice} {client : Client}
    (hbuild : (Draft.ofChoices choices).build = .ok client) (method : String) (url : Url) :
    (Field.validateRequest
        (Endpoint.requestFields method url.authority url.path client.headers) = .ok () ↔
      ∀ choice ∈ choices, choice.isPseudo = false) ∧
    ∀ conn : Connection, conn.phase = .ready →
      ((∀ fault, (client.send conn method url).1 ≠ .error (.field fault)) ↔
        ∀ choice ∈ choices, choice.isPseudo = false) ∧
      ∀ fault, (client.send conn method url).1 = .error (.field fault) →
        ∃ name ∈ Field.requestPseudoNames, fault = .repeatedPseudo name := by
  have hvalid : Field.validateRequest client.headers = .ok () := by
    obtain ⟨-, h, rfl⟩ := Draft.build_eq_ok_iff.1 hbuild
    exact h
  have hiff := (Field.validateRequest_requestFields_iff method url.authority url.path).trans
    (Draft.regular_iff hbuild)
  refine ⟨hiff, fun conn hready => ?_⟩
  have hsend (fault : Field.Fault) : (client.send conn method url).1 = .error (.field fault) ↔
      Field.validateRequest
          (Endpoint.requestFields method url.authority url.path client.headers) =
        .error (.field fault) := by
    rw [send, Connection.request_eq_field_iff, and_iff_right hready]
  refine ⟨?_, fun fault hfault => ?_⟩
  · rw [← hiff]
    simp only [ne_eq, hsend]
    rcases Field.validateRequest_cases
      (Endpoint.requestFields method url.authority url.path client.headers) with h | ⟨fault, h⟩
    · simp [h]
    · simp [h]
  · have hfault := (hsend fault).1 hfault
    rcases Field.validateRequest_requestFields_of_alone method url.authority url.path hvalid with
      hreg | ⟨name, hin, hrepeated⟩
    · rw [Field.validateRequest_requestFields _ _ _ hreg] at hfault
      cases hfault
    · rw [hrepeated] at hfault
      cases hfault
      exact ⟨name, hin, rfl⟩

/-- A client with a field of its own, for another program than the default one. -/
theorem sends_iff_accepting :
    (Draft.ofChoices [.header "Accept" "*/*", .userAgent "a"]).build =
        .ok ⟨{}, [("accept", "*/*"), ("user-agent", "a")]⟩ ∧
      Connection.fresh.phase = .ready ∧
      ∀ fault, (send ⟨{}, [("accept", "*/*"), ("user-agent", "a")]⟩ Connection.fresh "GET"
        ⟨"a", 443, "/"⟩).1 ≠ .error (.field fault) := by
  have hbuild : (Draft.ofChoices [.header "Accept" "*/*", .userAgent "a"]).build =
      .ok ⟨{}, [("accept", "*/*"), ("user-agent", "a")]⟩ := by
    decide +kernel
  have hready : Connection.fresh.phase = .ready := by cbv
  have hiff := ((sends_iff hbuild "GET" ⟨"a", 443, "/"⟩).2 Connection.fresh hready).1
  exact ⟨hbuild, hready, hiff.2 (by decide +kernel)⟩

/-- A pseudo-header behind the default field is refused. Once that field is set again the
pseudo-header comes first, the client is built, and its requests fail. -/
theorem not_sends_pseudoFirst :
    (Draft.ofChoices [.header ":method" "X"]).build = .error (.field (.latePseudo ":method")) ∧
    (Draft.ofChoices [.header ":method" "X", .userAgent "x"]).build =
      .ok ⟨{}, [(":method", "X"), ("user-agent", "x")]⟩ ∧
    Url.parse "https://a/" = .ok ⟨"a", 443, "/"⟩ ∧ Connection.fresh.phase = .ready ∧
    Field.validateRequest (Endpoint.requestFields "GET" "a" "/"
      [(":method", "X"), ("user-agent", "x")]) = .error (.field (.repeatedPseudo ":method")) ∧
    (send ⟨{}, [(":method", "X"), ("user-agent", "x")]⟩ Connection.fresh "GET"
      ⟨"a", 443, "/"⟩).1 = .error (.field (.repeatedPseudo ":method")) := by
  have hinvalid : Field.validateRequest (Endpoint.requestFields "GET" "a" "/"
      [(":method", "X"), ("user-agent", "x")]) = .error (.field (.repeatedPseudo ":method")) := by
    decide +kernel
  have hready : Connection.fresh.phase = .ready := by cbv
  have hauthority : Url.authority ⟨"a", 443, "/"⟩ = "a" := by decide +kernel
  refine ⟨by decide +kernel, by decide +kernel, by decide +kernel, hready, hinvalid, ?_⟩
  rw [send, Connection.request_eq_field_iff, hauthority]
  exact ⟨hready, hinvalid⟩

end Client

end Http2
