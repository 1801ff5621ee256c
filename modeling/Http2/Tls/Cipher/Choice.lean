import Http2.Text.Basic
import Http2.Tls.Cipher.Pattern

/-!
Choices of ciphers, written as rules. A text names rules between colons, blanks, commas or
semicolons; each rule changes which of the ciphers are chosen. The suites of TLS 1.3 are listed by
their standard names, where the names of older ciphers can be read, too.
-/

namespace Http2.Tls.Cipher

/-! ### Rules -/

/-- What a rule does with the ciphers that it is about. -/
inductive Action where
  | add
  /-- Takes them back; they may be added again. -/
  | remove
  /-- Takes them back for good. -/
  | bar
  /-- Makes them the last ones. -/
  | postpone
  deriving DecidableEq, Repr

inductive Rule where
  | select (action : Action) (pattern : Pattern)
  /-- Puts the strong ciphers first. -/
  | sort
  /-- Sets the level of security, from 0 to 5. -/
  | level (n : Nat)
  deriving DecidableEq, Repr

/-! ### Reading rules -/

inductive Token where
  | word (cs : List Char)
  | mark (c : Char)
  deriving DecidableEq, Repr

def isWordChar (c : Char) : Bool :=
  c.isAlphanum || c == '-' || c == '_' || c == '.' || c == '='

/-- A text in words, as long as they can be, and the characters between them. -/
def tokens : List Char → List Token
  | [] => []
  | c :: cs =>
    if isWordChar c then
      match tokens cs with
      | .word w :: ts => .word (c :: w) :: ts
      | ts => .word [c] :: ts
    else .mark c :: tokens cs

/-- The rule behind the mark `@`. -/
def command? : List Char → Option Rule
  | ['S', 'T', 'R', 'E', 'N', 'G', 'T', 'H'] => some .sort
  | ['S', 'E', 'C', 'L', 'E', 'V', 'E', 'L', '=', d] =>
    if '0' ≤ d ∧ d ≤ '5' then some (.level (d.toNat - '0'.toNat)) else none
  | _ => none

/-- The rules in the pieces between two separators; `none` where there is no word in the place of
one. `begun` is the rule in the making. A name that is unknown, or has nothing in common
with the names joined to it, ends them. -/
def readRules (begun : Option (Action × Pattern)) : List Token → Option (List Rule)
  | [] => if begun.isNone then some [] else none
  | .word w :: ts =>
    let (action, pattern, name) :=
      match begun, w with
      | some (action, pattern), w => (action, pattern, w)
      | none, '-' :: w => (.remove, {}, w)
      | none, w => (.add, {}, w)
    if name = [] then none
    else
      match (Pattern.ofName? (String.ofList name)).bind pattern.meet? with
      | none => some []
      | some pattern =>
        match ts with
        | .mark '+' :: ts => readRules (some (action, pattern)) ts
        | ts => (readRules none ts).map (.select action pattern :: ·)
  | .mark c :: ts =>
    if begun.isSome then none
    else
      match c, ts with
      | '!', ts => readRules (some (.bar, {})) ts
      | '+', ts => readRules (some (.postpone, {})) ts
      | '@', .word w :: _ => (command? w).map ([·])
      | _, _ => none

def isSeparator (c : Char) : Bool :=
  c == ':' || c == ' ' || c == ',' || c == ';'

/-- The rules of a text; `none` if one of them cannot be read. -/
def readAll (cs : List Char) : Option (List Rule) :=
  ((Text.parts isSeparator cs).mapM fun part => readRules none (tokens part)).map List.flatten

/-- The rules of a text that may begin with `DEFAULT`, which stands for the usual ciphers. -/
def rules? (s : String) : Option (List Rule) :=
  if "DEFAULT".toList.isPrefixOf s.toList then do
    let usual ← readAll "ALL:!COMPLEMENTOFDEFAULT:!eNULL".toList
    let rest := s.toList.drop "DEFAULT".length
    return usual ++ (← readAll (if rest.head? = some ':' then rest.tail else rest))
  else readAll s.toList

/-! ### Following rules -/

inductive Status where
  | idle | chosen | barred
  deriving DecidableEq, Repr

def Status.after : Action → Status → Status
  | .add, .idle => .chosen
  | .remove, .chosen => .idle
  | .bar, _ => .barred
  | _, status => status

/-- Follows a rule. -/
def follow (choice : List (Cipher × Status)) : Rule → List (Cipher × Status)
  | .select action pattern =>
    choice.map fun (c, status) => (c, if pattern.fits c then status.after action else status)
  | .sort | .level _ => choice

/-- The ciphers that rules choose, in no order of preference. -/
def chosen (rules : List Rule) : List Cipher :=
  let choice := rules.foldl follow (registry.map (·, .idle))
  (choice.filter (·.2 == .chosen)).map (·.1)

/-- A text that asks for Suite B, whatever follows. -/
def isSuiteB (s : String) : Bool :=
  "SUITEB128".toList.isPrefixOf s.toList || "SUITEB192".toList.isPrefixOf s.toList

/-! ### Suites -/

def suites : List String :=
  ["TLS_AES_128_GCM_SHA256", "TLS_AES_256_GCM_SHA384", "TLS_CHACHA20_POLY1305_SHA256",
    "TLS_AES_128_CCM_SHA256", "TLS_AES_128_CCM_8_SHA256", "TLS_SHA256_SHA256",
    "TLS_SHA384_SHA384"]

/-- Names that stand for a signal and not for a cipher. -/
def signals : List String :=
  ["TLS_EMPTY_RENEGOTIATION_INFO_SCSV", "TLS_FALLBACK_SCSV"]

/-- Names of ciphers that cannot be chosen any more. -/
def retired : List String :=
  ["TLS_RSA_WITH_IDEA_CBC_SHA", "TLS_RSA_WITH_SEED_CBC_SHA", "TLS_DHE_DSS_WITH_SEED_CBC_SHA",
    "TLS_DHE_RSA_WITH_SEED_CBC_SHA", "TLS_DH_anon_WITH_SEED_CBC_SHA",
    "TLS_GOSTR341001_WITH_28147_CNT_IMIT", "TLS_GOSTR341001_WITH_NULL_GOSTR3411"]

/-- A name that can be offered, but is not one of TLS 1.3. -/
def isOlder (name : String) : Bool :=
  registry.any (·.standardName == name) || signals.contains name

def isSuite (name : String) : Bool :=
  suites.contains name || isOlder name || retired.contains name

def isPadding (c : Char) : Bool :=
  c == ' ' || ('\t' ≤ c && c ≤ '\r')

def unpadded (cs : List Char) : String :=
  String.ofList ((cs.dropWhile isPadding).reverse.dropWhile isPadding).reverse

/-- The suites of a list between colons. Unknown names are passed over, but one has to be known,
unless the list is empty. -/
def suites? (s : String) : Option (List String) :=
  match ((Text.parts (· == ':') s.toList).map unpadded).filter isSuite with
  | [] => if s = "" then some [] else none
  | known => some known

end Http2.Tls.Cipher
