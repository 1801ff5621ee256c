import Http2.Tls.Cipher.Registry

/-!
Patterns: what a name, or several names joined, says about a cipher. A name stands for one cipher or
for a group.
-/

namespace Http2.Tls.Cipher

/-- A condition on ciphers. Each part that is given has to hold. -/
structure Pattern where
  /-- The name of the only cipher meant. -/
  cipher : Option String := none
  keyExchange : Option (List KeyExchange) := none
  authentication : Option (List Authentication) := none
  encryption : Option (List Encryption) := none
  mac : Option (List Mac) := none
  since : Option Since := none
  /-- The grades of which a cipher needs one. -/
  grades : Option (List Grade) := none
  /-- Only ciphers that are otherwise left out. -/
  optionalOnly : Bool := false
  deriving DecidableEq, Repr

namespace Pattern

def allows {α : Type} [BEq α] (part : Option (List α)) (a : α) : Bool :=
  part.all (·.contains a)

/-- A cipher fits a pattern. -/
def fits (p : Pattern) (c : Cipher) : Bool :=
  p.cipher.all (· == c.name) && allows p.keyExchange c.keyExchange &&
    allows p.authentication c.authentication && allows p.encryption c.encryption &&
    allows p.mac c.mac && p.since.all (· == c.since) &&
    p.grades.all (fun gs => c.grades.any gs.contains) && (!p.optionalOnly || c.isOptional)

/-- What both parts allow; `none` if that is nothing. -/
def meetPart {α : Type} [BEq α] : Option (List α) → Option (List α) → Option (Option (List α))
  | none, b => some b
  | a, none => some a
  | some a, some b =>
    match a.filter b.contains with
    | [] => none
    | c => some (some c)

/-- The version that both ask for; `none` if they differ. -/
def meetSince : Option Since → Option Since → Option (Option Since)
  | none, b => some b
  | a, none => some a
  | some a, some b => if a = b then some (some a) else none

/-- A pattern narrowed down by the next name; `none` if the two have nothing in common. Of two
ciphers the later one counts. The first grade asked for takes back a restriction to ciphers
that are otherwise left out. -/
def meet? (p q : Pattern) : Option Pattern := do
  return {
    cipher := q.cipher <|> p.cipher
    keyExchange := ← meetPart p.keyExchange q.keyExchange
    authentication := ← meetPart p.authentication q.authentication
    encryption := ← meetPart p.encryption q.encryption
    mac := ← meetPart p.mac q.mac
    since := ← meetSince p.since q.since
    grades := ← meetPart p.grades q.grades
    optionalOnly := q.optionalOnly || (p.optionalOnly && (p.grades.isSome || q.grades.isNone)) }

/-- The pattern of one cipher. Its version is no part of it. -/
def ofCipher (c : Cipher) : Pattern where
  cipher := some c.name
  keyExchange := some [c.keyExchange]
  authentication := some [c.authentication]
  encryption := some [c.encryption]
  mac := some [c.mac]
  grades := some c.grades
  optionalOnly := c.isOptional

/-! ### Groups -/

/-- Every encryption but none at all. -/
def encrypted : List Encryption :=
  [.tripleDes, .aes128, .aes256, .aes128Gcm, .aes256Gcm, .aes128Ccm, .aes256Ccm, .aes128Ccm8,
    .aes256Ccm8, .camellia128, .camellia256, .aria128Gcm, .aria256Gcm, .chaCha20]

def authenticated : List Authentication :=
  [.rsa, .dss, .ecdsa, .psk, .srp]

def keyExchanges (xs : List KeyExchange) : Pattern := { keyExchange := some xs }

def authentications (xs : List Authentication) : Pattern := { authentication := some xs }

def encryptions (xs : List Encryption) : Pattern := { encryption := some xs }

def macs (xs : List Mac) : Pattern := { mac := some xs }

def graded (g : Grade) : Pattern := { grades := some [g] }

def exchange (x : KeyExchange) (as : List Authentication) : Pattern :=
  { keyExchange := some [x], authentication := some as }

/-- Triple DES with keys by DHE, of which no cipher is left. -/
def tripleDesWith (a : Authentication) : Pattern :=
  { keyExchange := some [.dhe], authentication := some [a], encryption := some [.tripleDes]
    mac := some [.sha1], grades := some [.high, .fips] }

def groups : List (String × Pattern) :=
  [("ALL", encryptions encrypted),
    ("COMPLEMENTOFALL", encryptions [.plain]),
    ("COMPLEMENTOFDEFAULT", { optionalOnly := true }),
    ("kRSA", keyExchanges [.rsa]),
    ("kEDH", keyExchanges [.dhe]), ("kDHE", keyExchanges [.dhe]), ("DH", keyExchanges [.dhe]),
    ("kEECDH", keyExchanges [.ecdhe]), ("kECDHE", keyExchanges [.ecdhe]),
    ("ECDH", keyExchanges [.ecdhe]),
    ("kPSK", keyExchanges [.psk]), ("kRSAPSK", keyExchanges [.rsaPsk]),
    ("kECDHEPSK", keyExchanges [.ecdhePsk]), ("kDHEPSK", keyExchanges [.dhePsk]),
    ("kSRP", keyExchanges [.srp]), ("SRP", keyExchanges [.srp]),
    ("PSK", keyExchanges [.psk, .rsaPsk, .dhePsk, .ecdhePsk]),
    ("aRSA", authentications [.rsa]),
    ("aDSS", authentications [.dss]), ("DSS", authentications [.dss]),
    ("aNULL", authentications [.anonymous]),
    ("aECDSA", authentications [.ecdsa]), ("ECDSA", authentications [.ecdsa]),
    ("aPSK", authentications [.psk]),
    ("aSRP", authentications [.srp]),
    ("EDH", exchange .dhe authenticated), ("DHE", exchange .dhe authenticated),
    ("EECDH", exchange .ecdhe authenticated), ("ECDHE", exchange .ecdhe authenticated),
    ("RSA", exchange .rsa [.rsa]),
    ("ADH", exchange .dhe [.anonymous]),
    ("AECDH", exchange .ecdhe [.anonymous]),
    ("NULL", encryptions [.plain]), ("eNULL", encryptions [.plain]),
    ("3DES", encryptions [.tripleDes]),
    ("AES128", encryptions [.aes128, .aes128Gcm, .aes128Ccm, .aes128Ccm8]),
    ("AES256", encryptions [.aes256, .aes256Gcm, .aes256Ccm, .aes256Ccm8]),
    ("AES", encryptions [.aes128, .aes256, .aes128Gcm, .aes256Gcm, .aes128Ccm, .aes256Ccm,
      .aes128Ccm8, .aes256Ccm8]),
    ("AESGCM", encryptions [.aes128Gcm, .aes256Gcm]),
    ("AESCCM", encryptions [.aes128Ccm, .aes256Ccm, .aes128Ccm8, .aes256Ccm8]),
    ("AESCCM8", encryptions [.aes128Ccm8, .aes256Ccm8]),
    ("CAMELLIA128", encryptions [.camellia128]),
    ("CAMELLIA256", encryptions [.camellia256]),
    ("CAMELLIA", encryptions [.camellia128, .camellia256]),
    ("CHACHA20", encryptions [.chaCha20]),
    ("ARIA", encryptions [.aria128Gcm, .aria256Gcm]),
    ("ARIAGCM", encryptions [.aria128Gcm, .aria256Gcm]),
    ("ARIA128", encryptions [.aria128Gcm]),
    ("ARIA256", encryptions [.aria256Gcm]),
    ("CBC", encryptions [.tripleDes, .aes128, .aes256, .camellia128, .camellia256]),
    ("MD5", macs [.md5]),
    ("SHA1", macs [.sha1]), ("SHA", macs [.sha1]),
    ("SHA256", macs [.sha256]),
    ("SHA384", macs [.sha384]),
    ("SSLv3", { since := some .ssl3 }),
    ("TLSv1", { since := some .tls10 }), ("TLSv1.0", { since := some .tls10 }),
    ("TLSv1.2", { since := some .tls12 }),
    ("LOW", graded .low),
    ("MEDIUM", graded .medium),
    ("HIGH", graded .high),
    ("FIPS", { encryption := some encrypted, grades := some [.fips] }),
    ("EDH-DSS-DES-CBC3-SHA", tripleDesWith .dss),
    ("EDH-RSA-DES-CBC3-SHA", tripleDesWith .rsa)]

def ofName? (name : String) : Option Pattern :=
  (find? name).map ofCipher <|> groups.lookup name

end Pattern

end Http2.Tls.Cipher
