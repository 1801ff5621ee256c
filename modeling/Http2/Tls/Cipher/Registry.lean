/-!
The ciphers of TLS up to 1.2: how each agrees on keys, shows who the server is, hides and guards
data, and what follows from that about its grade; and all that can be chosen, the preferred ones
first.
-/

namespace Http2.Tls

namespace Cipher

/-- How the two sides agree on a key. -/
inductive KeyExchange where
  | rsa | dhe | ecdhe | psk | rsaPsk | dhePsk | ecdhePsk | srp
  deriving DecidableEq, Repr

/-- What the server shows who it is with. -/
inductive Authentication where
  | rsa | dss | ecdsa | psk | srp | anonymous
  deriving DecidableEq, Repr

/-- How data is hidden. No cipher is left that uses triple DES, but there are groups for it. -/
inductive Encryption where
  | plain | tripleDes | aes128 | aes256 | aes128Gcm | aes256Gcm | aes128Ccm | aes256Ccm
  | aes128Ccm8 | aes256Ccm8 | camellia128 | camellia256 | aria128Gcm | aria256Gcm | chaCha20
  deriving DecidableEq, Repr

/-- How data is guarded against changes; `aead` is for encryption that does both. -/
inductive Mac where
  | md5 | sha1 | sha256 | sha384 | aead
  deriving DecidableEq, Repr

/-- The oldest version that has a cipher. -/
inductive Since where
  | ssl3 | tls10 | tls12
  deriving DecidableEq, Repr

inductive Grade where
  | unencrypted | low | medium | high | fips
  deriving DecidableEq, Repr

end Cipher

/-- A cipher, with the name in use and the name in the standards. -/
structure Cipher where
  name : String
  standardName : String
  keyExchange : Cipher.KeyExchange
  authentication : Cipher.Authentication
  encryption : Cipher.Encryption
  mac : Cipher.Mac
  since : Cipher.Since
  deriving DecidableEq, Repr

namespace Cipher

/-- The grades of a cipher: AES in its older modes is approved by FIPS, but not with SRP. -/
def grades (c : Cipher) : List Grade :=
  match c.encryption with
  | .plain => [.unencrypted]
  | .tripleDes | .aes128Ccm8 | .aes256Ccm8 => [.medium]
  | .aes128 | .aes256 | .aes128Gcm | .aes256Gcm =>
    if c.keyExchange = .srp then [.high] else [.high, .fips]
  | _ => [.high]

/-- A cipher that is left out unless it is asked for: one for servers without a certificate of RSA
or ECDSA, and one with a rare encryption. -/
def isOptional (c : Cipher) : Bool :=
  match c.encryption with
  | .plain => false
  | .aes128 | .aes256 | .aes128Gcm | .aes256Gcm | .chaCha20 =>
    c.authentication == .anonymous || c.authentication == .dss
  | _ => true

/-! ### All ciphers -/

def registry : List Cipher :=
  [⟨"ECDHE-ECDSA-AES256-GCM-SHA384", "TLS_ECDHE_ECDSA_WITH_AES_256_GCM_SHA384",
      .ecdhe, .ecdsa, .aes256Gcm, .aead, .tls12⟩,
    ⟨"ECDHE-RSA-AES256-GCM-SHA384", "TLS_ECDHE_RSA_WITH_AES_256_GCM_SHA384",
      .ecdhe, .rsa, .aes256Gcm, .aead, .tls12⟩,
    ⟨"DHE-DSS-AES256-GCM-SHA384", "TLS_DHE_DSS_WITH_AES_256_GCM_SHA384",
      .dhe, .dss, .aes256Gcm, .aead, .tls12⟩,
    ⟨"DHE-RSA-AES256-GCM-SHA384", "TLS_DHE_RSA_WITH_AES_256_GCM_SHA384",
      .dhe, .rsa, .aes256Gcm, .aead, .tls12⟩,
    ⟨"ECDHE-ECDSA-CHACHA20-POLY1305", "TLS_ECDHE_ECDSA_WITH_CHACHA20_POLY1305_SHA256",
      .ecdhe, .ecdsa, .chaCha20, .aead, .tls12⟩,
    ⟨"ECDHE-RSA-CHACHA20-POLY1305", "TLS_ECDHE_RSA_WITH_CHACHA20_POLY1305_SHA256",
      .ecdhe, .rsa, .chaCha20, .aead, .tls12⟩,
    ⟨"DHE-RSA-CHACHA20-POLY1305", "TLS_DHE_RSA_WITH_CHACHA20_POLY1305_SHA256",
      .dhe, .rsa, .chaCha20, .aead, .tls12⟩,
    ⟨"ECDHE-ECDSA-AES256-CCM8", "TLS_ECDHE_ECDSA_WITH_AES_256_CCM_8",
      .ecdhe, .ecdsa, .aes256Ccm8, .aead, .tls12⟩,
    ⟨"ECDHE-ECDSA-AES256-CCM", "TLS_ECDHE_ECDSA_WITH_AES_256_CCM",
      .ecdhe, .ecdsa, .aes256Ccm, .aead, .tls12⟩,
    ⟨"DHE-RSA-AES256-CCM8", "TLS_DHE_RSA_WITH_AES_256_CCM_8",
      .dhe, .rsa, .aes256Ccm8, .aead, .tls12⟩,
    ⟨"DHE-RSA-AES256-CCM", "TLS_DHE_RSA_WITH_AES_256_CCM",
      .dhe, .rsa, .aes256Ccm, .aead, .tls12⟩,
    ⟨"ECDHE-ECDSA-ARIA256-GCM-SHA384", "TLS_ECDHE_ECDSA_WITH_ARIA_256_GCM_SHA384",
      .ecdhe, .ecdsa, .aria256Gcm, .aead, .tls12⟩,
    ⟨"ECDHE-ARIA256-GCM-SHA384", "TLS_ECDHE_RSA_WITH_ARIA_256_GCM_SHA384",
      .ecdhe, .rsa, .aria256Gcm, .aead, .tls12⟩,
    ⟨"DHE-DSS-ARIA256-GCM-SHA384", "TLS_DHE_DSS_WITH_ARIA_256_GCM_SHA384",
      .dhe, .dss, .aria256Gcm, .aead, .tls12⟩,
    ⟨"DHE-RSA-ARIA256-GCM-SHA384", "TLS_DHE_RSA_WITH_ARIA_256_GCM_SHA384",
      .dhe, .rsa, .aria256Gcm, .aead, .tls12⟩,
    ⟨"ADH-AES256-GCM-SHA384", "TLS_DH_anon_WITH_AES_256_GCM_SHA384",
      .dhe, .anonymous, .aes256Gcm, .aead, .tls12⟩,
    ⟨"ECDHE-ECDSA-AES128-GCM-SHA256", "TLS_ECDHE_ECDSA_WITH_AES_128_GCM_SHA256",
      .ecdhe, .ecdsa, .aes128Gcm, .aead, .tls12⟩,
    ⟨"ECDHE-RSA-AES128-GCM-SHA256", "TLS_ECDHE_RSA_WITH_AES_128_GCM_SHA256",
      .ecdhe, .rsa, .aes128Gcm, .aead, .tls12⟩,
    ⟨"DHE-DSS-AES128-GCM-SHA256", "TLS_DHE_DSS_WITH_AES_128_GCM_SHA256",
      .dhe, .dss, .aes128Gcm, .aead, .tls12⟩,
    ⟨"DHE-RSA-AES128-GCM-SHA256", "TLS_DHE_RSA_WITH_AES_128_GCM_SHA256",
      .dhe, .rsa, .aes128Gcm, .aead, .tls12⟩,
    ⟨"ECDHE-ECDSA-AES128-CCM8", "TLS_ECDHE_ECDSA_WITH_AES_128_CCM_8",
      .ecdhe, .ecdsa, .aes128Ccm8, .aead, .tls12⟩,
    ⟨"ECDHE-ECDSA-AES128-CCM", "TLS_ECDHE_ECDSA_WITH_AES_128_CCM",
      .ecdhe, .ecdsa, .aes128Ccm, .aead, .tls12⟩,
    ⟨"DHE-RSA-AES128-CCM8", "TLS_DHE_RSA_WITH_AES_128_CCM_8",
      .dhe, .rsa, .aes128Ccm8, .aead, .tls12⟩,
    ⟨"DHE-RSA-AES128-CCM", "TLS_DHE_RSA_WITH_AES_128_CCM",
      .dhe, .rsa, .aes128Ccm, .aead, .tls12⟩,
    ⟨"ECDHE-ECDSA-ARIA128-GCM-SHA256", "TLS_ECDHE_ECDSA_WITH_ARIA_128_GCM_SHA256",
      .ecdhe, .ecdsa, .aria128Gcm, .aead, .tls12⟩,
    ⟨"ECDHE-ARIA128-GCM-SHA256", "TLS_ECDHE_RSA_WITH_ARIA_128_GCM_SHA256",
      .ecdhe, .rsa, .aria128Gcm, .aead, .tls12⟩,
    ⟨"DHE-DSS-ARIA128-GCM-SHA256", "TLS_DHE_DSS_WITH_ARIA_128_GCM_SHA256",
      .dhe, .dss, .aria128Gcm, .aead, .tls12⟩,
    ⟨"DHE-RSA-ARIA128-GCM-SHA256", "TLS_DHE_RSA_WITH_ARIA_128_GCM_SHA256",
      .dhe, .rsa, .aria128Gcm, .aead, .tls12⟩,
    ⟨"ADH-AES128-GCM-SHA256", "TLS_DH_anon_WITH_AES_128_GCM_SHA256",
      .dhe, .anonymous, .aes128Gcm, .aead, .tls12⟩,
    ⟨"ECDHE-ECDSA-AES256-SHA384", "TLS_ECDHE_ECDSA_WITH_AES_256_CBC_SHA384",
      .ecdhe, .ecdsa, .aes256, .sha384, .tls12⟩,
    ⟨"ECDHE-RSA-AES256-SHA384", "TLS_ECDHE_RSA_WITH_AES_256_CBC_SHA384",
      .ecdhe, .rsa, .aes256, .sha384, .tls12⟩,
    ⟨"DHE-RSA-AES256-SHA256", "TLS_DHE_RSA_WITH_AES_256_CBC_SHA256",
      .dhe, .rsa, .aes256, .sha256, .tls12⟩,
    ⟨"DHE-DSS-AES256-SHA256", "TLS_DHE_DSS_WITH_AES_256_CBC_SHA256",
      .dhe, .dss, .aes256, .sha256, .tls12⟩,
    ⟨"ECDHE-ECDSA-CAMELLIA256-SHA384", "TLS_ECDHE_ECDSA_WITH_CAMELLIA_256_CBC_SHA384",
      .ecdhe, .ecdsa, .camellia256, .sha384, .tls12⟩,
    ⟨"ECDHE-RSA-CAMELLIA256-SHA384", "TLS_ECDHE_RSA_WITH_CAMELLIA_256_CBC_SHA384",
      .ecdhe, .rsa, .camellia256, .sha384, .tls12⟩,
    ⟨"DHE-RSA-CAMELLIA256-SHA256", "TLS_DHE_RSA_WITH_CAMELLIA_256_CBC_SHA256",
      .dhe, .rsa, .camellia256, .sha256, .tls12⟩,
    ⟨"DHE-DSS-CAMELLIA256-SHA256", "TLS_DHE_DSS_WITH_CAMELLIA_256_CBC_SHA256",
      .dhe, .dss, .camellia256, .sha256, .tls12⟩,
    ⟨"ADH-AES256-SHA256", "TLS_DH_anon_WITH_AES_256_CBC_SHA256",
      .dhe, .anonymous, .aes256, .sha256, .tls12⟩,
    ⟨"ADH-CAMELLIA256-SHA256", "TLS_DH_anon_WITH_CAMELLIA_256_CBC_SHA256",
      .dhe, .anonymous, .camellia256, .sha256, .tls12⟩,
    ⟨"ECDHE-ECDSA-AES128-SHA256", "TLS_ECDHE_ECDSA_WITH_AES_128_CBC_SHA256",
      .ecdhe, .ecdsa, .aes128, .sha256, .tls12⟩,
    ⟨"ECDHE-RSA-AES128-SHA256", "TLS_ECDHE_RSA_WITH_AES_128_CBC_SHA256",
      .ecdhe, .rsa, .aes128, .sha256, .tls12⟩,
    ⟨"DHE-RSA-AES128-SHA256", "TLS_DHE_RSA_WITH_AES_128_CBC_SHA256",
      .dhe, .rsa, .aes128, .sha256, .tls12⟩,
    ⟨"DHE-DSS-AES128-SHA256", "TLS_DHE_DSS_WITH_AES_128_CBC_SHA256",
      .dhe, .dss, .aes128, .sha256, .tls12⟩,
    ⟨"ECDHE-ECDSA-CAMELLIA128-SHA256", "TLS_ECDHE_ECDSA_WITH_CAMELLIA_128_CBC_SHA256",
      .ecdhe, .ecdsa, .camellia128, .sha256, .tls12⟩,
    ⟨"ECDHE-RSA-CAMELLIA128-SHA256", "TLS_ECDHE_RSA_WITH_CAMELLIA_128_CBC_SHA256",
      .ecdhe, .rsa, .camellia128, .sha256, .tls12⟩,
    ⟨"DHE-RSA-CAMELLIA128-SHA256", "TLS_DHE_RSA_WITH_CAMELLIA_128_CBC_SHA256",
      .dhe, .rsa, .camellia128, .sha256, .tls12⟩,
    ⟨"DHE-DSS-CAMELLIA128-SHA256", "TLS_DHE_DSS_WITH_CAMELLIA_128_CBC_SHA256",
      .dhe, .dss, .camellia128, .sha256, .tls12⟩,
    ⟨"ADH-AES128-SHA256", "TLS_DH_anon_WITH_AES_128_CBC_SHA256",
      .dhe, .anonymous, .aes128, .sha256, .tls12⟩,
    ⟨"ADH-CAMELLIA128-SHA256", "TLS_DH_anon_WITH_CAMELLIA_128_CBC_SHA256",
      .dhe, .anonymous, .camellia128, .sha256, .tls12⟩,
    ⟨"ECDHE-ECDSA-AES256-SHA", "TLS_ECDHE_ECDSA_WITH_AES_256_CBC_SHA",
      .ecdhe, .ecdsa, .aes256, .sha1, .tls10⟩,
    ⟨"ECDHE-RSA-AES256-SHA", "TLS_ECDHE_RSA_WITH_AES_256_CBC_SHA",
      .ecdhe, .rsa, .aes256, .sha1, .tls10⟩,
    ⟨"DHE-RSA-AES256-SHA", "TLS_DHE_RSA_WITH_AES_256_CBC_SHA",
      .dhe, .rsa, .aes256, .sha1, .ssl3⟩,
    ⟨"DHE-DSS-AES256-SHA", "TLS_DHE_DSS_WITH_AES_256_CBC_SHA",
      .dhe, .dss, .aes256, .sha1, .ssl3⟩,
    ⟨"DHE-RSA-CAMELLIA256-SHA", "TLS_DHE_RSA_WITH_CAMELLIA_256_CBC_SHA",
      .dhe, .rsa, .camellia256, .sha1, .ssl3⟩,
    ⟨"DHE-DSS-CAMELLIA256-SHA", "TLS_DHE_DSS_WITH_CAMELLIA_256_CBC_SHA",
      .dhe, .dss, .camellia256, .sha1, .ssl3⟩,
    ⟨"AECDH-AES256-SHA", "TLS_ECDH_anon_WITH_AES_256_CBC_SHA",
      .ecdhe, .anonymous, .aes256, .sha1, .tls10⟩,
    ⟨"ADH-AES256-SHA", "TLS_DH_anon_WITH_AES_256_CBC_SHA",
      .dhe, .anonymous, .aes256, .sha1, .ssl3⟩,
    ⟨"ADH-CAMELLIA256-SHA", "TLS_DH_anon_WITH_CAMELLIA_256_CBC_SHA",
      .dhe, .anonymous, .camellia256, .sha1, .ssl3⟩,
    ⟨"ECDHE-ECDSA-AES128-SHA", "TLS_ECDHE_ECDSA_WITH_AES_128_CBC_SHA",
      .ecdhe, .ecdsa, .aes128, .sha1, .tls10⟩,
    ⟨"ECDHE-RSA-AES128-SHA", "TLS_ECDHE_RSA_WITH_AES_128_CBC_SHA",
      .ecdhe, .rsa, .aes128, .sha1, .tls10⟩,
    ⟨"DHE-RSA-AES128-SHA", "TLS_DHE_RSA_WITH_AES_128_CBC_SHA",
      .dhe, .rsa, .aes128, .sha1, .ssl3⟩,
    ⟨"DHE-DSS-AES128-SHA", "TLS_DHE_DSS_WITH_AES_128_CBC_SHA",
      .dhe, .dss, .aes128, .sha1, .ssl3⟩,
    ⟨"DHE-RSA-CAMELLIA128-SHA", "TLS_DHE_RSA_WITH_CAMELLIA_128_CBC_SHA",
      .dhe, .rsa, .camellia128, .sha1, .ssl3⟩,
    ⟨"DHE-DSS-CAMELLIA128-SHA", "TLS_DHE_DSS_WITH_CAMELLIA_128_CBC_SHA",
      .dhe, .dss, .camellia128, .sha1, .ssl3⟩,
    ⟨"AECDH-AES128-SHA", "TLS_ECDH_anon_WITH_AES_128_CBC_SHA",
      .ecdhe, .anonymous, .aes128, .sha1, .tls10⟩,
    ⟨"ADH-AES128-SHA", "TLS_DH_anon_WITH_AES_128_CBC_SHA",
      .dhe, .anonymous, .aes128, .sha1, .ssl3⟩,
    ⟨"ADH-CAMELLIA128-SHA", "TLS_DH_anon_WITH_CAMELLIA_128_CBC_SHA",
      .dhe, .anonymous, .camellia128, .sha1, .ssl3⟩,
    ⟨"RSA-PSK-AES256-GCM-SHA384", "TLS_RSA_PSK_WITH_AES_256_GCM_SHA384",
      .rsaPsk, .rsa, .aes256Gcm, .aead, .tls12⟩,
    ⟨"DHE-PSK-AES256-GCM-SHA384", "TLS_DHE_PSK_WITH_AES_256_GCM_SHA384",
      .dhePsk, .psk, .aes256Gcm, .aead, .tls12⟩,
    ⟨"RSA-PSK-CHACHA20-POLY1305", "TLS_RSA_PSK_WITH_CHACHA20_POLY1305_SHA256",
      .rsaPsk, .rsa, .chaCha20, .aead, .tls12⟩,
    ⟨"DHE-PSK-CHACHA20-POLY1305", "TLS_DHE_PSK_WITH_CHACHA20_POLY1305_SHA256",
      .dhePsk, .psk, .chaCha20, .aead, .tls12⟩,
    ⟨"ECDHE-PSK-CHACHA20-POLY1305", "TLS_ECDHE_PSK_WITH_CHACHA20_POLY1305_SHA256",
      .ecdhePsk, .psk, .chaCha20, .aead, .tls12⟩,
    ⟨"DHE-PSK-AES256-CCM8", "TLS_PSK_DHE_WITH_AES_256_CCM_8",
      .dhePsk, .psk, .aes256Ccm8, .aead, .tls12⟩,
    ⟨"DHE-PSK-AES256-CCM", "TLS_DHE_PSK_WITH_AES_256_CCM",
      .dhePsk, .psk, .aes256Ccm, .aead, .tls12⟩,
    ⟨"RSA-PSK-ARIA256-GCM-SHA384", "TLS_RSA_PSK_WITH_ARIA_256_GCM_SHA384",
      .rsaPsk, .rsa, .aria256Gcm, .aead, .tls12⟩,
    ⟨"DHE-PSK-ARIA256-GCM-SHA384", "TLS_DHE_PSK_WITH_ARIA_256_GCM_SHA384",
      .dhePsk, .psk, .aria256Gcm, .aead, .tls12⟩,
    ⟨"AES256-GCM-SHA384", "TLS_RSA_WITH_AES_256_GCM_SHA384",
      .rsa, .rsa, .aes256Gcm, .aead, .tls12⟩,
    ⟨"AES256-CCM8", "TLS_RSA_WITH_AES_256_CCM_8",
      .rsa, .rsa, .aes256Ccm8, .aead, .tls12⟩,
    ⟨"AES256-CCM", "TLS_RSA_WITH_AES_256_CCM",
      .rsa, .rsa, .aes256Ccm, .aead, .tls12⟩,
    ⟨"ARIA256-GCM-SHA384", "TLS_RSA_WITH_ARIA_256_GCM_SHA384",
      .rsa, .rsa, .aria256Gcm, .aead, .tls12⟩,
    ⟨"PSK-AES256-GCM-SHA384", "TLS_PSK_WITH_AES_256_GCM_SHA384",
      .psk, .psk, .aes256Gcm, .aead, .tls12⟩,
    ⟨"PSK-CHACHA20-POLY1305", "TLS_PSK_WITH_CHACHA20_POLY1305_SHA256",
      .psk, .psk, .chaCha20, .aead, .tls12⟩,
    ⟨"PSK-AES256-CCM8", "TLS_PSK_WITH_AES_256_CCM_8",
      .psk, .psk, .aes256Ccm8, .aead, .tls12⟩,
    ⟨"PSK-AES256-CCM", "TLS_PSK_WITH_AES_256_CCM",
      .psk, .psk, .aes256Ccm, .aead, .tls12⟩,
    ⟨"PSK-ARIA256-GCM-SHA384", "TLS_PSK_WITH_ARIA_256_GCM_SHA384",
      .psk, .psk, .aria256Gcm, .aead, .tls12⟩,
    ⟨"RSA-PSK-AES128-GCM-SHA256", "TLS_RSA_PSK_WITH_AES_128_GCM_SHA256",
      .rsaPsk, .rsa, .aes128Gcm, .aead, .tls12⟩,
    ⟨"DHE-PSK-AES128-GCM-SHA256", "TLS_DHE_PSK_WITH_AES_128_GCM_SHA256",
      .dhePsk, .psk, .aes128Gcm, .aead, .tls12⟩,
    ⟨"DHE-PSK-AES128-CCM8", "TLS_PSK_DHE_WITH_AES_128_CCM_8",
      .dhePsk, .psk, .aes128Ccm8, .aead, .tls12⟩,
    ⟨"DHE-PSK-AES128-CCM", "TLS_DHE_PSK_WITH_AES_128_CCM",
      .dhePsk, .psk, .aes128Ccm, .aead, .tls12⟩,
    ⟨"RSA-PSK-ARIA128-GCM-SHA256", "TLS_RSA_PSK_WITH_ARIA_128_GCM_SHA256",
      .rsaPsk, .rsa, .aria128Gcm, .aead, .tls12⟩,
    ⟨"DHE-PSK-ARIA128-GCM-SHA256", "TLS_DHE_PSK_WITH_ARIA_128_GCM_SHA256",
      .dhePsk, .psk, .aria128Gcm, .aead, .tls12⟩,
    ⟨"AES128-GCM-SHA256", "TLS_RSA_WITH_AES_128_GCM_SHA256",
      .rsa, .rsa, .aes128Gcm, .aead, .tls12⟩,
    ⟨"AES128-CCM8", "TLS_RSA_WITH_AES_128_CCM_8",
      .rsa, .rsa, .aes128Ccm8, .aead, .tls12⟩,
    ⟨"AES128-CCM", "TLS_RSA_WITH_AES_128_CCM",
      .rsa, .rsa, .aes128Ccm, .aead, .tls12⟩,
    ⟨"ARIA128-GCM-SHA256", "TLS_RSA_WITH_ARIA_128_GCM_SHA256",
      .rsa, .rsa, .aria128Gcm, .aead, .tls12⟩,
    ⟨"PSK-AES128-GCM-SHA256", "TLS_PSK_WITH_AES_128_GCM_SHA256",
      .psk, .psk, .aes128Gcm, .aead, .tls12⟩,
    ⟨"PSK-AES128-CCM8", "TLS_PSK_WITH_AES_128_CCM_8",
      .psk, .psk, .aes128Ccm8, .aead, .tls12⟩,
    ⟨"PSK-AES128-CCM", "TLS_PSK_WITH_AES_128_CCM",
      .psk, .psk, .aes128Ccm, .aead, .tls12⟩,
    ⟨"PSK-ARIA128-GCM-SHA256", "TLS_PSK_WITH_ARIA_128_GCM_SHA256",
      .psk, .psk, .aria128Gcm, .aead, .tls12⟩,
    ⟨"AES256-SHA256", "TLS_RSA_WITH_AES_256_CBC_SHA256",
      .rsa, .rsa, .aes256, .sha256, .tls12⟩,
    ⟨"CAMELLIA256-SHA256", "TLS_RSA_WITH_CAMELLIA_256_CBC_SHA256",
      .rsa, .rsa, .camellia256, .sha256, .tls12⟩,
    ⟨"AES128-SHA256", "TLS_RSA_WITH_AES_128_CBC_SHA256",
      .rsa, .rsa, .aes128, .sha256, .tls12⟩,
    ⟨"CAMELLIA128-SHA256", "TLS_RSA_WITH_CAMELLIA_128_CBC_SHA256",
      .rsa, .rsa, .camellia128, .sha256, .tls12⟩,
    ⟨"ECDHE-PSK-AES256-CBC-SHA384", "TLS_ECDHE_PSK_WITH_AES_256_CBC_SHA384",
      .ecdhePsk, .psk, .aes256, .sha384, .tls10⟩,
    ⟨"ECDHE-PSK-AES256-CBC-SHA", "TLS_ECDHE_PSK_WITH_AES_256_CBC_SHA",
      .ecdhePsk, .psk, .aes256, .sha1, .tls10⟩,
    ⟨"SRP-DSS-AES-256-CBC-SHA", "TLS_SRP_SHA_DSS_WITH_AES_256_CBC_SHA",
      .srp, .dss, .aes256, .sha1, .ssl3⟩,
    ⟨"SRP-RSA-AES-256-CBC-SHA", "TLS_SRP_SHA_RSA_WITH_AES_256_CBC_SHA",
      .srp, .rsa, .aes256, .sha1, .ssl3⟩,
    ⟨"SRP-AES-256-CBC-SHA", "TLS_SRP_SHA_WITH_AES_256_CBC_SHA",
      .srp, .srp, .aes256, .sha1, .ssl3⟩,
    ⟨"RSA-PSK-AES256-CBC-SHA384", "TLS_RSA_PSK_WITH_AES_256_CBC_SHA384",
      .rsaPsk, .rsa, .aes256, .sha384, .tls10⟩,
    ⟨"DHE-PSK-AES256-CBC-SHA384", "TLS_DHE_PSK_WITH_AES_256_CBC_SHA384",
      .dhePsk, .psk, .aes256, .sha384, .tls10⟩,
    ⟨"RSA-PSK-AES256-CBC-SHA", "TLS_RSA_PSK_WITH_AES_256_CBC_SHA",
      .rsaPsk, .rsa, .aes256, .sha1, .ssl3⟩,
    ⟨"DHE-PSK-AES256-CBC-SHA", "TLS_DHE_PSK_WITH_AES_256_CBC_SHA",
      .dhePsk, .psk, .aes256, .sha1, .ssl3⟩,
    ⟨"ECDHE-PSK-CAMELLIA256-SHA384", "TLS_ECDHE_PSK_WITH_CAMELLIA_256_CBC_SHA384",
      .ecdhePsk, .psk, .camellia256, .sha384, .tls10⟩,
    ⟨"RSA-PSK-CAMELLIA256-SHA384", "TLS_RSA_PSK_WITH_CAMELLIA_256_CBC_SHA384",
      .rsaPsk, .rsa, .camellia256, .sha384, .tls10⟩,
    ⟨"DHE-PSK-CAMELLIA256-SHA384", "TLS_DHE_PSK_WITH_CAMELLIA_256_CBC_SHA384",
      .dhePsk, .psk, .camellia256, .sha384, .tls10⟩,
    ⟨"AES256-SHA", "TLS_RSA_WITH_AES_256_CBC_SHA",
      .rsa, .rsa, .aes256, .sha1, .ssl3⟩,
    ⟨"CAMELLIA256-SHA", "TLS_RSA_WITH_CAMELLIA_256_CBC_SHA",
      .rsa, .rsa, .camellia256, .sha1, .ssl3⟩,
    ⟨"PSK-AES256-CBC-SHA384", "TLS_PSK_WITH_AES_256_CBC_SHA384",
      .psk, .psk, .aes256, .sha384, .tls10⟩,
    ⟨"PSK-AES256-CBC-SHA", "TLS_PSK_WITH_AES_256_CBC_SHA",
      .psk, .psk, .aes256, .sha1, .ssl3⟩,
    ⟨"PSK-CAMELLIA256-SHA384", "TLS_PSK_WITH_CAMELLIA_256_CBC_SHA384",
      .psk, .psk, .camellia256, .sha384, .tls10⟩,
    ⟨"ECDHE-PSK-AES128-CBC-SHA256", "TLS_ECDHE_PSK_WITH_AES_128_CBC_SHA256",
      .ecdhePsk, .psk, .aes128, .sha256, .tls10⟩,
    ⟨"ECDHE-PSK-AES128-CBC-SHA", "TLS_ECDHE_PSK_WITH_AES_128_CBC_SHA",
      .ecdhePsk, .psk, .aes128, .sha1, .tls10⟩,
    ⟨"SRP-DSS-AES-128-CBC-SHA", "TLS_SRP_SHA_DSS_WITH_AES_128_CBC_SHA",
      .srp, .dss, .aes128, .sha1, .ssl3⟩,
    ⟨"SRP-RSA-AES-128-CBC-SHA", "TLS_SRP_SHA_RSA_WITH_AES_128_CBC_SHA",
      .srp, .rsa, .aes128, .sha1, .ssl3⟩,
    ⟨"SRP-AES-128-CBC-SHA", "TLS_SRP_SHA_WITH_AES_128_CBC_SHA",
      .srp, .srp, .aes128, .sha1, .ssl3⟩,
    ⟨"RSA-PSK-AES128-CBC-SHA256", "TLS_RSA_PSK_WITH_AES_128_CBC_SHA256",
      .rsaPsk, .rsa, .aes128, .sha256, .tls10⟩,
    ⟨"DHE-PSK-AES128-CBC-SHA256", "TLS_DHE_PSK_WITH_AES_128_CBC_SHA256",
      .dhePsk, .psk, .aes128, .sha256, .tls10⟩,
    ⟨"RSA-PSK-AES128-CBC-SHA", "TLS_RSA_PSK_WITH_AES_128_CBC_SHA",
      .rsaPsk, .rsa, .aes128, .sha1, .ssl3⟩,
    ⟨"DHE-PSK-AES128-CBC-SHA", "TLS_DHE_PSK_WITH_AES_128_CBC_SHA",
      .dhePsk, .psk, .aes128, .sha1, .ssl3⟩,
    ⟨"ECDHE-PSK-CAMELLIA128-SHA256", "TLS_ECDHE_PSK_WITH_CAMELLIA_128_CBC_SHA256",
      .ecdhePsk, .psk, .camellia128, .sha256, .tls10⟩,
    ⟨"RSA-PSK-CAMELLIA128-SHA256", "TLS_RSA_PSK_WITH_CAMELLIA_128_CBC_SHA256",
      .rsaPsk, .rsa, .camellia128, .sha256, .tls10⟩,
    ⟨"DHE-PSK-CAMELLIA128-SHA256", "TLS_DHE_PSK_WITH_CAMELLIA_128_CBC_SHA256",
      .dhePsk, .psk, .camellia128, .sha256, .tls10⟩,
    ⟨"AES128-SHA", "TLS_RSA_WITH_AES_128_CBC_SHA",
      .rsa, .rsa, .aes128, .sha1, .ssl3⟩,
    ⟨"CAMELLIA128-SHA", "TLS_RSA_WITH_CAMELLIA_128_CBC_SHA",
      .rsa, .rsa, .camellia128, .sha1, .ssl3⟩,
    ⟨"PSK-AES128-CBC-SHA256", "TLS_PSK_WITH_AES_128_CBC_SHA256",
      .psk, .psk, .aes128, .sha256, .tls10⟩,
    ⟨"PSK-AES128-CBC-SHA", "TLS_PSK_WITH_AES_128_CBC_SHA",
      .psk, .psk, .aes128, .sha1, .ssl3⟩,
    ⟨"PSK-CAMELLIA128-SHA256", "TLS_PSK_WITH_CAMELLIA_128_CBC_SHA256",
      .psk, .psk, .camellia128, .sha256, .tls10⟩,
    ⟨"ECDHE-ECDSA-NULL-SHA", "TLS_ECDHE_ECDSA_WITH_NULL_SHA",
      .ecdhe, .ecdsa, .plain, .sha1, .tls10⟩,
    ⟨"ECDHE-RSA-NULL-SHA", "TLS_ECDHE_RSA_WITH_NULL_SHA",
      .ecdhe, .rsa, .plain, .sha1, .tls10⟩,
    ⟨"AECDH-NULL-SHA", "TLS_ECDH_anon_WITH_NULL_SHA",
      .ecdhe, .anonymous, .plain, .sha1, .tls10⟩,
    ⟨"NULL-SHA256", "TLS_RSA_WITH_NULL_SHA256",
      .rsa, .rsa, .plain, .sha256, .tls12⟩,
    ⟨"ECDHE-PSK-NULL-SHA384", "TLS_ECDHE_PSK_WITH_NULL_SHA384",
      .ecdhePsk, .psk, .plain, .sha384, .tls10⟩,
    ⟨"ECDHE-PSK-NULL-SHA256", "TLS_ECDHE_PSK_WITH_NULL_SHA256",
      .ecdhePsk, .psk, .plain, .sha256, .tls10⟩,
    ⟨"ECDHE-PSK-NULL-SHA", "TLS_ECDHE_PSK_WITH_NULL_SHA",
      .ecdhePsk, .psk, .plain, .sha1, .tls10⟩,
    ⟨"RSA-PSK-NULL-SHA384", "TLS_RSA_PSK_WITH_NULL_SHA384",
      .rsaPsk, .rsa, .plain, .sha384, .tls10⟩,
    ⟨"RSA-PSK-NULL-SHA256", "TLS_RSA_PSK_WITH_NULL_SHA256",
      .rsaPsk, .rsa, .plain, .sha256, .tls10⟩,
    ⟨"DHE-PSK-NULL-SHA384", "TLS_DHE_PSK_WITH_NULL_SHA384",
      .dhePsk, .psk, .plain, .sha384, .tls10⟩,
    ⟨"DHE-PSK-NULL-SHA256", "TLS_DHE_PSK_WITH_NULL_SHA256",
      .dhePsk, .psk, .plain, .sha256, .tls10⟩,
    ⟨"RSA-PSK-NULL-SHA", "TLS_RSA_PSK_WITH_NULL_SHA",
      .rsaPsk, .rsa, .plain, .sha1, .ssl3⟩,
    ⟨"DHE-PSK-NULL-SHA", "TLS_DHE_PSK_WITH_NULL_SHA",
      .dhePsk, .psk, .plain, .sha1, .ssl3⟩,
    ⟨"NULL-SHA", "TLS_RSA_WITH_NULL_SHA",
      .rsa, .rsa, .plain, .sha1, .ssl3⟩,
    ⟨"NULL-MD5", "TLS_RSA_WITH_NULL_MD5",
      .rsa, .rsa, .plain, .md5, .ssl3⟩,
    ⟨"PSK-NULL-SHA384", "TLS_PSK_WITH_NULL_SHA384",
      .psk, .psk, .plain, .sha384, .tls10⟩,
    ⟨"PSK-NULL-SHA256", "TLS_PSK_WITH_NULL_SHA256",
      .psk, .psk, .plain, .sha256, .tls10⟩,
    ⟨"PSK-NULL-SHA", "TLS_PSK_WITH_NULL_SHA",
      .psk, .psk, .plain, .sha1, .ssl3⟩]

/-- The cipher of a name, either of the two. -/
def find? (name : String) : Option Cipher :=
  registry.find? fun c => c.name == name || c.standardName == name

end Cipher

end Http2.Tls
