import KtBridge.Abi
import Mathlib.Data.List.Basic

/-! # The options of a connection

`clientConfig` decides once whether a connection uses TLS and writes the decision into the message;
`connectionOptions` reads it from the message again. Parsing URLs, and what identifies the process,
are outside.
-/

namespace KtBridge.Client

inductive GrpcCompression where
  | gzip
  | none
  deriving DecidableEq

/-- The Kotlin options; the timeout was checked. -/
structure ClientOptions where
  clientName : String
  clientVersion : String
  identity : Option String
  grpcCompression : GrpcCompression
  connectTimeoutMillis : Int64
  nonnegative : 0 ≤ connectTimeoutMillis

/-- The Kotlin TLS settings: a client certificate comes with its key. -/
structure TlsConfig where
  serverRootCaCert : Option ByteArray
  domain : Option String
  clientCert : Option ByteArray
  clientPrivateKey : Option ByteArray
  paired : clientCert.isNone = clientPrivateKey.isNone

/-- The message between the two sides. -/
structure ProtoClientOptions where
  targetUrl : String
  nameSpace : String
  identity : String
  clientName : String
  clientVersion : String
  apiKey : String
  connectTimeoutMillis : UInt64
  noCompression : Bool
  tls : Bool
  serverRootCaCert : ByteArray
  tlsDomain : String
  clientCert : ByteArray
  clientPrivateKey : ByteArray

/-! ## Kotlin -/

/-- Whether a character is a lower-case letter or sign of ASCII, ignoring case. The long s has the
upper case of s. -/
def folds (expected actual : Char) : Bool :=
  actual.toLower = expected ∨ expected = 's' ∧ actual = 'ſ'

/-- `startsWith(prefix, ignoreCase = true)`, for a prefix in lower case. -/
def startsWithIgnoringCase : List Char → List Char → Bool
  | _, [] => true
  | [], _ :: _ => false
  | actual :: text, expected :: start => folds expected actual && startsWithIgnoringCase text start

/-- What comes after the first place of a delimiter. -/
def afterFirst (delimiter : List Char) : List Char → Option (List Char)
  | [] => if delimiter = [] then some [] else none
  | first :: rest =>
      if delimiter.isPrefixOf (first :: rest) then some ((first :: rest).drop delimiter.length)
      else afterFirst delimiter rest

def substringAfter (text delimiter : List Char) : List Char :=
  (afterFirst delimiter text).getD text

/-- The target without its scheme. -/
def address (targetUrl : String) : List Char :=
  if startsWithIgnoringCase targetUrl.toList "https://".toList ||
      startsWithIgnoringCase targetUrl.toList "http://".toList then
    substringAfter targetUrl.toList "://".toList
  else targetUrl.toList

def useTls (targetUrl : String) (tls : Option TlsConfig) (apiKey : Option String)
    (tlsDisabled : Bool) : Bool :=
  !tlsDisabled &&
    (startsWithIgnoringCase targetUrl.toList "https://".toList || tls.isSome || apiKey.isSome)

def clientConfig (targetUrl nameSpace : String) (options : ClientOptions) (tls : Option TlsConfig)
    (apiKey : Option String) (tlsDisabled : Bool) : ProtoClientOptions :=
  let useTls := useTls targetUrl tls apiKey tlsDisabled
  let material := if useTls then tls else none
  { targetUrl := String.ofList
      ((if useTls then "https".toList else "http".toList) ++ "://".toList ++ address targetUrl)
    nameSpace := nameSpace
    identity := options.identity.getD ""
    clientName := options.clientName
    clientVersion := options.clientVersion
    apiKey := apiKey.getD ""
    connectTimeoutMillis := options.connectTimeoutMillis.toUInt64
    noCompression := options.grpcCompression = .none
    tls := useTls
    serverRootCaCert := (material.bind TlsConfig.serverRootCaCert).getD .empty
    tlsDomain := (material.bind TlsConfig.domain).getD ""
    clientCert := (material.bind TlsConfig.clientCert).getD .empty
    clientPrivateKey := (material.bind TlsConfig.clientPrivateKey).getD .empty }

/-! ## Rust -/

structure ClientTlsOptions where
  clientCert : ByteArray
  clientPrivateKey : ByteArray

structure TlsOptions where
  serverRootCaCert : Option ByteArray
  domain : Option String
  clientTlsOptions : Option ClientTlsOptions

/-- Core's connection options; the timeout is in milliseconds. -/
structure ConnectionOptions (Url : Type) where
  target : Url
  tlsOptions : Option TlsOptions
  clientName : String
  clientVersion : String
  identity : String
  grpcCompression : GrpcCompression
  apiKey : Option String
  connectTimeout : Option Nat

/-- What the bridge is told by its surroundings. -/
structure Surroundings (Url : Type) where
  parse : String → Except String Url
  packageVersion : String
  processId : Nat
  hostname : String

def nonEmpty (value : String) : Option String := if value = "" then none else some value

def nonEmptyBytes (value : ByteArray) : Option ByteArray := if value.size = 0 then none else some value

/-- `<pid>@<hostname>`, unless one is configured. -/
def defaultIdentity {Url : Type} (surroundings : Surroundings Url) (configured : String) : String :=
  if configured ≠ "" then configured
  else
    let host := if surroundings.hostname = "" then "unknown-host" else surroundings.hostname
    toString surroundings.processId ++ "@" ++ host

def wantsTls (config : ProtoClientOptions) : Bool :=
  config.tls || config.serverRootCaCert.size ≠ 0 || config.clientCert.size ≠ 0 ||
    config.clientPrivateKey.size ≠ 0 || config.tlsDomain ≠ ""

/-- Any TLS field, or the bare flag, turns TLS on. -/
def tlsOptions (config : ProtoClientOptions) : Option TlsOptions :=
  if wantsTls config then
    some
      { serverRootCaCert := nonEmptyBytes config.serverRootCaCert
        domain := nonEmpty config.tlsDomain
        clientTlsOptions :=
          if config.clientCert.size ≠ 0 ∨ config.clientPrivateKey.size ≠ 0 then
            some
              { clientCert := config.clientCert
                clientPrivateKey := config.clientPrivateKey }
          else none }
  else none

def connectionOptions {Url : Type} (surroundings : Surroundings Url)
    (config : ProtoClientOptions) : Except KtError (ConnectionOptions Url) :=
  if config.targetUrl = "" then .error (.invalidArgument "target_url is empty")
  else
    match surroundings.parse config.targetUrl with
    | .error error => .error (.invalidArgument ("target_url is not a URL: " ++ error))
    | .ok target => .ok
        { target := target
          tlsOptions := tlsOptions config
          clientName := if config.clientName = "" then "temporal-kotlin" else config.clientName
          clientVersion :=
            if config.clientVersion = "" then surroundings.packageVersion else config.clientVersion
          identity := defaultIdentity surroundings config.identity
          grpcCompression := if config.noCompression then .none else .gzip
          apiKey := nonEmpty config.apiKey
          connectTimeout :=
            if config.connectTimeoutMillis > 0 then some config.connectTimeoutMillis.toNat
            else none }

/-! ## The two sides agree -/

/-- What comes before the first colon of a URL. -/
def scheme (url : String) : String := String.ofList (url.toList.takeWhile (· ≠ ':'))

section Spelling

variable (secure : Bool) (rest : List Char)

/-- A URL as the bridge writes it. -/
def written : List Char :=
  (if secure then "https".toList else "http".toList) ++ "://".toList ++ rest

theorem scheme_written :
    scheme (String.ofList (written secure rest)) = "https" ↔ secure = true := by
  cases secure <;> simp [scheme, written]

theorem starts_written :
    startsWithIgnoringCase (written secure rest) "https://".toList = secure := by
  cases secure <;> simp [written, startsWithIgnoringCase, folds]

/-- A written URL names its scheme, so its address is what was written after it. -/
theorem address_written : address (String.ofList (written secure rest)) = rest := by
  cases secure <;>
    simp [address, written, startsWithIgnoringCase, folds, substringAfter, afterFirst]

theorem written_ne_empty : String.ofList (written secure rest) ≠ "" := by
  intro empty
  have letters := congrArg String.toList empty
  cases secure <;> simp [written] at letters

/-- Every spelling of a prefix in lower case is recognised. -/
theorem starts_spelled (spelling start : List Char)
    (spelled : spelling.map Char.toLower = start) :
    startsWithIgnoringCase (spelling ++ rest) start = true := by
  subst spelled
  induction spelling with
  | nil => cases rest <;> rfl
  | cons first spelling spelled => simpa [startsWithIgnoringCase, folds] using spelled

end Spelling

section Agreement

variable {Url : Type} (surroundings : Surroundings Url) (targetUrl nameSpace : String)
  (options : ClientOptions) (tls : Option TlsConfig) (apiKey : Option String) (tlsDisabled : Bool)

theorem clientConfig_targetUrl :
    (clientConfig targetUrl nameSpace options tls apiKey tlsDisabled).targetUrl =
      String.ofList (written (useTls targetUrl tls apiKey tlsDisabled) (address targetUrl)) := rfl

theorem clientConfig_tls :
    (clientConfig targetUrl nameSpace options tls apiKey tlsDisabled).tls =
      useTls targetUrl tls apiKey tlsDisabled := rfl

/-- The URL written for a target decides as the target did. -/
theorem useTls_written :
    useTls (String.ofList (written (useTls targetUrl tls apiKey tlsDisabled) (address targetUrl)))
      tls apiKey tlsDisabled = useTls targetUrl tls apiKey tlsDisabled := by
  have again := starts_written (useTls targetUrl tls apiKey tlsDisabled) (address targetUrl)
  rw [useTls, String.toList_ofList, again, useTls]
  cases tlsDisabled <;> cases startsWithIgnoringCase targetUrl.toList "https://".toList <;>
    cases tls.isSome <;> cases apiKey.isSome <;> rfl

/-- Whether a target names https, in any letter case. -/
def SpelledHttps : Prop :=
  ∃ spelling rest, targetUrl.toList = spelling ++ "://".toList ++ rest ∧
    spelling.map Char.toLower = "https".toList

theorem SpelledHttps.starts {targetUrl : String} (spelled : SpelledHttps targetUrl) :
    startsWithIgnoringCase targetUrl.toList "https://".toList = true := by
  obtain ⟨spelling, rest, target, letters⟩ := spelled
  rw [target]
  refine starts_spelled rest (spelling ++ "://".toList) "https://".toList ?_
  rw [List.map_append, letters]
  decide

/-- No certificate, key or domain is in a message. -/
structure Bare (config : ProtoClientOptions) : Prop where
  serverRootCaCert : config.serverRootCaCert = .empty
  tlsDomain : config.tlsDomain = ""
  clientCert : config.clientCert = .empty
  clientPrivateKey : config.clientPrivateKey = .empty

/-- What the settings say, unless it is empty, is what Core is told. -/
structure Carries (tls : Option TlsConfig) (core : TlsOptions) : Prop where
  serverRootCaCert :
    core.serverRootCaCert = (tls.bind TlsConfig.serverRootCaCert).filter (·.size ≠ 0)
  domain : core.domain = (tls.bind TlsConfig.domain).filter (· ≠ "")
  client : ∀ client, core.clientTlsOptions = some client →
    client.clientCert = (tls.bind TlsConfig.clientCert).getD .empty ∧
      client.clientPrivateKey = (tls.bind TlsConfig.clientPrivateKey).getD .empty
  clientSome : core.clientTlsOptions.isSome = true ↔
    ∃ settings, tls = some settings ∧ ∃ material,
      (settings.clientCert = some material ∨ settings.clientPrivateKey = some material) ∧
        material.size ≠ 0

/-- A message, and the options Core gets from it, say the same about TLS. -/
structure Decided (config : ProtoClientOptions) : Prop where
  scheme : scheme config.targetUrl = "https" ↔ config.tls = true
  accepted : ∀ url, surroundings.parse config.targetUrl = .ok url →
    ∃ connection, connectionOptions surroundings config = .ok connection ∧ connection.target = url
  core : ∀ connection, connectionOptions surroundings config = .ok connection →
    (config.tls = true ↔ connection.tlsOptions.isSome = true)
  bare : config.tls = false → Bare config
  carried : ∀ connection core, connectionOptions surroundings config = .ok connection →
    connection.tlsOptions = some core → Carries tls core
  disabled : tlsDisabled = true → config.tls = false
  forced : tlsDisabled = false →
    SpelledHttps targetUrl ∨ tls.isSome = true ∨ apiKey.isSome = true → config.tls = true
  again : clientConfig config.targetUrl nameSpace options tls apiKey tlsDisabled = config

/-- Without TLS nothing is written that Rust could take for TLS. -/
theorem bare_of_plain (plain : useTls targetUrl tls apiKey tlsDisabled = false) :
    Bare (clientConfig targetUrl nameSpace options tls apiKey tlsDisabled) := by
  constructor <;> simp [clientConfig, plain]

/-- Rust decides as Kotlin did. -/
theorem wantsTls_clientConfig :
    wantsTls (clientConfig targetUrl nameSpace options tls apiKey tlsDisabled) =
      useTls targetUrl tls apiKey tlsDisabled := by
  cases decision : useTls targetUrl tls apiKey tlsDisabled with
  | true => simp [wantsTls, clientConfig, decision]
  | false =>
      have bare := bare_of_plain targetUrl nameSpace options tls apiKey tlsDisabled decision
      simp [wantsTls, clientConfig_tls, decision, bare.serverRootCaCert, bare.tlsDomain,
        bare.clientCert, bare.clientPrivateKey]

variable {surroundings} in
theorem tlsOptions_of_accepted {config : ProtoClientOptions} {connection : ConnectionOptions Url}
    (accepted : connectionOptions surroundings config = .ok connection) :
    connection.tlsOptions = tlsOptions config := by
  unfold connectionOptions at accepted
  split at accepted
  · cases accepted
  · split at accepted
    · cases accepted
    · cases accepted
      rfl

variable {surroundings} in
/-- A target that parses is accepted. -/
theorem accepted_of_parsed {config : ProtoClientOptions} {url : Url} (some_ : config.targetUrl ≠ "")
    (parsed : surroundings.parse config.targetUrl = .ok url) :
    ∃ connection, connectionOptions surroundings config = .ok connection ∧
      connection.target = url := by
  rw [connectionOptions, if_neg some_, parsed]
  exact ⟨_, rfl, rfl⟩

theorem tlsOptions_isSome (config : ProtoClientOptions) :
    (tlsOptions config).isSome = wantsTls config := by
  unfold tlsOptions
  split <;> simp_all

theorem nonEmptyBytes_getD (value : Option ByteArray) :
    nonEmptyBytes (value.getD .empty) = value.filter (·.size ≠ 0) := by
  cases value with
  | none => simp [nonEmptyBytes]
  | some bytes => by_cases size : bytes.size = 0 <;> simp [nonEmptyBytes, Option.filter, size]

theorem nonEmpty_getD (value : Option String) :
    nonEmpty (value.getD "") = value.filter (· ≠ "") := by
  cases value with
  | none => simp [nonEmpty]
  | some text => by_cases empty : text = "" <;> simp [nonEmpty, Option.filter, empty]

theorem getD_size_ne_zero (value : Option ByteArray) :
    (value.getD .empty).size ≠ 0 ↔ ∃ material, value = some material ∧ material.size ≠ 0 := by
  cases value <;> simp

/-- With TLS the settings pass through the message into Core's options. -/
theorem carries_of_secure {core : TlsOptions}
    (secure : useTls targetUrl tls apiKey tlsDisabled = true)
    (told : tlsOptions (clientConfig targetUrl nameSpace options tls apiKey tlsDisabled) =
      some core) : Carries tls core := by
  have wanted := wantsTls_clientConfig targetUrl nameSpace options tls apiKey tlsDisabled
  rw [secure] at wanted
  unfold tlsOptions at told
  rw [if_pos wanted] at told
  simp only [clientConfig, secure, if_true, Option.some.injEq] at told
  subst told
  constructor
  · exact nonEmptyBytes_getD _
  · exact nonEmpty_getD _
  · intro client given
    split at given
    · cases given
      exact ⟨rfl, rfl⟩
    · cases given
  · cases tls with
    | none => simp
    | some settings =>
        rw [Option.isSome_ite, Option.bind_some, Option.bind_some, getD_size_ne_zero,
          getD_size_ne_zero]
        constructor
        · rintro (⟨material, given, size⟩ | ⟨material, given, size⟩)
          · exact ⟨settings, rfl, material, .inl given, size⟩
          · exact ⟨settings, rfl, material, .inr given, size⟩
        · rintro ⟨_, ⟨⟩, material, given | given, size⟩
          · exact .inl ⟨material, given, size⟩
          · exact .inr ⟨material, given, size⟩

/-- The scheme, the flag and Core's options agree for every target and every setting. -/
theorem tls_is_decided_once :
    Decided surroundings targetUrl nameSpace options tls apiKey tlsDisabled
      (clientConfig targetUrl nameSpace options tls apiKey tlsDisabled) := by
  constructor
  · exact scheme_written _ _
  · exact fun url parsed => accepted_of_parsed (written_ne_empty _ _) parsed
  · intro connection accepted
    rw [tlsOptions_of_accepted accepted, tlsOptions_isSome, wantsTls_clientConfig,
      clientConfig_tls]
  · exact bare_of_plain targetUrl nameSpace options tls apiKey tlsDisabled
  · intro connection core accepted told
    rw [tlsOptions_of_accepted accepted] at told
    have secure := tlsOptions_isSome (clientConfig targetUrl nameSpace options tls apiKey tlsDisabled)
    rw [told, wantsTls_clientConfig] at secure
    exact carries_of_secure targetUrl nameSpace options tls apiKey tlsDisabled secure.symm told
  · intro disabled
    simp [clientConfig_tls, useTls, disabled]
  · intro enabled reason
    rw [clientConfig_tls, useTls, enabled]
    obtain spelled | settings | key := reason
    · rw [spelled.starts]
      rfl
    · simp [settings]
    · simp [key]
  · rw [clientConfig_targetUrl]
    conv_lhs => unfold clientConfig
    simp only [useTls_written, address_written]
    rfl

end Agreement

/-- Options that leave the identity to the bridge. -/
def unidentified : ClientOptions where
  clientName := "temporal-kotlin"
  clientVersion := "1.0"
  identity := none
  grpcCompression := .gzip
  connectTimeoutMillis := 10000
  nonnegative := by decide

/-- A client certificate with its key, and no root of its own. -/
def mutualTls : TlsConfig where
  serverRootCaCert := none
  domain := some "cloud"
  clientCert := some ⟨#[1, 2]⟩
  clientPrivateKey := some ⟨#[3]⟩
  paired := rfl

/-- Surroundings in which one target parses. -/
def oneTarget : Surroundings String where
  parse := fun text =>
    if text = "https://cloud:7233" then .ok text else .error "relative URL without a base"
  packageVersion := "0.1.0"
  processId := 7
  hostname := "host"

/-- A target without a scheme is written with one, accepted, and told to Core with the
certificate. -/
theorem tls_is_decided_once_mutual :
    ∃ connection core, connectionOptions oneTarget
        (clientConfig "cloud:7233" "default" unidentified (some mutualTls) none false) =
          .ok connection ∧ connection.target = "https://cloud:7233" ∧
      connection.tlsOptions = some core ∧ core.domain = some "cloud" ∧
      core.clientTlsOptions.isSome = true := by
  have decided := tls_is_decided_once oneTarget "cloud:7233" "default" unidentified
    (some mutualTls) none false
  obtain ⟨connection, accepted, target⟩ := decided.accepted "https://cloud:7233" (by decide +kernel)
  have told := (decided.core connection accepted).mp (decided.forced rfl (.inr (.inl rfl)))
  obtain ⟨core, told⟩ := Option.isSome_iff_exists.mp told
  have carries := decided.carried connection core accepted told
  refine ⟨connection, core, accepted, target, told, carries.domain.trans (by decide +kernel), ?_⟩
  exact carries.clientSome.mpr ⟨mutualTls, rfl, ⟨#[1, 2]⟩, .inl rfl, by decide⟩

end KtBridge.Client
