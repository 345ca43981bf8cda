import Mathlib.Data.Int.Notation
import Mathlib.Data.Nat.Notation
import Mathlib.Logic.Equiv.List
import Mathlib.Tactic.DeriveEncodable
import RenderTrust.Lib.ByteString
import RenderTrust.Lib.Runs
import RenderTrust.Lib.Signing

/-!
# The certificate authority of `core/relay/tls.py` and its endpoints

`core/api/v1/certs.py` issues and renews the certificates of nodes, `edgekit/relay/tls.py` loads
them at a node. The X.509 library is a parameter, and keys and serial numbers are drawn by the
caller. `none` is an exception of the library; the endpoints treat all of these alike.
-/
namespace RenderTrust.Relay.Tls
open Lib.ByteString Lib.Runs Lib.Signing

def caDefaultDays : ℤ := 3650

def nodeDefaultDays : ℤ := 90

def caCommonName : String := "RenderTrust Internal CA"

def nodeCnFormat (nodeId : String) : String := "node-" ++ nodeId ++ ".rendertrust.local"

inductive NameOID where
  | commonName
  | organizationName
  | organizationalUnitName
  | other (dotted : String)
  deriving DecidableEq, Repr

abbrev X509Name := List (NameOID × String)

inductive KeyUsage where
  | digitalSignature
  | contentCommitment
  | keyEncipherment
  | dataEncipherment
  | keyAgreement
  | keyCertSign
  | crlSign
  | encipherOnly
  | decipherOnly
  deriving DecidableEq, Repr

/-- What a certificate signs. Its times are whole seconds. -/
structure Tbs (P : Type) where
  subject : X509Name
  issuer : X509Name
  publicKey : P
  serialNumber : ℕ
  notValidBefore : ℤ
  notValidAfter : ℤ
  isCa : Bool
  pathLength : Option ℕ
  keyUsage : List KeyUsage
  extendedKeyUsage : List String
  subjectAlternativeName : List String
  subjectKeyIdentifier : Option P
  deriving DecidableEq, Repr

structure Certificate (P S : Type) where
  tbs : Tbs P
  signature : S
  deriving DecidableEq, Repr

/-- The library: signatures, PEM texts, the texts a name may hold, and `load_cert_chain`. -/
structure X509 (K P S : Type) where
  scheme : Scheme K P (Tbs P) S
  certificatePem : Certificate P S → String
  loadPemX509Certificate : ByteArray → Option (Certificate P S)
  privateKeyPem : K → String
  loadPemPrivateKey : ByteArray → Option K
  commonNameOk : String → Bool
  dnsNameOk : String → Bool
  loadCertChain : ByteArray → ByteArray → Option Unit

/-- What is random in a certificate. -/
structure Draw (K : Type) where
  key : K
  serial : ℕ
  deriving DecidableEq, Repr

section Authority
variable {K P S : Type} (lib : X509 K P S)

def X509.signed (key : K) (tbs : Tbs P) : Certificate P S := ⟨tbs, lib.scheme.sign key tbs⟩

/-- The seconds that a builder keeps of an instant in microseconds. -/
def seconds (now : ℤ) : ℤ := now / 1000000

def caTbs (now : ℤ) (publicKey : P) (serial : ℕ) (commonName : String) (days : ℤ) : Tbs P where
  subject := [(.commonName, commonName), (.organizationName, "RenderTrust"),
    (.organizationalUnitName, "Infrastructure")]
  issuer := [(.commonName, commonName), (.organizationName, "RenderTrust"),
    (.organizationalUnitName, "Infrastructure")]
  publicKey := publicKey
  serialNumber := serial
  notValidBefore := seconds now
  notValidAfter := seconds (now + days * 86400000000)
  isCa := true
  pathLength := some 0
  keyUsage := [.digitalSignature, .keyCertSign, .crlSign]
  extendedKeyUsage := []
  subjectAlternativeName := []
  subjectKeyIdentifier := some publicKey

def generateCa (now : ℤ) (draw : Draw K) (commonName : String) (days : ℤ) :
    Option (ByteArray × ByteArray) :=
  if lib.commonNameOk commonName ∧ 0 ≤ days then
    let tbs := caTbs now (lib.scheme.publicKey draw.key) draw.serial commonName days
    some ((lib.certificatePem (lib.signed draw.key tbs)).toUTF8,
      (lib.privateKeyPem draw.key).toUTF8)
  else none

def nodeTbs (now : ℤ) (issuer : X509Name) (publicKey : P) (serial : ℕ) (cn : String) (days : ℤ) :
    Tbs P where
  subject := [(.commonName, cn), (.organizationName, "RenderTrust"),
    (.organizationalUnitName, "Edge Nodes")]
  issuer := issuer
  publicKey := publicKey
  serialNumber := serial
  notValidBefore := seconds now
  notValidAfter := seconds (now + days * 86400000000)
  isCa := false
  pathLength := none
  keyUsage := [.digitalSignature, .keyEncipherment]
  extendedKeyUsage := ["1.3.6.1.5.5.7.3.2"]
  subjectAlternativeName := [cn]
  subjectKeyIdentifier := none

def nameOk (cn : String) : Bool := lib.commonNameOk cn && lib.dnsNameOk cn

def issueNodeCert (now : ℤ) (draw : Draw K) (caCertPem caKeyPem : ByteArray) (nodeId : String)
    (days : ℤ) : Option (ByteArray × ByteArray) := do
  let caCert ← lib.loadPemX509Certificate caCertPem
  let caKey ← lib.loadPemPrivateKey caKeyPem
  let cn := nodeCnFormat nodeId
  if nameOk lib cn ∧ 0 ≤ days then
    let tbs := nodeTbs now caCert.tbs.subject (lib.scheme.publicKey draw.key) draw.serial cn days
    some ((lib.certificatePem (lib.signed caKey tbs)).toUTF8, (lib.privateKeyPem draw.key).toUTF8)
  else none

/-- The certificate of a node under the default validity. -/
def nodeCertificate (now : ℤ) (draw : Draw K) (key : K) (caCert : Certificate P S)
    (nodeId : String) : Certificate P S :=
  lib.signed key (nodeTbs now caCert.tbs.subject (lib.scheme.publicKey draw.key) draw.serial
    (nodeCnFormat nodeId) nodeDefaultDays)

structure Environment where
  environ : String → Option String
  files : String → Option ByteArray

/-- A variable that is set to a text that is not empty. -/
def Environment.get (environment : Environment) (name : String) : Option String :=
  (environment.environ name).filter (· ≠ "")

def loadCaFromEnv (environment : Environment) : Option (ByteArray × ByteArray) :=
  match environment.get "RENDERTRUST_CA_CERT", environment.get "RENDERTRUST_CA_KEY" with
  | some caCert, some caKey => some (caCert.toUTF8, caKey.toUTF8)
  | _, _ =>
      match environment.get "RENDERTRUST_CA_CERT_PATH",
        environment.get "RENDERTRUST_CA_KEY_PATH" with
      | some certPath, some keyPath =>
          match environment.files certPath, environment.files keyPath with
          | some caCert, some caKey => some (caCert, caKey)
          | _, _ => none
      | _, _ => none

def getCertCn (certPem : ByteArray) : Option (Option String) :=
  (lib.loadPemX509Certificate certPem).map fun cert =>
    (cert.tbs.subject.find? fun entry => entry.1 = .commonName).map Prod.snd

def getCertExpiry (certPem : ByteArray) : Option ℤ :=
  (lib.loadPemX509Certificate certPem).map fun cert => cert.tbs.notValidAfter

def verifyCertChain (certPem caCertPem : ByteArray) : Bool :=
  match lib.loadPemX509Certificate certPem, lib.loadPemX509Certificate caCertPem with
  | some cert, some caCert => lib.scheme.verify caCert.tbs.publicKey cert.signature cert.tbs
  | _, _ => false

end Authority

/-! ## The endpoints -/

structure CertIssueResponse where
  nodeId : String
  certificate : String
  caCertificate : String
  deriving DecidableEq, Repr

structure CertRenewResponse where
  nodeId : String
  certificate : String
  renewed : Bool := true
  deriving DecidableEq, Repr

inductive Request where
  | issue (nodeId : String) (csrPem : Option String)
  | ca
  | renew (nodeId currentCertPem : String) (csrPem : Option String)
  deriving DecidableEq, Repr

inductive Answer where
  | issued (response : CertIssueResponse)
  | ca (caCertificate : String)
  | renewed (response : CertRenewResponse)
  | httpException (status : ℕ) (detail : String)
  | unicodeDecodeError
  deriving DecidableEq, Repr

def Answer.status : Answer → ℕ
  | .issued _ => 201
  | .ca _ | .renewed _ => 200
  | .httpException status _ => status
  | .unicodeDecodeError => 500

/-- The certificate for the node that asked. -/
def Answer.certificate : Answer → Option String
  | .issued response => some response.certificate
  | .renewed response => some response.certificate
  | .ca _ | .httpException _ _ | .unicodeDecodeError => none

/-- All certificates of an answer. -/
def Answer.texts : Answer → List String
  | .issued response => [response.certificate, response.caCertificate]
  | .ca caCertificate => [caCertificate]
  | .renewed response => [response.certificate]
  | .httpException _ _ | .unicodeDecodeError => []

def caNotConfigured : Answer := .httpException 503 "Certificate Authority is not configured"

section Endpoints
variable {K P S : Type} (lib : X509 K P S)

def issueCertificate (environment : Environment) (now : ℤ) (draw : Draw K) (nodeId : String) :
    Answer :=
  match loadCaFromEnv environment with
  | none => caNotConfigured
  | some (caCertPem, caKeyPem) =>
      match issueNodeCert lib now draw caCertPem caKeyPem nodeId nodeDefaultDays with
      | none => .httpException 500 "Certificate issuance failed"
      | some (nodeCertPem, _) =>
          match String.fromUTF8? nodeCertPem, String.fromUTF8? caCertPem with
          | some certificate, some caCertificate => .issued ⟨nodeId, certificate, caCertificate⟩
          | _, _ => .unicodeDecodeError

def getCaCertificate (environment : Environment) : Answer :=
  match loadCaFromEnv environment with
  | none => caNotConfigured
  | some (caCertPem, _) =>
      match String.fromUTF8? caCertPem with
      | some caCertificate => .ca caCertificate
      | none => .unicodeDecodeError

def renewCertificate (environment : Environment) (now : ℤ) (draw : Draw K)
    (nodeId currentCertPem : String) : Answer :=
  match loadCaFromEnv environment with
  | none => caNotConfigured
  | some (caCertPem, caKeyPem) =>
      if verifyCertChain lib currentCertPem.toUTF8 caCertPem then
        match issueNodeCert lib now draw caCertPem caKeyPem nodeId nodeDefaultDays with
        | none => .httpException 500 "Certificate renewal failed"
        | some (newCertPem, _) =>
            match String.fromUTF8? newCertPem with
            | some certificate => .renewed { nodeId, certificate }
            | none => .unicodeDecodeError
      else .httpException 400 "Current certificate was not issued by this CA"

/-- The CSR of a request is not read, and the key that was drawn is not answered. -/
def serve (environment : Environment) (now : ℤ) (draw : Draw K) : Request → Answer
  | .issue nodeId _ => issueCertificate lib environment now draw nodeId
  | .ca => getCaCertificate environment
  | .renew nodeId currentCertPem _ =>
      renewCertificate lib environment now draw nodeId currentCertPem

/-- `load_client_ssl_context` at a node. -/
def loadClientSslContext (files : String → Option ByteArray)
    (certPath keyPath caCertPath : String) : Except String Unit :=
  match files certPath, files keyPath, files caCertPath with
  | none, _, _ => .error ("client certificate not found: " ++ certPath)
  | some _, none, _ => .error ("client key not found: " ++ keyPath)
  | some _, some _, none => .error ("CA certificate not found: " ++ caCertPath)
  | some cert, some key, some caCert =>
      match lib.loadCertChain cert key with
      | none => .error "SSLError"
      | some () =>
          match lib.loadPemX509Certificate caCert with
          | none => .error "SSLError"
          | some _ => .ok ()

end Endpoints

/-! ## Runs of the authority -/

structure Exchange (K : Type) where
  request : Request
  authority : Option K
  now : ℤ
  answer : Answer

/-- The authority between two requests: the environment, the key of the CA in it, the keys that
nodes have generated, those of the CAs and of the certificates, and the exchanges, newest first. -/
structure Office (K : Type) where
  environment : Environment
  authority : Option K
  now : ℤ
  nodeKeys : List K
  serverKeys : List K
  log : List (Exchange K)

inductive Event (K : Type) where
  | tick (later : ℤ)
  | configure (environment : Environment) (authority : Option K)
  | generateCsr (nodeId : String) (key : K)
  | request (request : Request) (draw : Draw K)

section Office
variable {K P S : Type} (lib : X509 K P S)

def step (s : Office K) : Event K → Option (Office K)
  | .tick later => some { s with now := later }
  | .configure environment authority =>
      some { s with environment, authority, serverKeys := authority.toList ++ s.serverKeys }
  | .generateCsr _ key => some { s with nodeKeys := key :: s.nodeKeys }
  | .request request draw =>
      let answer := serve lib s.environment s.now draw request
      some { s with
        serverKeys := draw.key :: s.serverKeys
        log := ⟨request, s.authority, s.now, answer⟩ :: s.log }

/-- An environment without a CA, or with one that `generate_ca` made. -/
def Operated (environment : Environment) : Option K → Prop
  | none => loadCaFromEnv environment = none
  | some key => ∃ now serial commonName days material,
      generateCa lib now ⟨key, serial⟩ commonName days = some material ∧
        loadCaFromEnv environment = some material

/-- The certificates of the answers. -/
def Shown (log : List (Exchange K)) (c : Certificate P S) : Prop :=
  ∃ y ∈ log, ∃ text ∈ y.answer.texts, lib.loadPemX509Certificate text.toUTF8 = some c

/-- A certificate that is presented has a signature that the nodes can form. -/
def Presentable (s : Office K) : Request → Prop
  | .renew _ currentCertPem _ =>
      ∀ c, lib.loadPemX509Certificate currentCertPem.toUTF8 = some c →
        lib.scheme.Formed (· ∈ s.nodeKeys) (fun tbs signature => Shown lib s.log ⟨tbs, signature⟩)
          c.signature
  | .issue _ _ | .ca => True

/-- Clocks do not go back, and a key that is generated is not one of the other side. -/
def Admissible (s : Office K) : Event K → Prop
  | .tick later => s.now ≤ later
  | .configure environment authority =>
      Operated lib environment authority ∧ ∀ key ∈ authority, key ∉ s.nodeKeys
  | .generateCsr _ key => key ∉ s.serverKeys
  | .request request draw => draw.key ∉ s.nodeKeys ∧ Presentable lib s request

/-- What is relied on in the library. -/
structure Lawful : Prop where
  ideal : lib.scheme.Ideal
  certificate : ∀ c, lib.loadPemX509Certificate (lib.certificatePem c).toUTF8 = some c
  privateKey : ∀ key, lib.loadPemPrivateKey (lib.privateKeyPem key).toUTF8 = some key
  chain : ∀ cert key, lib.loadCertChain cert key = some () →
    ∃ c k, lib.loadPemX509Certificate cert = some c ∧ lib.loadPemPrivateKey key = some k ∧
      lib.scheme.publicKey k = c.tbs.publicKey

/-- A certificate that an earlier answer of the same authority has shown. -/
def OfAuthority (older : List (Exchange K)) (authority : Option K) (certPem : String) : Prop :=
  ∃ y ∈ older, y.authority = authority ∧ ∃ text ∈ y.answer.texts, ∃ c,
    lib.loadPemX509Certificate text.toUTF8 = some c ∧
      lib.loadPemX509Certificate certPem.toUTF8 = some c

def Request.nodeId : Request → Option String
  | .issue nodeId _ => some nodeId
  | .ca => none
  | .renew nodeId _ _ => some nodeId

/-- What an answer says, by the answers before it. -/
structure Answered (older : List (Exchange K)) (x : Exchange K) : Prop where
  unconfigured : x.authority = none → x.answer = caNotConfigured
  issue : ∀ nodeId csrPem, x.request = .issue nodeId csrPem → x.authority.isSome →
    x.answer.status = if nameOk lib (nodeCnFormat nodeId) then 201 else 500
  accepted : ∀ nodeId certPem csrPem, x.request = .renew nodeId certPem csrPem →
    x.authority.isSome → OfAuthority lib older x.authority certPem →
    x.answer.status = if nameOk lib (nodeCnFormat nodeId) then 200 else 500
  refused : ∀ nodeId certPem csrPem, x.request = .renew nodeId certPem csrPem →
    x.authority.isSome → ¬ OfAuthority lib older x.authority certPem →
    x.answer = .httpException 400 "Current certificate was not issued by this CA"
  certified : ∀ text ∈ x.answer.texts, ∃ c key, lib.loadPemX509Certificate text.toUTF8 = some c ∧
    x.authority = some key ∧
      lib.scheme.verify (lib.scheme.publicKey key) c.signature c.tbs = true
  named : ∀ text nodeId, x.answer.certificate = some text → x.request.nodeId = some nodeId →
    getCertCn lib text.toUTF8 = some (some (nodeCnFormat nodeId)) ∧
      getCertExpiry lib text.toUTF8 = some (seconds x.now + 90 * 86400)

/-- An answer of an authority with the certificate `caCert`. -/
inductive Served (key : K) (caCert : Certificate P S) (now : ℤ) (draw : Draw K) :
    Request → Answer → Prop
  | issued {nodeId : String} {csrPem : Option String} :
      nameOk lib (nodeCnFormat nodeId) = true →
      Served key caCert now draw (.issue nodeId csrPem)
        (.issued ⟨nodeId, lib.certificatePem (nodeCertificate lib now draw key caCert nodeId),
          lib.certificatePem caCert⟩)
  | unissued {nodeId : String} {csrPem : Option String} :
      nameOk lib (nodeCnFormat nodeId) = false →
      Served key caCert now draw (.issue nodeId csrPem)
        (.httpException 500 "Certificate issuance failed")
  | ca : Served key caCert now draw .ca (.ca (lib.certificatePem caCert))
  | renewed {nodeId certPem : String} {csrPem : Option String} :
      verifyCertChain lib certPem.toUTF8 (lib.certificatePem caCert).toUTF8 = true →
      nameOk lib (nodeCnFormat nodeId) = true →
      Served key caCert now draw (.renew nodeId certPem csrPem)
        (.renewed { nodeId, certificate :=
          lib.certificatePem (nodeCertificate lib now draw key caCert nodeId) })
  | unrenewed {nodeId certPem : String} {csrPem : Option String} :
      verifyCertChain lib certPem.toUTF8 (lib.certificatePem caCert).toUTF8 = true →
      nameOk lib (nodeCnFormat nodeId) = false →
      Served key caCert now draw (.renew nodeId certPem csrPem)
        (.httpException 500 "Certificate renewal failed")
  | refused {nodeId certPem : String} {csrPem : Option String} :
      verifyCertChain lib certPem.toUTF8 (lib.certificatePem caCert).toUTF8 = false →
      Served key caCert now draw (.renew nodeId certPem csrPem)
        (.httpException 400 "Current certificate was not issued by this CA")

end Office

section Proofs
variable {K P S : Type} {lib : X509 K P S}

theorem Operated.material {environment : Environment} {key : K}
    (operated : Operated lib environment (some key)) :
    ∃ caCert, loadCaFromEnv environment =
        some ((lib.certificatePem caCert).toUTF8, (lib.privateKeyPem key).toUTF8) ∧
      caCert.tbs.publicKey = lib.scheme.publicKey key ∧
      lib.scheme.sign key caCert.tbs = caCert.signature := by
  obtain ⟨now, serial, commonName, days, material, generated, loaded⟩ := operated
  unfold generateCa at generated
  split at generated
  · obtain rfl := Option.some.inj generated
    exact ⟨_, loaded, rfl, rfl⟩
  · cases generated

theorem issueNodeCert_eq (lawful : Lawful lib) (now : ℤ) (draw : Draw K) (key : K)
    (caCert : Certificate P S) (nodeId : String) :
    issueNodeCert lib now draw (lib.certificatePem caCert).toUTF8
        (lib.privateKeyPem key).toUTF8 nodeId nodeDefaultDays =
      if nameOk lib (nodeCnFormat nodeId) then
        some ((lib.certificatePem (nodeCertificate lib now draw key caCert nodeId)).toUTF8,
          (lib.privateKeyPem draw.key).toUTF8)
      else none := by
  have valid : (0 : ℤ) ≤ nodeDefaultDays := by decide
  unfold issueNodeCert
  simp only [lawful.certificate, lawful.privateKey, Option.bind_eq_bind, Option.bind_some, valid,
    and_true]
  rfl

theorem serve_served (lawful : Lawful lib) {environment : Environment} {key : K}
    {caCert : Certificate P S}
    (loaded : loadCaFromEnv environment =
      some ((lib.certificatePem caCert).toUTF8, (lib.privateKeyPem key).toUTF8))
    (now : ℤ) (draw : Draw K) (request : Request) :
    Served lib key caCert now draw request (serve lib environment now draw request) := by
  cases request with
  | issue nodeId csrPem =>
      simp only [serve, issueCertificate, loaded, issueNodeCert_eq lawful]
      cases named : nameOk lib (nodeCnFormat nodeId) with
      | true =>
          simp only [if_pos, fromUTF8?_toUTF8]
          exact .issued named
      | false => exact .unissued named
  | ca =>
      simp only [serve, getCaCertificate, loaded, fromUTF8?_toUTF8]
      exact .ca
  | renew nodeId certPem csrPem =>
      simp only [serve, renewCertificate, loaded, issueNodeCert_eq lawful]
      cases verified : verifyCertChain lib certPem.toUTF8 (lib.certificatePem caCert).toUTF8 with
      | true =>
          cases named : nameOk lib (nodeCnFormat nodeId) with
          | true =>
              simp only [if_pos, fromUTF8?_toUTF8]
              exact .renewed verified named
          | false => exact .unrenewed verified named
      | false => exact .refused verified

theorem serve_unconfigured {environment : Environment} (loaded : loadCaFromEnv environment = none)
    (now : ℤ) (draw : Draw K) (request : Request) :
    serve lib environment now draw request = caNotConfigured := by
  cases request <;>
    simp only [serve, issueCertificate, getCaCertificate, renewCertificate, loaded]

theorem verifyCertChain_iff (lawful : Lawful lib) {key : K} {caCert : Certificate P S}
    (own : caCert.tbs.publicKey = lib.scheme.publicKey key) (certPem : String) :
    verifyCertChain lib certPem.toUTF8 (lib.certificatePem caCert).toUTF8 = true ↔
      ∃ c, lib.loadPemX509Certificate certPem.toUTF8 = some c ∧
        lib.scheme.sign key c.tbs = c.signature := by
  unfold verifyCertChain
  rw [lawful.certificate]
  cases lib.loadPemX509Certificate certPem.toUTF8 with
  | none => simp
  | some c =>
      simp only [own, lawful.ideal.verify_publicKey]
      simp

theorem Served.texts {key : K} {caCert : Certificate P S} {now : ℤ} {draw : Draw K}
    {request : Request} {answer : Answer} (served : Served lib key caCert now draw request answer) :
    ∀ text ∈ answer.texts, text = lib.certificatePem caCert ∨
      ∃ nodeId, text = lib.certificatePem (nodeCertificate lib now draw key caCert nodeId) := by
  intro text member
  cases served with
  | issued named =>
      simp only [Answer.texts, List.mem_cons, List.not_mem_nil, or_false] at member
      exact member.symm.imp_right fun same => ⟨_, same⟩
  | renewed verified named => exact .inr ⟨_, List.mem_singleton.mp member⟩
  | ca => exact .inl (List.mem_singleton.mp member)
  | unissued | unrenewed | refused => cases member

variable (lib) in
/-- The certificates of an answer are signed by its authority, over keys of the server. -/
def Genuine (serverKeys : List K) (y : Exchange K) : Prop :=
  ∀ text ∈ y.answer.texts, ∃ c key, lib.loadPemX509Certificate text.toUTF8 = some c ∧
    y.authority = some key ∧ lib.scheme.sign key c.tbs = c.signature ∧
      ∃ k ∈ serverKeys, lib.scheme.publicKey k = c.tbs.publicKey

theorem Served.genuine (lawful : Lawful lib) {key : K} {caCert : Certificate P S} {now : ℤ}
    {draw : Draw K} {request : Request} {answer : Answer}
    (served : Served lib key caCert now draw request answer)
    (own : caCert.tbs.publicKey = lib.scheme.publicKey key)
    (signed : lib.scheme.sign key caCert.tbs = caCert.signature) {serverKeys : List K}
    (held : key ∈ serverKeys) :
    Genuine lib (draw.key :: serverKeys) ⟨request, some key, now, answer⟩ := by
  intro text member
  rcases served.texts text member with rfl | ⟨nodeId, rfl⟩
  · exact ⟨caCert, key, lawful.certificate _, rfl, signed, key, List.mem_cons_of_mem _ held,
      own.symm⟩
  · exact ⟨nodeCertificate lib now draw key caCert nodeId, key, lawful.certificate _, rfl, rfl,
      draw.key, List.mem_cons_self, rfl⟩

theorem Served.status_issue {key : K} {caCert : Certificate P S} {now : ℤ} {draw : Draw K}
    {nodeId : String} {csrPem : Option String} {answer : Answer}
    (served : Served lib key caCert now draw (.issue nodeId csrPem) answer) :
    answer.status = if nameOk lib (nodeCnFormat nodeId) then 201 else 500 := by
  cases served with
  | issued named => rw [if_pos named, Answer.status]
  | unissued named =>
      rw [if_neg (Bool.not_eq_true _ ▸ named), Answer.status]

theorem Served.renew {key : K} {caCert : Certificate P S} {now : ℤ} {draw : Draw K}
    {nodeId certPem : String} {csrPem : Option String} {answer : Answer}
    (served : Served lib key caCert now draw (.renew nodeId certPem csrPem) answer) :
    if verifyCertChain lib certPem.toUTF8 (lib.certificatePem caCert).toUTF8 then
      answer.status = if nameOk lib (nodeCnFormat nodeId) then 200 else 500
    else answer = .httpException 400 "Current certificate was not issued by this CA" := by
  cases served with
  | renewed verified named =>
      rw [if_pos verified, if_pos named, Answer.status]
  | unrenewed verified named =>
      rw [if_pos verified, if_neg (Bool.not_eq_true _ ▸ named), Answer.status]
  | refused verified => rw [if_neg (Bool.not_eq_true _ ▸ verified)]

theorem Served.certificate {key : K} {caCert : Certificate P S} {now : ℤ} {draw : Draw K}
    {request : Request} {answer : Answer} (served : Served lib key caCert now draw request answer)
    {text nodeId : String} (certified : answer.certificate = some text)
    (asked : request.nodeId = some nodeId) :
    text = lib.certificatePem (nodeCertificate lib now draw key caCert nodeId) := by
  cases served with
  | issued named | renewed verified named =>
      obtain rfl := Option.some.inj asked
      exact (Option.some.inj certified).symm
  | ca | unissued | unrenewed | refused => cases certified

theorem getCertCn_nodeCertificate (lawful : Lawful lib) (now : ℤ) (draw : Draw K) (key : K)
    (caCert : Certificate P S) (nodeId : String) :
    getCertCn lib (lib.certificatePem (nodeCertificate lib now draw key caCert nodeId)).toUTF8 =
      some (some (nodeCnFormat nodeId)) := by
  unfold getCertCn
  rw [lawful.certificate]
  rfl

theorem getCertExpiry_nodeCertificate (lawful : Lawful lib) (now : ℤ) (draw : Draw K) (key : K)
    (caCert : Certificate P S) (nodeId : String) :
    getCertExpiry lib
        (lib.certificatePem (nodeCertificate lib now draw key caCert nodeId)).toUTF8 =
      some (seconds now + 90 * 86400) := by
  have whole : seconds (now + nodeDefaultDays * 86400000000) = seconds now + 90 * 86400 := by
    unfold seconds nodeDefaultDays
    omega
  unfold getCertExpiry
  rw [lawful.certificate, Option.map_some]
  exact congrArg some whole

theorem Genuine.mono {serverKeys more : List K} {y : Exchange K}
    (genuine : Genuine lib serverKeys y) (sub : serverKeys ⊆ more) :
    Genuine lib more y := by
  intro text member
  obtain ⟨c, key, loads, authority, signed, k, drawn, same⟩ := genuine text member
  exact ⟨c, key, loads, authority, signed, k, sub drawn, same⟩

variable (lib) in
structure Kept (s : Office K) : Prop where
  operated : Operated lib s.environment s.authority
  held : ∀ key ∈ s.authority, key ∈ s.serverKeys
  apart : ∀ key ∈ s.nodeKeys, key ∉ s.serverKeys
  genuine : ∀ y ∈ s.log, Genuine lib s.serverKeys y
  answered : ∀ newer x older, s.log = newer ++ x :: older → Answered lib older x

/-- What verifies under the CA is what the CA has shown. -/
theorem Kept.ofAuthority {s : Office K} (lawful : Lawful lib) (kept : Kept lib s) {key : K}
    (authority : s.authority = some key) {nodeId certPem : String} {csrPem : Option String}
    (presentable : Presentable lib s (.renew nodeId certPem csrPem)) :
    (∃ c, lib.loadPemX509Certificate certPem.toUTF8 = some c ∧
      lib.scheme.sign key c.tbs = c.signature) ↔ OfAuthority lib s.log (some key) certPem := by
  constructor
  · rintro ⟨c, loads, signed⟩
    have secret : key ∉ s.nodeKeys := by
      intro node
      exact kept.apart key node (kept.held key authority)
    have shown : Shown lib s.log c := by
      apply (presentable c loads).seen_of_verify lawful.ideal _ secret
        (lawful.ideal.verify_publicKey.mpr signed)
      rintro tbs signature ⟨y, member, text, answer, loads'⟩
      obtain ⟨c', key', same, -, signed', -⟩ := kept.genuine y member text answer
      rw [loads'] at same
      obtain rfl := Option.some.inj same
      exact ⟨key', signed'⟩
    obtain ⟨y, member, text, answer, loads'⟩ := shown
    obtain ⟨c', key', same, authority', signed', -⟩ := kept.genuine y member text answer
    rw [loads'] at same
    obtain rfl := Option.some.inj same
    obtain ⟨rfl, -⟩ := lawful.ideal.sign_injective (signed'.trans signed.symm)
    exact ⟨y, member, authority', text, answer, c, loads', loads⟩
  · rintro ⟨y, member, authority', text, answer, c, loads', loads⟩
    obtain ⟨c', key', same, authority'', signed, -⟩ := kept.genuine y member text answer
    rw [loads'] at same
    obtain rfl := Option.some.inj same
    rw [authority'] at authority''
    obtain rfl := Option.some.inj authority''
    exact ⟨c, loads, signed⟩

/-- The answer to a request that is presented. -/
theorem Kept.answer {s : Office K} (lawful : Lawful lib) (kept : Kept lib s) {request : Request}
    (draw : Draw K) (presentable : Presentable lib s request) :
    let x : Exchange K := ⟨request, s.authority, s.now,
      serve lib s.environment s.now draw request⟩
    Answered lib s.log x ∧ Genuine lib (draw.key :: s.serverKeys) x := by
  intro x
  have operated := kept.operated
  cases authority : s.authority with
  | none =>
      rw [authority] at operated
      have answered : x.answer = caNotConfigured := serve_unconfigured operated _ _ _
      have unconfigured : x.authority = none := authority
      have noTexts : x.answer.texts = [] := by rw [answered]; rfl
      constructor
      · constructor
        · exact fun _ => answered
        · intro nodeId csrPem _ configured
          rw [unconfigured] at configured
          cases configured
        · intro nodeId certPem csrPem _ configured
          rw [unconfigured] at configured
          cases configured
        · intro nodeId certPem csrPem _ configured
          rw [unconfigured] at configured
          cases configured
        · rw [noTexts]
          exact fun text member => absurd member List.not_mem_nil
        · intro text nodeId certified
          rw [answered] at certified
          cases certified
      · intro text member
        rw [noTexts] at member
        cases member
  | some key =>
      rw [authority] at operated
      obtain ⟨caCert, loaded, own, signed⟩ := operated.material
      have served : Served lib key caCert s.now draw request x.answer :=
        serve_served lawful loaded s.now draw request
      have configured : x.authority = some key := authority
      have genuine : Genuine lib (draw.key :: s.serverKeys) x := by
        have done := served.genuine lawful own signed (kept.held key authority)
        rw [← authority] at done
        exact done
      refine ⟨?_, genuine⟩
      constructor
      · intro unconfigured
        rw [configured] at unconfigured
        cases unconfigured
      · intro nodeId csrPem asked _
        obtain rfl : request = _ := asked
        exact served.status_issue
      · intro nodeId certPem csrPem asked _ ofAuthority
        obtain rfl : request = _ := asked
        rw [configured] at ofAuthority
        have verified := (verifyCertChain_iff lawful own certPem).mpr
          ((kept.ofAuthority lawful authority presentable).mpr ofAuthority)
        have renewed := served.renew
        rw [if_pos verified] at renewed
        exact renewed
      · intro nodeId certPem csrPem asked _ foreign
        obtain rfl : request = _ := asked
        rw [configured] at foreign
        have unverified : ¬ verifyCertChain lib certPem.toUTF8
            (lib.certificatePem caCert).toUTF8 = true := by
          intro verified
          apply foreign
          apply (kept.ofAuthority lawful authority presentable).mp
          exact (verifyCertChain_iff lawful own certPem).mp verified
        have refused := served.renew
        rw [if_neg unverified] at refused
        exact refused
      · intro text member
        obtain ⟨c, key', loads, configured', signed', -⟩ := genuine text member
        exact ⟨c, key', loads, configured', lawful.ideal.verify_publicKey.mpr signed'⟩
      · intro text nodeId certified asked
        rw [served.certificate certified asked]
        exact ⟨getCertCn_nodeCertificate lawful _ _ _ _ _,
          getCertExpiry_nodeCertificate lawful _ _ _ _ _⟩

theorem Kept.step {s t : Office K} (lawful : Lawful lib) (kept : Kept lib s) {event : Event K}
    (admissible : Admissible lib s event) (stepped : Tls.step lib s event = some t) :
    Kept lib t := by
  cases event with
  | tick later =>
      obtain rfl := Option.some.inj stepped
      exact ⟨kept.operated, kept.held, kept.apart, kept.genuine, kept.answered⟩
  | configure environment authority =>
      obtain rfl := Option.some.inj stepped
      obtain ⟨operated, others⟩ := admissible
      constructor
      · exact operated
      · intro key configured
        exact List.mem_append_left _ (Option.mem_toList.mpr configured)
      · intro key node server
        rcases List.mem_append.mp server with configured | server
        · exact others key (Option.mem_toList.mp configured) node
        · exact kept.apart key node server
      · intro y member
        exact (kept.genuine y member).mono (List.subset_append_right _ _)
      · exact kept.answered
  | generateCsr nodeId key =>
      obtain rfl := Option.some.inj stepped
      refine ⟨kept.operated, kept.held, ?_, kept.genuine, kept.answered⟩
      intro k node
      rcases List.mem_cons.mp node with rfl | node
      · exact admissible
      · exact kept.apart k node
  | request request draw =>
      obtain rfl := Option.some.inj stepped
      obtain ⟨fresh, presentable⟩ := admissible
      obtain ⟨answered, genuine⟩ := kept.answer lawful draw presentable
      constructor
      · exact kept.operated
      · intro key configured
        exact List.mem_cons_of_mem _ (kept.held key configured)
      · intro key node server
        rcases List.mem_cons.mp server with rfl | server
        · exact fresh node
        · exact kept.apart key node server
      · intro y member
        rcases List.mem_cons.mp member with rfl | member
        · exact genuine
        · exact (kept.genuine y member).mono (List.subset_cons_self _ _)
      · intro newer x older split
        cases newer with
        | nil =>
            obtain ⟨rfl, rfl⟩ := List.cons.inj split
            exact answered
        | cons first newer =>
            obtain ⟨-, split⟩ := List.cons.inj split
            exact kept.answered newer x older split

def Office.opening (environment : Environment) (authority : Option K) (now : ℤ) : Office K :=
  ⟨environment, authority, now, [], authority.toList, []⟩

theorem Kept.opening {environment : Environment} {authority : Option K} {now : ℤ}
    (operated : Operated lib environment authority) :
    Kept lib (Office.opening environment authority now) := by
  constructor
  · exact operated
  · intro key configured
    exact Option.mem_toList.mpr configured
  · intro key node
    cases node
  · intro y member
    cases member
  · intro newer x older split
    exact absurd split.symm (List.append_ne_nil_of_right_ne_nil newer (List.cons_ne_nil x older))

theorem Kept.run {environment : Environment} {authority : Option K} {now : ℤ}
    {events : List (Event K)} {t : Office K} (lawful : Lawful lib)
    (operated : Operated lib environment authority)
    (run : Run (Tls.step lib) (Admissible lib) (Office.opening environment authority now) events
      t) : Kept lib t := by
  apply Run.invariant (I := Kept lib) _ run (Kept.opening operated)
  intro s event t kept admissible stepped
  exact kept.step lawful admissible stepped

/-- A renewal is given exactly for a certificate that the authority in force has shown before,
whatever its node is and however old it is. -/
theorem chained_of_run {environment : Environment} {authority : Option K} {now : ℤ}
    {events : List (Event K)} {t : Office K} (lawful : Lawful lib)
    (operated : Operated lib environment authority)
    (run : Run (Tls.step lib) (Admissible lib) (Office.opening environment authority now) events
      t) :
    ∀ newer x older, t.log = newer ++ x :: older → Answered lib older x :=
  (Kept.run lawful operated run).answered

/-- No node can load a certificate that it was given: the key of the certificate is one that the
server has drawn and kept to itself. -/
theorem unusable_of_run {environment : Environment} {authority : Option K} {now : ℤ}
    {events : List (Event K)} {t : Office K} (lawful : Lawful lib)
    (operated : Operated lib environment authority)
    (run : Run (Tls.step lib) (Admissible lib) (Office.opening environment authority now) events
      t)
    {x : Exchange K} (answered : x ∈ t.log) {text : String} (shown : text ∈ x.answer.texts)
    {key : K} (node : key ∈ t.nodeKeys) {files : String → Option ByteArray}
    {certPath keyPath : String} (cert : files certPath = some text.toUTF8)
    (own : files keyPath = some (lib.privateKeyPem key).toUTF8) (caCertPath : String) :
    (loadClientSslContext lib files certPath keyPath caCertPath).toBool = false := by
  have kept := Kept.run lawful operated run
  have mismatch : lib.loadCertChain text.toUTF8 (lib.privateKeyPem key).toUTF8 = none := by
    by_contra matched
    obtain ⟨u, loaded⟩ := Option.ne_none_iff_exists'.mp matched
    obtain ⟨c, k, loads, keyLoads, same⟩ := lawful.chain _ _ loaded
    rw [lawful.privateKey] at keyLoads
    obtain rfl := Option.some.inj keyLoads
    obtain ⟨c', -, loads', -, -, k', server, same'⟩ := kept.genuine x answered text shown
    rw [loads] at loads'
    obtain rfl := Option.some.inj loads'
    obtain rfl := lawful.ideal.publicKey_injective (same'.trans same.symm)
    exact kept.apart k' node server
  unfold loadClientSslContext
  rw [cert, own]
  cases files caCertPath with
  | none => rfl
  | some caCert =>
      simp only [mismatch]
      rfl

end Proofs

/-! ## A library of symbolic signatures -/

instance encodableChar : Encodable Char :=
  Encodable.ofLeftInjection Char.toNat (fun n => some (Char.ofNat n)) fun c => by simp

instance encodableString : Encodable String :=
  Encodable.ofLeftInjection String.toList (fun chars => some (String.ofList chars))
    fun text => by simp

deriving instance Encodable for NameOID
deriving instance Encodable for KeyUsage

abbrev TbsParts := (X509Name × X509Name × ℕ × ℕ × ℤ × ℤ) × Bool × Option ℕ × List KeyUsage ×
  List String × List String × Option ℕ

def Tbs.parts (t : Tbs ℕ) : TbsParts :=
  ((t.subject, t.issuer, t.publicKey, t.serialNumber, t.notValidBefore, t.notValidAfter), t.isCa,
    t.pathLength, t.keyUsage, t.extendedKeyUsage, t.subjectAlternativeName, t.subjectKeyIdentifier)

def TbsParts.tbs (parts : TbsParts) : Tbs ℕ :=
  match parts with
  | ((subject, issuer, publicKey, serialNumber, notValidBefore, notValidAfter), isCa, pathLength,
      keyUsage, extendedKeyUsage, subjectAlternativeName, subjectKeyIdentifier) =>
      ⟨subject, issuer, publicKey, serialNumber, notValidBefore, notValidAfter, isCa, pathLength,
        keyUsage, extendedKeyUsage, subjectAlternativeName, subjectKeyIdentifier⟩

theorem Tbs.tbs_parts (t : Tbs ℕ) : t.parts.tbs = t := rfl

instance encodableTbs : Encodable (Tbs ℕ) :=
  Encodable.ofLeftInverse Tbs.parts TbsParts.tbs Tbs.tbs_parts

instance encodableCertificate : Encodable (Certificate ℕ (ℕ × Tbs ℕ)) :=
  Encodable.ofLeftInverse (fun c => (c.tbs, c.signature)) (fun p => ⟨p.1, p.2⟩) fun _ => rfl

/-- A text that is one longer than the number a value encodes to. -/
@[irreducible] def unaryPem {α : Type} [Encodable α] (a : α) : String :=
  String.ofList (List.replicate (Encodable.encode a + 1) 'A')

@[irreducible] def loadUnary {α : Type} [Encodable α] (bytes : ByteArray) : Option α :=
  (String.fromUTF8? bytes).bind fun text => Encodable.decode (text.length - 1)

theorem loadUnary_unaryPem {α : Type} [Encodable α] (a : α) :
    loadUnary (unaryPem a).toUTF8 = some a := by
  unfold loadUnary unaryPem
  simp only [fromUTF8?_toUTF8, Option.bind_some, String.length_ofList,
    List.length_replicate, Nat.add_sub_cancel, Encodable.encodek]

theorem unaryPem_ne {α : Type} [Encodable α] (a : α) : unaryPem a ≠ "" := by
  intro empty
  have long := congrArg String.length empty
  unfold unaryPem at long
  simp at long

/-- Keys are their own public keys, and a signature is the key with what it signs. -/
def symbolic : X509 ℕ ℕ (ℕ × Tbs ℕ) where
  scheme :=
    { publicKey := id
      sign := Prod.mk
      verify := fun key signature tbs => signature = (key, tbs) }
  certificatePem := unaryPem
  loadPemX509Certificate := loadUnary
  privateKeyPem := unaryPem
  loadPemPrivateKey := loadUnary
  commonNameOk text := 1 ≤ text.length && text.length ≤ 64
  dnsNameOk text := text.toList.all fun c => c.toNat < 128
  loadCertChain cert key :=
    match (loadUnary cert : Option (Certificate ℕ (ℕ × Tbs ℕ))), (loadUnary key : Option ℕ) with
    | some c, some k => if k = c.tbs.publicKey then some () else none
    | _, _ => none

theorem ideal_symbolic : symbolic.scheme.Ideal := by
  constructor
  · intro key signature tbs
    change decide (signature = (key, tbs)) = true ↔ ∃ k, k = key ∧ (k, tbs) = signature
    rw [decide_eq_true_iff]
    constructor
    · intro signed
      exact ⟨key, rfl, signed.symm⟩
    · rintro ⟨k, rfl, signed⟩
      exact signed.symm
  · intro key key' tbs tbs' same
    exact Prod.mk.inj same
  · exact Function.injective_id

theorem lawful_symbolic : Lawful symbolic := by
  constructor
  · exact ideal_symbolic
  · intro c
    exact loadUnary_unaryPem c
  · intro key
    exact loadUnary_unaryPem key
  · intro cert key loaded
    simp only [symbolic] at loaded
    split at loaded
    · rename_i c k certLoads keyLoads
      split at loaded
      · rename_i same
        exact ⟨c, k, certLoads, keyLoads, same⟩
      · cases loaded
    · cases loaded

def firstCa : Certificate ℕ (ℕ × Tbs ℕ) :=
  symbolic.signed 5 (caTbs 0 5 1 caCommonName caDefaultDays)

/-- The two variables that hold PEM texts. -/
def inlineEnvironment (caCert caKey : String) : Environment where
  environ name :=
    if name = "RENDERTRUST_CA_CERT" then some caCert
    else if name = "RENDERTRUST_CA_KEY" then some caKey
    else none
  files _ := none

theorem loadCaFromEnv_inline {caCert caKey : String} (cert : caCert ≠ "") (key : caKey ≠ "") :
    loadCaFromEnv (inlineEnvironment caCert caKey) = some (caCert.toUTF8, caKey.toUTF8) := by
  have certSet : (inlineEnvironment caCert caKey).get "RENDERTRUST_CA_CERT" = some caCert :=
    (Option.filter_some ..).trans (if_pos (decide_eq_true cert))
  have keySet : (inlineEnvironment caCert caKey).get "RENDERTRUST_CA_KEY" = some caKey :=
    (Option.filter_some ..).trans (if_pos (decide_eq_true key))
  unfold loadCaFromEnv
  simp only [certSet, keySet]

def configured : Environment := inlineEnvironment (unaryPem firstCa) (unaryPem (5 : ℕ))

theorem loadCaFromEnv_configured : loadCaFromEnv configured =
    some ((unaryPem firstCa).toUTF8, (unaryPem (5 : ℕ)).toUTF8) :=
  loadCaFromEnv_inline (unaryPem_ne _) (unaryPem_ne _)

theorem operated_configured : Operated symbolic configured (some 5) :=
  ⟨0, 1, caCommonName, caDefaultDays, _, if_pos (by decide), loadCaFromEnv_configured⟩

def firstNode : Certificate ℕ (ℕ × Tbs ℕ) :=
  nodeCertificate symbolic 0 ⟨8, 2⟩ 5 firstCa "a"

theorem issue_configured : serve symbolic configured 0 ⟨8, 2⟩ (.issue "a" (some "csr")) =
    .issued ⟨"a", unaryPem firstNode, unaryPem firstCa⟩ := by
  have served := serve_served lawful_symbolic loadCaFromEnv_configured 0 ⟨8, 2⟩
    (.issue "a" (some "csr"))
  generalize serve symbolic configured 0 ⟨8, 2⟩ (.issue "a" (some "csr")) = answer at served
  cases served with
  | issued named => rfl
  | unissued named => exact absurd named (by decide)

/-- A node asks for a certificate, and 200 days later another node renews it as its own. -/
def renewal : List (Event ℕ) :=
  [.generateCsr "a" 7, .request (.issue "a" (some "csr")) ⟨8, 2⟩, .tick 17280000000000,
    .request (.renew "b" (unaryPem firstNode) none) ⟨9, 3⟩]

theorem run_renewal : ∃ t, Run (Tls.step symbolic) (Admissible symbolic)
    (Office.opening configured (some 5) 0) renewal t ∧
      7 ∈ t.nodeKeys ∧ ∃ x ∈ t.log, unaryPem firstNode ∈ x.answer.texts := by
  have node : (7 : ℕ) ∉ [5] := by decide
  have drawn : (8 : ℕ) ∉ [7] := by decide
  have later : (0 : ℤ) ≤ 17280000000000 := by decide
  have again : (9 : ℕ) ∉ [7] := by decide
  have shown : unaryPem firstNode ∈
      (serve symbolic configured 0 ⟨8, 2⟩ (.issue "a" (some "csr"))).texts := by
    rw [issue_configured]
    exact List.mem_cons_self
  refine ⟨_, .cons node rfl (.cons ⟨drawn, trivial⟩ rfl (.cons later rfl
    (.cons ⟨again, ?_⟩ rfl (.nil _)))), List.mem_cons_self, _, .tail _ (.head _), shown⟩
  intro c loads
  obtain rfl := Option.some.inj ((loadUnary_unaryPem firstNode).symm.trans loads)
  exact .taken ⟨_, List.mem_cons_self, unaryPem firstNode, shown, loads⟩

theorem chained_renewal : ∃ t, Run (Tls.step symbolic) (Admissible symbolic)
    (Office.opening configured (some 5) 0) renewal t ∧
      ∀ newer x older, t.log = newer ++ x :: older → Answered symbolic older x := by
  obtain ⟨t, run, -⟩ := run_renewal
  exact ⟨t, run, chained_of_run lawful_symbolic operated_configured run⟩

theorem unusable_renewal : ∃ t, Run (Tls.step symbolic) (Admissible symbolic)
    (Office.opening configured (some 5) 0) renewal t ∧
      let files := fun path =>
        if path = "cert.pem" then some (unaryPem firstNode).toUTF8
        else if path = "key.pem" then some (unaryPem (7 : ℕ)).toUTF8
        else some (unaryPem firstCa).toUTF8
      (loadClientSslContext symbolic files "cert.pem" "key.pem" "ca.pem").toBool = false := by
  obtain ⟨t, run, node, x, answered, shown⟩ := run_renewal
  exact ⟨t, run, unusable_of_run lawful_symbolic operated_configured run answered shown node rfl
    rfl "ca.pem"⟩

end RenderTrust.Relay.Tls
