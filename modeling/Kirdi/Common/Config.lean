import Kirdi.Common.Json
import Mathlib.Data.List.Nodup

/-!
# `Common.Config` — the two configurations and their JSON form

Embeds `common/config.cpp`. `to_json` and `from_json` are two lists of fields kept by hand, with their keys
and the aliases that `from_json` also takes. What a field is read from is stated apart from them, in the
tables `fields`: its canonical key, else its alias, else the default. `from_json` accepts exactly the values
of which every field of the table can be read (`fromJson_iff`); the round trip and the normal form follow. The
files are a function from paths to texts.
-/

namespace Kirdi
namespace Config

/-! ## Reading a field -/

/-- `j.contains(key)`, and `j.at(key)` when it does. -/
def member (j : Json) (key : Bytes) : Option Json :=
  match j with
  | .object members => members.lookup key
  | _ => none

/-- `j.get_to(out)` of a `uint16_t`: numbers and booleans, converted by `static_cast`. -/
def getUInt16 : Json → Except JsonError UInt16
  | .numberUnsigned n => .ok n.toUInt16
  | .numberInteger i => .ok i.toUInt64.toUInt16
  | .numberFloat t => .ok (UInt16.ofInt t)
  | .boolean b => .ok (if b then 1 else 0)
  | _ => .error .typeError302

/-- `json_get`: the canonical key, else the alias when there is one, else `out` as it is. -/
def jsonGet {α : Type} (conv : Json → Except JsonError α) (j : Json) (key : Bytes) (fallback : Option Bytes)
    (out : α) : Except JsonError α :=
  match member j key with
  | some v => conv v
  | none =>
      match fallback.bind (member j) with
      | some v => conv v
      | none => .ok out

/-- `strip_cidr`: cut at the first `/`. -/
def stripCidr (s : Bytes) : Bytes := s.takeWhile (· ≠ 47)

/-! ## The configurations -/

structure ServerConfig where
  listenAddr        : Bytes := ascii "0.0.0.0"
  listenPort        : UInt16 := 7777
  wsPath            : Bytes := ascii "/tunnel/"
  tlsEnabled        : Bool := false
  tlsCertPath       : Bytes := []
  tlsKeyPath        : Bytes := []
  tunSubnet         : Bytes := ascii "10.8.0.0"
  tunMask           : Bytes := ascii "255.255.255.0"
  tunServerIp       : Bytes := ascii "10.8.0.1"
  mtu               : UInt32 := 1400
  authSecret        : Bytes := []
  maxClients        : UInt32 := 64
  keepaliveSec      : UInt32 := 25
  sessionTimeoutSec : UInt32 := 300
  logLevel          : Bytes := ascii "info"
  deriving DecidableEq, Repr

structure ClientConfig where
  serverHost   : Bytes := []
  serverPort   : UInt16 := 443
  wsPath       : Bytes := ascii "/tunnel/"
  tlsEnabled   : Bool := true
  sniOverride  : Bytes := []
  authUser     : Bytes := ascii "kirdi"
  authToken    : Bytes := []
  mtu          : UInt32 := 1400
  autoRoute    : Bool := true
  dnsServer    : Bytes := ascii "1.1.1.1"
  transport    : Bytes := ascii "websocket"
  keepaliveSec : UInt32 := 25
  logLevel     : Bytes := ascii "info"
  deriving DecidableEq, Repr

/-- `to_json` of a `ServerConfig`. -/
def ServerConfig.toJson (c : ServerConfig) : Json :=
  .object [
    (ascii "listen_addr", .string c.listenAddr),
    (ascii "listen_port", .numberUnsigned c.listenPort.toUInt64),
    (ascii "ws_path", .string c.wsPath),
    (ascii "tls_enabled", .boolean c.tlsEnabled),
    (ascii "tls_cert_path", .string c.tlsCertPath),
    (ascii "tls_key_path", .string c.tlsKeyPath),
    (ascii "tun_subnet", .string c.tunSubnet),
    (ascii "tun_mask", .string c.tunMask),
    (ascii "tun_server_ip", .string c.tunServerIp),
    (ascii "mtu", .numberUnsigned c.mtu.toUInt64),
    (ascii "auth_secret", .string c.authSecret),
    (ascii "max_clients", .numberUnsigned c.maxClients.toUInt64),
    (ascii "keepalive_sec", .numberUnsigned c.keepaliveSec.toUInt64),
    (ascii "session_timeout_sec", .numberUnsigned c.sessionTimeoutSec.toUInt64),
    (ascii "log_level", .string c.logLevel)]

/-- `from_json` into a `ServerConfig`. -/
def ServerConfig.fromJson (j : Json) (c : ServerConfig) : Except JsonError ServerConfig := do
  let listenAddr ← jsonGet Json.getString j (ascii "listen_addr") (some (ascii "listen_address")) c.listenAddr
  let listenPort ← jsonGet getUInt16 j (ascii "listen_port") none c.listenPort
  let wsPath ← jsonGet Json.getString j (ascii "ws_path") none c.wsPath
  let tlsEnabled ← jsonGet Json.getBool j (ascii "tls_enabled") none c.tlsEnabled
  let tlsCertPath ← jsonGet Json.getString j (ascii "tls_cert_path") (some (ascii "tls_cert")) c.tlsCertPath
  let tlsKeyPath ← jsonGet Json.getString j (ascii "tls_key_path") (some (ascii "tls_key")) c.tlsKeyPath
  let tunSubnet ← jsonGet Json.getString j (ascii "tun_subnet") none c.tunSubnet
  let tunMask ← jsonGet Json.getString j (ascii "tun_mask") (some (ascii "tun_netmask")) c.tunMask
  let tunServerIp ← jsonGet Json.getString j (ascii "tun_server_ip") none c.tunServerIp
  let mtu ← jsonGet Json.getUInt32 j (ascii "mtu") none c.mtu
  let authSecret ← jsonGet Json.getString j (ascii "auth_secret") (some (ascii "auth_token")) c.authSecret
  let maxClients ← jsonGet Json.getUInt32 j (ascii "max_clients") none c.maxClients
  let keepaliveSec ← jsonGet Json.getUInt32 j (ascii "keepalive_sec") (some (ascii "keepalive_interval")) c.keepaliveSec
  let sessionTimeoutSec ← jsonGet Json.getUInt32 j (ascii "session_timeout_sec") none c.sessionTimeoutSec
  let logLevel ← jsonGet Json.getString j (ascii "log_level") none c.logLevel
  return { listenAddr, listenPort, wsPath, tlsEnabled, tlsCertPath, tlsKeyPath, tunSubnet := stripCidr tunSubnet,
           tunMask, tunServerIp, mtu, authSecret, maxClients, keepaliveSec, sessionTimeoutSec, logLevel }

/-- `to_json` of a `ClientConfig`. -/
def ClientConfig.toJson (c : ClientConfig) : Json :=
  .object [
    (ascii "server_host", .string c.serverHost),
    (ascii "server_port", .numberUnsigned c.serverPort.toUInt64),
    (ascii "ws_path", .string c.wsPath),
    (ascii "tls_enabled", .boolean c.tlsEnabled),
    (ascii "sni_override", .string c.sniOverride),
    (ascii "auth_user", .string c.authUser),
    (ascii "auth_token", .string c.authToken),
    (ascii "mtu", .numberUnsigned c.mtu.toUInt64),
    (ascii "auto_route", .boolean c.autoRoute),
    (ascii "dns_server", .string c.dnsServer),
    (ascii "transport", .string c.transport),
    (ascii "keepalive_sec", .numberUnsigned c.keepaliveSec.toUInt64),
    (ascii "log_level", .string c.logLevel)]

/-- `from_json` into a `ClientConfig`. -/
def ClientConfig.fromJson (j : Json) (c : ClientConfig) : Except JsonError ClientConfig := do
  let serverHost ← jsonGet Json.getString j (ascii "server_host") (some (ascii "host")) c.serverHost
  let serverPort ← jsonGet getUInt16 j (ascii "server_port") (some (ascii "port")) c.serverPort
  let wsPath ← jsonGet Json.getString j (ascii "ws_path") (some (ascii "path")) c.wsPath
  let tlsEnabled ← jsonGet Json.getBool j (ascii "tls_enabled") none c.tlsEnabled
  let sniOverride ← jsonGet Json.getString j (ascii "sni_override") (some (ascii "sni")) c.sniOverride
  let authUser ← jsonGet Json.getString j (ascii "auth_user") (some (ascii "user")) c.authUser
  let authToken ← jsonGet Json.getString j (ascii "auth_token") (some (ascii "token")) c.authToken
  let mtu ← jsonGet Json.getUInt32 j (ascii "mtu") none c.mtu
  let autoRoute ← jsonGet Json.getBool j (ascii "auto_route") none c.autoRoute
  let dnsServer ← jsonGet Json.getString j (ascii "dns_server") (some (ascii "dns")) c.dnsServer
  let transport ← jsonGet Json.getString j (ascii "transport") none c.transport
  let keepaliveSec ← jsonGet Json.getUInt32 j (ascii "keepalive_sec") (some (ascii "keepalive")) c.keepaliveSec
  let logLevel ← jsonGet Json.getString j (ascii "log_level") none c.logLevel
  return { serverHost, serverPort, wsPath, tlsEnabled, sniOverride, authUser, authToken, mtu, autoRoute,
           dnsServer, transport, keepaliveSec, logLevel }

/-! ## The file parsers -/

/-- What the two parsers do: open the file, parse it and read it into a default configuration. `none` is an
    exception. -/
def parseConfig {σ : Type} (fromJson : Json → σ → Except JsonError σ) (dflt : σ) (deps : Deps)
    (files : Bytes → Option Bytes) (path : Bytes) : Option σ := do
  let text ← files path
  let j ← deps.parse text
  (fromJson j dflt).toOption

/-- `parse_server_config`. -/
def parseServerConfig : Deps → (Bytes → Option Bytes) → Bytes → Option ServerConfig :=
  parseConfig ServerConfig.fromJson {}

/-- `parse_client_config`. -/
def parseClientConfig : Deps → (Bytes → Option Bytes) → Bytes → Option ClientConfig :=
  parseConfig ClientConfig.fromJson {}

theorem parseConfig_eq_some_iff {σ : Type} {fromJson : Json → σ → Except JsonError σ} {dflt c : σ} {deps : Deps}
    {files : Bytes → Option Bytes} {path : Bytes} :
    parseConfig fromJson dflt deps files path = some c ↔
      ∃ text j, files path = some text ∧ deps.parse text = some j ∧ fromJson j dflt = .ok c := by
  unfold parseConfig
  simp only [bind, Option.bind_eq_some_iff]
  constructor
  · rintro ⟨text, htext, j, hj, hc⟩
    cases hread : fromJson j dflt with
    | error e => simp [hread, Except.toOption] at hc
    | ok c' =>
        obtain rfl : c' = c := by simpa [hread, Except.toOption] using hc
        exact ⟨text, j, htext, hj, hread⟩
  · rintro ⟨text, j, htext, hj, hread⟩
    exact ⟨text, htext, j, hj, by rw [hread]; rfl⟩

/-! ## What a field is read from -/

/-- A field of a configuration: where it is read from, as what, and what becomes of the value that is read. -/
structure Field (σ : Type) where
  {Value   : Type}
  conv     : Json → Except JsonError Value
  key      : Bytes
  fallback : Option Bytes
  get      : σ → Value
  becomes  : Value → Value → Prop
  unique   : ∀ {x y z}, becomes x y → becomes x z → y = z

/-- A field that is taken as it is. -/
def Field.plain {σ α : Type} (conv : Json → Except JsonError α) (key : Bytes) (fallback : Option Bytes)
    (get : σ → α) : Field σ :=
  ⟨conv, key, fallback, get, fun x y => y = x, fun hy hz => hy.trans hz.symm⟩

/-- `s` is what `t` has before its first `/`: all of `t` when it has none. -/
def BeforeSlash (t s : Bytes) : Prop := 47 ∉ s ∧ (t = s ∨ ∃ rest, t = s ++ 47 :: rest)

/-- A text has one such beginning, and `strip_cidr` finds it. -/
theorem stripCidr_eq_iff {t s : Bytes} : stripCidr t = s ↔ BeforeSlash t s := by
  unfold stripCidr BeforeSlash
  constructor
  · rintro rfl
    refine ⟨fun hmem => by simpa using List.mem_takeWhile_imp hmem, ?_⟩
    have hsplit : t.takeWhile (· ≠ 47) ++ t.dropWhile (· ≠ 47) = t := List.takeWhile_append_dropWhile
    cases hdrop : t.dropWhile (· ≠ 47) with
    | nil =>
        rw [hdrop, List.append_nil] at hsplit
        exact Or.inl hsplit.symm
    | cons c rest =>
        -- what is left begins with the slash
        have hc : ¬ (decide (c ≠ 47)) = true := by
          have hhead := List.head_dropWhile_not (fun c : UInt8 => decide (c ≠ 47))
            (show t.dropWhile (fun c => decide (c ≠ 47)) ≠ [] by rw [hdrop]; simp)
          simpa only [hdrop, List.head_cons, Bool.not_eq_true] using hhead
        obtain rfl : c = 47 := by simpa using hc
        rw [hdrop] at hsplit
        exact Or.inr ⟨rest, hsplit.symm⟩
  · rintro ⟨hs, ht⟩
    have hkept : ∀ c ∈ s, (decide (c ≠ 47)) = true := by
      intro c hc
      have hne : c ≠ 47 := fun he => hs (he ▸ hc)
      simpa using hne
    rcases ht with rfl | ⟨rest, rfl⟩
    · exact List.takeWhile_eq_self_iff.mpr hkept
    · rw [List.takeWhile_append_of_pos hkept, List.takeWhile_cons_of_neg (by simp), List.append_nil]

theorem BeforeSlash.unique {t s s' : Bytes} (h : BeforeSlash t s) (h' : BeforeSlash t s') : s = s' :=
  (stripCidr_eq_iff.mpr h).symm.trans (stripCidr_eq_iff.mpr h')

/-- The member a field is read from: that of the canonical key if present, else that of the alias. -/
def setting (j : Json) (key : Bytes) (fallback : Option Bytes) : Option Json :=
  (member j key).or (fallback.bind (member j))

/-- The field of `c` is what `j` sets it to, or the default `d` when `j` does not. -/
def Field.Reads {σ : Type} (f : Field σ) (j : Json) (d c : σ) : Prop :=
  match setting j f.key f.fallback with
  | some v => ∃ x, f.conv v = .ok x ∧ f.becomes x (f.get c)
  | none => f.becomes (f.get d) (f.get c)

def ServerConfig.fields : List (Field ServerConfig) :=
  [ .plain Json.getString (ascii "listen_addr") (some (ascii "listen_address")) ServerConfig.listenAddr,
    .plain getUInt16 (ascii "listen_port") none ServerConfig.listenPort,
    .plain Json.getString (ascii "ws_path") none ServerConfig.wsPath,
    .plain Json.getBool (ascii "tls_enabled") none ServerConfig.tlsEnabled,
    .plain Json.getString (ascii "tls_cert_path") (some (ascii "tls_cert")) ServerConfig.tlsCertPath,
    .plain Json.getString (ascii "tls_key_path") (some (ascii "tls_key")) ServerConfig.tlsKeyPath,
    ⟨Json.getString, ascii "tun_subnet", none, ServerConfig.tunSubnet, BeforeSlash, BeforeSlash.unique⟩,
    .plain Json.getString (ascii "tun_mask") (some (ascii "tun_netmask")) ServerConfig.tunMask,
    .plain Json.getString (ascii "tun_server_ip") none ServerConfig.tunServerIp,
    .plain Json.getUInt32 (ascii "mtu") none ServerConfig.mtu,
    .plain Json.getString (ascii "auth_secret") (some (ascii "auth_token")) ServerConfig.authSecret,
    .plain Json.getUInt32 (ascii "max_clients") none ServerConfig.maxClients,
    .plain Json.getUInt32 (ascii "keepalive_sec") (some (ascii "keepalive_interval")) ServerConfig.keepaliveSec,
    .plain Json.getUInt32 (ascii "session_timeout_sec") none ServerConfig.sessionTimeoutSec,
    .plain Json.getString (ascii "log_level") none ServerConfig.logLevel ]

def ClientConfig.fields : List (Field ClientConfig) :=
  [ .plain Json.getString (ascii "server_host") (some (ascii "host")) ClientConfig.serverHost,
    .plain getUInt16 (ascii "server_port") (some (ascii "port")) ClientConfig.serverPort,
    .plain Json.getString (ascii "ws_path") (some (ascii "path")) ClientConfig.wsPath,
    .plain Json.getBool (ascii "tls_enabled") none ClientConfig.tlsEnabled,
    .plain Json.getString (ascii "sni_override") (some (ascii "sni")) ClientConfig.sniOverride,
    .plain Json.getString (ascii "auth_user") (some (ascii "user")) ClientConfig.authUser,
    .plain Json.getString (ascii "auth_token") (some (ascii "token")) ClientConfig.authToken,
    .plain Json.getUInt32 (ascii "mtu") none ClientConfig.mtu,
    .plain Json.getBool (ascii "auto_route") none ClientConfig.autoRoute,
    .plain Json.getString (ascii "dns_server") (some (ascii "dns")) ClientConfig.dnsServer,
    .plain Json.getString (ascii "transport") none ClientConfig.transport,
    .plain Json.getUInt32 (ascii "keepalive_sec") (some (ascii "keepalive")) ClientConfig.keepaliveSec,
    .plain Json.getString (ascii "log_level") none ClientConfig.logLevel ]

/-! ## One field -/

section Field

variable {σ α β : Type} {f : Field σ} {j : Json} {c d : σ}

theorem bind_eq_ok_iff {x : Except JsonError α} {next : α → Except JsonError β} {b : β} :
    x >>= next = .ok b ↔ ∃ a, x = .ok a ∧ next a = .ok b := by
  cases x with
  | error e => exact iff_of_false (by simp [bind, Except.bind]) (by simp)
  | ok a => simp [bind, Except.bind]

/-- `json_get` converts the member of the field, or keeps what was there. -/
theorem jsonGet_eq (conv : Json → Except JsonError α) (key : Bytes) (fallback : Option Bytes) (out : α) :
    jsonGet conv j key fallback out =
      match setting j key fallback with
      | some v => conv v
      | none => .ok out := by
  unfold jsonGet setting
  cases member j key with
  | some v => rfl
  | none => rfl

/-- **Reading a field is one `json_get`.** -/
theorem reads_iff :
    f.Reads j d c ↔ ∃ x, jsonGet f.conv j f.key f.fallback (f.get d) = .ok x ∧ f.becomes x (f.get c) := by
  rw [jsonGet_eq]
  unfold Field.Reads
  cases setting j f.key f.fallback with
  | some v => exact Iff.rfl
  | none => simp

@[simp] theorem reads_plain {conv : Json → Except JsonError α} {key : Bytes} {fallback : Option Bytes}
    {get : σ → α} :
    (Field.plain conv key fallback get).Reads j d c ↔ jsonGet conv j key fallback (get d) = .ok (get c) := by
  rw [reads_iff]
  constructor
  · rintro ⟨x, hx, hget⟩
    exact hx.trans (congrArg Except.ok hget.symm)
  · intro h
    exact ⟨get c, h, rfl⟩

/-- The member `m` is the field of `c`, written under its canonical key. -/
structure Field.Writes (f : Field σ) (c : σ) (m : Bytes × Json) : Prop where
  key     : m.1 = f.key
  conv    : f.conv m.2 = .ok (f.get c)
  becomes : f.becomes (f.get c) (f.get c)

/-- **A field is read from the member with its canonical key**, whatever else the object has. -/
theorem Field.Writes.reads {members : List (Bytes × Json)} {m : Bytes × Json} (h : f.Writes c m)
    (hnodup : (members.map Prod.fst).Nodup) (hmem : m ∈ members) : f.Reads (.object members) d c := by
  have hlookup : members.lookup m.1 = some m.2 := by
    induction members with
    | nil => simp at hmem
    | cons m' ms ih =>
        rw [List.map_cons, List.nodup_cons] at hnodup
        rw [List.lookup_cons]
        rcases List.mem_cons.mp hmem with rfl | hlater
        · simp
        · -- an earlier member with this key would repeat it
          have hne : m.1 ≠ m'.1 := by
            intro heq
            exact hnodup.1 (List.mem_map.mpr ⟨_, hlater, heq⟩)
          rw [beq_false_of_ne hne]
          exact ih hnodup.2 hlater
  have hsetting : setting (.object members) f.key f.fallback = some m.2 := by
    unfold setting
    rw [← h.key, show member (.object members) m.1 = some m.2 from hlookup, Option.some_or]
  unfold Field.Reads
  rw [hsetting]
  exact ⟨_, h.conv, h.becomes⟩

/-- An object that lists the fields of a table in order is read back. -/
theorem reads_of_forall₂ {fields : List (Field σ)} {members : List (Bytes × Json)}
    (h : List.Forall₂ (fun f m => f.Writes c m) fields members) (hnodup : (members.map Prod.fst).Nodup) :
    ∀ f ∈ fields, f.Reads (.object members) d c := by
  have hwritten : ∀ f ∈ fields, ∃ m ∈ members, f.Writes c m := by
    clear hnodup
    induction h with
    | nil => simp
    | cons hm _ ih =>
        rw [List.forall_mem_cons]
        refine ⟨⟨_, List.mem_cons_self, hm⟩, fun f hf => ?_⟩
        obtain ⟨m, hmem, hm⟩ := ih f hf
        exact ⟨m, List.mem_cons_of_mem _ hmem, hm⟩
  intro f hf
  obtain ⟨m, hmem, hm⟩ := hwritten f hf
  exact hm.reads hnodup hmem

end Field

/-! ## `from_json` -/

variable {j : Json}

/-- **`from_json` is the reading of all fields.** -/
theorem ClientConfig.fromJson_iff {c d : ClientConfig} :
    ClientConfig.fromJson j d = .ok c ↔ ∀ f ∈ ClientConfig.fields, f.Reads j d c := by
  simp only [ClientConfig.fields, List.forall_mem_cons, List.not_mem_nil, IsEmpty.forall_iff, implies_true,
    and_true, reads_plain]
  unfold ClientConfig.fromJson
  simp only [bind_eq_ok_iff, pure, Except.pure, Except.ok.injEq]
  constructor
  · rintro ⟨_, h1, _, h2, _, h3, _, h4, _, h5, _, h6, _, h7, _, h8, _, h9, _, h10, _, h11, _, h12, _, h13, rfl⟩
    exact ⟨h1, h2, h3, h4, h5, h6, h7, h8, h9, h10, h11, h12, h13⟩
  · rintro ⟨h1, h2, h3, h4, h5, h6, h7, h8, h9, h10, h11, h12, h13⟩
    exact ⟨_, h1, _, h2, _, h3, _, h4, _, h5, _, h6, _, h7, _, h8, _, h9, _, h10, _, h11, _, h12, _, h13, rfl⟩

theorem ServerConfig.fromJson_iff {c d : ServerConfig} :
    ServerConfig.fromJson j d = .ok c ↔ ∀ f ∈ ServerConfig.fields, f.Reads j d c := by
  simp only [ServerConfig.fields, List.forall_mem_cons, List.not_mem_nil, IsEmpty.forall_iff, implies_true,
    and_true, reads_plain]
  rw [reads_iff]
  unfold ServerConfig.fromJson
  simp only [bind_eq_ok_iff, pure, Except.pure, Except.ok.injEq]
  constructor
  · rintro ⟨_, h1, _, h2, _, h3, _, h4, _, h5, _, h6, x, h7, _, h8, _, h9, _, h10, _, h11, _, h12, _, h13, _, h14,
      _, h15, rfl⟩
    exact ⟨h1, h2, h3, h4, h5, h6, ⟨x, h7, stripCidr_eq_iff.mp rfl⟩, h8, h9, h10, h11, h12, h13, h14, h15⟩
  · rintro ⟨h1, h2, h3, h4, h5, h6, ⟨x, h7, hcut⟩, h8, h9, h10, h11, h12, h13, h14, h15⟩
    refine ⟨_, h1, _, h2, _, h3, _, h4, _, h5, _, h6, x, h7, _, h8, _, h9, _, h10, _, h11, _, h12, _, h13, _, h14,
      _, h15, ?_⟩
    rw [show stripCidr x = c.tunSubnet from stripCidr_eq_iff.mpr hcut]

/-- **Every field of a configuration is in its table.** -/
theorem ClientConfig.eq_of_fields {c c' : ClientConfig} (h : ∀ f ∈ ClientConfig.fields, f.get c = f.get c') :
    c = c' := by
  simp only [ClientConfig.fields, List.forall_mem_cons, Field.plain] at h
  cases c
  cases c'
  simp_all

theorem ServerConfig.eq_of_fields {c c' : ServerConfig} (h : ∀ f ∈ ServerConfig.fields, f.get c = f.get c') :
    c = c' := by
  simp only [ServerConfig.fields, List.forall_mem_cons, Field.plain] at h
  cases c
  cases c'
  simp_all

/-! ## Round trips -/

theorem getUInt16_toUInt64 (n : UInt16) : getUInt16 (.numberUnsigned n.toUInt64) = .ok n := by
  simp [getUInt16]

theorem getUInt32_toUInt64 (n : UInt32) : Json.getUInt32 (.numberUnsigned n.toUInt64) = .ok n := by
  simp [Json.getUInt32]

/-- **Reading back a written configuration.** -/
theorem ClientConfig.fromJson_toJson (c d : ClientConfig) : ClientConfig.fromJson c.toJson d = .ok c := by
  have hnodup : (ClientConfig.fields.map Field.key).Nodup := by decide +kernel
  refine ClientConfig.fromJson_iff.mpr (reads_of_forall₂ ?_ hnodup)
  exact .cons ⟨rfl, rfl, rfl⟩ <|                        -- server_host
    .cons ⟨rfl, getUInt16_toUInt64 _, rfl⟩ <|           -- server_port
    .cons ⟨rfl, rfl, rfl⟩ <|                            -- ws_path
    .cons ⟨rfl, rfl, rfl⟩ <|                            -- tls_enabled
    .cons ⟨rfl, rfl, rfl⟩ <|                            -- sni_override
    .cons ⟨rfl, rfl, rfl⟩ <|                            -- auth_user
    .cons ⟨rfl, rfl, rfl⟩ <|                            -- auth_token
    .cons ⟨rfl, getUInt32_toUInt64 _, rfl⟩ <|           -- mtu
    .cons ⟨rfl, rfl, rfl⟩ <|                            -- auto_route
    .cons ⟨rfl, rfl, rfl⟩ <|                            -- dns_server
    .cons ⟨rfl, rfl, rfl⟩ <|                            -- transport
    .cons ⟨rfl, getUInt32_toUInt64 _, rfl⟩ <|           -- keepalive_sec
    .cons ⟨rfl, rfl, rfl⟩ .nil                          -- log_level

theorem ServerConfig.fromJson_toJson (c d : ServerConfig) (hslash : 47 ∉ c.tunSubnet) :
    ServerConfig.fromJson c.toJson d = .ok c := by
  have hnodup : (ServerConfig.fields.map Field.key).Nodup := by decide +kernel
  refine ServerConfig.fromJson_iff.mpr (reads_of_forall₂ ?_ hnodup)
  exact .cons ⟨rfl, rfl, rfl⟩ <|                        -- listen_addr
    .cons ⟨rfl, getUInt16_toUInt64 _, rfl⟩ <|           -- listen_port
    .cons ⟨rfl, rfl, rfl⟩ <|                            -- ws_path
    .cons ⟨rfl, rfl, rfl⟩ <|                            -- tls_enabled
    .cons ⟨rfl, rfl, rfl⟩ <|                            -- tls_cert_path
    .cons ⟨rfl, rfl, rfl⟩ <|                            -- tls_key_path
    .cons ⟨rfl, rfl, ⟨hslash, Or.inl rfl⟩⟩ <|           -- tun_subnet
    .cons ⟨rfl, rfl, rfl⟩ <|                            -- tun_mask
    .cons ⟨rfl, rfl, rfl⟩ <|                            -- tun_server_ip
    .cons ⟨rfl, getUInt32_toUInt64 _, rfl⟩ <|           -- mtu
    .cons ⟨rfl, rfl, rfl⟩ <|                            -- auth_secret
    .cons ⟨rfl, getUInt32_toUInt64 _, rfl⟩ <|           -- max_clients
    .cons ⟨rfl, getUInt32_toUInt64 _, rfl⟩ <|           -- keepalive_sec
    .cons ⟨rfl, getUInt32_toUInt64 _, rfl⟩ <|           -- session_timeout_sec
    .cons ⟨rfl, rfl, rfl⟩ .nil                          -- log_level

/-! ## Normal form -/

/-- The subnet of an accepted configuration has been cut. -/
theorem ServerConfig.tunSubnet_cut {c d : ServerConfig} (h : ServerConfig.fromJson j d = .ok c) :
    47 ∉ c.tunSubnet := by
  have hreads : Field.Reads ⟨Json.getString, ascii "tun_subnet", none, ServerConfig.tunSubnet, BeforeSlash,
      BeforeSlash.unique⟩ j d c := ServerConfig.fromJson_iff.mp h _ (by simp [ServerConfig.fields])
  obtain ⟨x, -, hcut⟩ := reads_iff.mp hreads
  exact hcut.1

/-- **No other key has a say in a field**: values that set it alike give it the same value. -/
theorem Field.Reads.congr {σ : Type} {f : Field σ} {j' : Json} {c c' d : σ} (h : f.Reads j d c)
    (h' : f.Reads j' d c') (hsetting : setting j f.key f.fallback = setting j' f.key f.fallback) :
    f.get c = f.get c' := by
  unfold Field.Reads at h h'
  rw [hsetting] at h
  cases hs : setting j' f.key f.fallback with
  | none =>
      simp only [hs] at h h'
      exact f.unique h h'
  | some v =>
      simp only [hs] at h h'
      obtain ⟨x, hx, hget⟩ := h
      obtain ⟨y, hy, hget'⟩ := h'
      obtain rfl : x = y := Except.ok.inj (hx.symm.trans hy)
      exact f.unique hget hget'

/-- **Round trip and normal form.** A configuration is read back as it was written, a `ServerConfig` if its
    `tun_subnet` has no `/`. Every field of an accepted configuration is read from its canonical key, else
    from its alias, else it is the default, of which `tun_subnet` keeps what is before the first `/`; and what was
    accepted is read back from its own JSON form. -/
theorem config_normal_form :
    (∀ c : ClientConfig, ClientConfig.fromJson c.toJson {} = .ok c) ∧
    (∀ c : ServerConfig, 47 ∉ c.tunSubnet → ServerConfig.fromJson c.toJson {} = .ok c) ∧
    (∀ j c, ClientConfig.fromJson j {} = .ok c →
      (∀ f ∈ ClientConfig.fields, f.Reads j {} c) ∧ ClientConfig.fromJson c.toJson {} = .ok c) ∧
    (∀ j c, ServerConfig.fromJson j {} = .ok c →
      (∀ f ∈ ServerConfig.fields, f.Reads j {} c) ∧ ServerConfig.fromJson c.toJson {} = .ok c) ∧
    (∀ c c' : ClientConfig, (∀ f ∈ ClientConfig.fields, f.get c = f.get c') → c = c') ∧
    ∀ c c' : ServerConfig, (∀ f ∈ ServerConfig.fields, f.get c = f.get c') → c = c' := by
  refine ⟨fun c => c.fromJson_toJson {}, fun c => c.fromJson_toJson {}, ?_, ?_, fun _ _ => ClientConfig.eq_of_fields,
    fun _ _ => ServerConfig.eq_of_fields⟩
  · intro j c h
    exact ⟨ClientConfig.fromJson_iff.mp h, c.fromJson_toJson {}⟩
  · intro j c h
    exact ⟨ServerConfig.fromJson_iff.mp h, c.fromJson_toJson {} (ServerConfig.tunSubnet_cut h)⟩

/-- A file with an alias, a key of the other format and a subnet in CIDR notation. -/
theorem config_normal_form_partial :
    ∃ c, ServerConfig.fromJson (.object [(ascii "tun_subnet", .string (ascii "10.9.0.0/24")),
        (ascii "auth_token", .string (ascii "secret")), (ascii "auth_user", .numberUnsigned 5)]) {} = .ok c ∧
      c.tunSubnet = ascii "10.9.0.0" ∧ c.authSecret = ascii "secret" ∧
      ServerConfig.fromJson c.toJson {} = .ok c ∧
      ServerConfig.fromJson (ServerConfig.toJson {}) {} = .ok {} ∧
      ClientConfig.fromJson (ClientConfig.toJson {}) {} = .ok {} := by
  have haccepted : ServerConfig.fromJson (.object [(ascii "tun_subnet", .string (ascii "10.9.0.0/24")),
      (ascii "auth_token", .string (ascii "secret")), (ascii "auth_user", .numberUnsigned 5)]) {} =
        .ok { tunSubnet := ascii "10.9.0.0", authSecret := ascii "secret" } := by decide +kernel
  exact ⟨_, haccepted, rfl, rfl, (config_normal_form.2.2.2.1 _ _ haccepted).2,
    config_normal_form.2.1 {} (by decide), (config_normal_form.2.2.1 _ _ (config_normal_form.1 {})).2⟩

end Config
end Kirdi
