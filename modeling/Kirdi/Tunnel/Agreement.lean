import Kirdi.Server.Tenure
import Kirdi.Tunnel.Fidelity

/-!
# `Tunnel.Agreement` — client and server agree on a login

The client writes its user, token and time into a JSON object that the server reads, and the server writes
the settings of the tunnel into one that the client reads. Each side names the fields for itself, and takes a
default for a field that it does not find, so a mismatch would go unnoticed. They match: with a shared secret
the server accepts the client's request, the client opens its TUN device as the server says, and the packets
for its address come to this session (`login_agreement`).

What `json::dump` and `json::parse` do to the two objects is an assumption (`RoundTrips`).
-/

set_option linter.dupNamespace false

namespace Kirdi
namespace Tunnel

open Protocol Crypto EventMachine Proc WrapSearch
open Client (Client Env ClientConfig TunConfig)
open Server (ClientSession Call handlePacket handleAuthRequest authOk authResponse acceptance)

/-- A scalar that was dumped and parsed: a non-negative integer comes back unsigned. -/
def reread : Json → Json
  | .numberInteger i => if 0 ≤ i then .numberUnsigned i.toUInt64 else .numberInteger i
  | j => j

/-- `dump`, then `parse`, gives an object of scalars back, each member under its key. -/
def RoundTrips (deps : Deps) (j : Json) : Prop :=
  ∀ members text, j = .object members → deps.dump j = some text →
    ∃ members', deps.parse text = some (.object members') ∧
      ∀ key, members'.lookup key = (members.lookup key).map reread

/-- `auth_json` of `send_auth`. -/
def authJson (deps : Deps) (config : ClientConfig) (now : Int64) : Json :=
  .object [(ascii "user", .string config.authUser),
    (ascii "token", .string (buildAuthToken deps config.authUser config.authToken now.toUInt64)),
    (ascii "timestamp", .numberInteger now)]

/-- The client after `on_packet` has been called for the packet of a message. -/
def informed (deps : Deps) (env : Env) (c : Client) (message : Bytes) : Client :=
  ((dispatchPacket message (some (Client.onPacket deps env))).getD done).run c

/-- The TUN device is open with these settings. -/
def Opened (c : Client) (config : TunConfig) : Prop :=
  ∃ d, c.tun = some d ∧ d.isOpen = true ∧ d.config = config

/-- What the server has in store for a session. -/
def tunConfigOf (config : Server.ServerConfig) (session : ClientSession) : TunConfig where
  address := session.virtualIp
  peerAddress := config.tunServerIp
  netmask := config.tunMask
  mtu := config.mtu

variable {deps : Deps} {config : ClientConfig} {c : Int64} {hello payload pkt : Bytes} {now : UInt64}
  {session : ClientSession} {env : Env} {client : Client}

/-! ## The request -/

/-- The frame of `send_auth`, and what is dispatched from it. -/
theorem hello_dispatched {β : Type} (cb : PacketHeader → Bytes → β)
    (h : Client.authRequest deps config c = .ok hello) :
    ∃ authStr hdr, deps.dump (authJson deps config c) = some authStr ∧
      MsgType.ofByte hdr.type = some .authRequest ∧ dispatchPacket hello (some cb) = some (cb hdr authStr) := by
  unfold Client.authRequest at h
  simp only at h
  split at h
  · exact absurd h (by simp)
  · rename_i authStr hdump
    obtain ⟨hlen, rfl⟩ := eq_frame_of_buildPacket h
    have hdispatch := dispatchPacket_frame MsgType.authRequest.toByte [] cb hlen
    rw [List.append_nil] at hdispatch
    exact ⟨authStr, _, hdump, by simp, hdispatch⟩

/-- **The server reads what the client wrote.** -/
theorem request_read (hjson : RoundTrips deps (authJson deps config c)) (hclock : 0 ≤ c)
    (hdump : deps.dump (authJson deps config c) = some payload) :
    Server.AuthRequest.decode deps payload =
      some ⟨config.authUser, buildAuthToken deps config.authUser config.authToken c.toUInt64, c.toUInt64⟩ := by
  obtain ⟨members, hparse, hmembers⟩ := hjson _ payload rfl hdump
  have huser : members.lookup (ascii "user") = some (.string config.authUser) := hmembers (ascii "user")
  have htoken : members.lookup (ascii "token") =
      some (.string (buildAuthToken deps config.authUser config.authToken c.toUInt64)) := hmembers (ascii "token")
  have htimestamp : members.lookup (ascii "timestamp") = some (.numberUnsigned c.toUInt64) := by
    rw [hmembers (ascii "timestamp")]
    show some (reread (.numberInteger c)) = _
    exact congrArg some (if_pos hclock)
  unfold Server.AuthRequest.decode
  rw [hparse]
  simp only [Option.bind_some, Server.AuthRequest.read, Json.value, huser, htoken, htimestamp]
  rfl

theorem nonneg_clock (hclock : 30 ≤ c) : 0 ≤ c := Int64.le_trans (by decide) hclock

/-- The timestamp of a client whose clock is past its first half minute: the window around it does not wrap. -/
theorem toNat_clock (hclock : 30 ≤ c) : 30 ≤ c.toUInt64.toNat ∧ c.toUInt64.toNat < 2 ^ 63 := by
  have hint : (30 : Int) ≤ c.toInt := Int64.le_iff_toInt_le.mp hclock
  have hnat : c.toInt = c.toUInt64.toNat := by
    rw [Int64.toNat_toUInt64_of_le (nonneg_clock hclock), Int64.toInt_eq_toNatClampNeg (nonneg_clock hclock)]
  have hlt := c.toInt_lt
  omega

/-- **The server accepts it**, whatever its own clock says. -/
theorem request_accepted (hs : config.authToken ≠ []) (hclock : 30 ≤ c)
    (hjson : RoundTrips deps (authJson deps config c))
    (hdump : deps.dump (authJson deps config c) = some payload) (now : UInt64) :
    authOk deps now config.authToken payload = some true := by
  obtain ⟨hlow, hhigh⟩ := toNat_clock hclock
  have hverified : verifyAuthToken deps config.authUser config.authToken
      (buildAuthToken deps config.authUser config.authToken c.toUInt64) c.toUInt64 30 = some true := by
    have hwindow : (30 : UInt64).toNat = 30 := by decide
    refine (verifyAuthToken_window (by omega) (by omega)).mpr ⟨c.toUInt64, ?_, rfl⟩
    exact ⟨Nat.le_add_right _ _, Nat.le_add_right _ _⟩
  exact (Server.authOk_true_iff hs).mpr
    ⟨_, request_read hjson (nonneg_clock hclock) hdump, Or.inl hverified⟩

/-! ## The response -/

/-- **The client reads what the server wrote.** -/
theorem response_read {respStr : Bytes} (mtu : UInt32) (hjson : RoundTrips deps (acceptance session))
    (hdump : deps.dump (acceptance session) = some respStr) :
    Client.readAuthResponse deps mtu respStr =
      .accepted session.virtualIp
        ⟨session.virtualIp, session.tunInfo.serverIp, session.tunInfo.mask, session.tunInfo.mtu⟩ := by
  obtain ⟨members, hparse, hmembers⟩ := hjson _ respStr rfl hdump
  have hok : members.lookup (ascii "ok") = some (.boolean true) := hmembers (ascii "ok")
  have hip : members.lookup (ascii "tun_ip") = some (.string session.virtualIp) := hmembers (ascii "tun_ip")
  have hserver : members.lookup (ascii "tun_server_ip") = some (.string session.tunInfo.serverIp) :=
    hmembers (ascii "tun_server_ip")
  have hmask : members.lookup (ascii "tun_mask") = some (.string session.tunInfo.mask) :=
    hmembers (ascii "tun_mask")
  have hmtu : members.lookup (ascii "mtu") = some (.numberUnsigned session.tunInfo.mtu.toUInt64) :=
    hmembers (ascii "mtu")
  unfold Client.readAuthResponse
  rw [hparse]
  simp only [Json.value, hok, hip, hserver, hmask, hmtu, Json.getBool, Json.getString, Json.getUInt32,
    UInt32.toUInt32_toUInt64]
  rfl

/-- An accepted login opens a new device with the given settings; routes and DNS leave it alone. -/
theorem onAccepted_opens (htun : env.tunOpens = true) (virtualIp : Bytes) (tunCfg : TunConfig) (client : Client) :
    Opened ((Client.onAccepted env virtualIp tunCfg).run client) tunCfg ∧
      ((Client.onAccepted env virtualIp tunCfg).run client).virtualIp = virtualIp := by
  obtain ⟨h, hsetup⟩ := Client.setup_run env
    ((({ client with virtualIp := virtualIp } : Client).createTun tunCfg).openTun env.interfaceName)
  unfold Client.onAccepted
  rw [htun]
  simp only [Bool.not_true, Bool.false_eq_true, if_false, run_andThen, run_atom]
  rw [hsetup]
  exact ⟨⟨_, rfl, rfl, rfl⟩, rfl⟩

/-- **The client opens its TUN device accordingly**, in whatever state it is. -/
theorem response_opens (hresp : authResponse deps session true = .ok pkt)
    (hjson : RoundTrips deps (acceptance session)) (client : Client) (htun : env.tunOpens = true) :
    Opened (informed deps env client pkt)
        ⟨session.virtualIp, session.tunInfo.serverIp, session.tunInfo.mask, session.tunInfo.mtu⟩ ∧
      (informed deps env client pkt).virtualIp = session.virtualIp := by
  cases hdump : deps.dump (acceptance session) with
  | none =>
      unfold authResponse at hresp
      rw [if_pos rfl, hdump] at hresp
      exact absurd hresp (by simp)
  | some respStr =>
      rw [Server.authResponse_accepted hdump] at hresp
      obtain ⟨hlen, rfl⟩ := eq_frame_of_buildPacket hresp
      have hdispatch := dispatchPacket_frame MsgType.authResponse.toByte [] (Client.onPacket deps env) hlen
      rw [List.append_nil] at hdispatch
      have hpacket : Client.onPacket deps env ⟨MsgType.authResponse.toByte, UInt32.ofNat respStr.length⟩ respStr =
          Client.onAuthResponse deps env respStr := rfl
      have hrun : informed deps env client (frame MsgType.authResponse.toByte respStr) =
          (Client.onAccepted env session.virtualIp
            ⟨session.virtualIp, session.tunInfo.serverIp, session.tunInfo.mask, session.tunInfo.mtu⟩).run client := by
        unfold informed
        rw [hdispatch, Option.getD_some, hpacket]
        rw [Client.onAuthResponse_run, response_read client.config.mtu hjson hdump]
        rfl
      rw [hrun]
      exact onAccepted_opens htun _ _ client

/-! ## The agreement -/

/-- **Client and server agree on a login.** With a shared secret, the frame of `send_auth` authenticates the
    session at any server time; what the session sends in answer makes the client open its TUN device with
    the session's address and the server's settings; and from then on every IPv4 packet for that address goes
    to this session, until one of its `AuthRequest`s is refused. -/
theorem login_agreement {serverConfig : Server.ServerConfig} {es : List Server.Event} {s : Server.Server}
    {sid : UInt32} (hs : serverConfig.authSecret ≠ []) (hshared : config.authToken = serverConfig.authSecret)
    (hclock : 30 ≤ c) (hhello : Client.authRequest deps config c = .ok hello)
    (hrequest : RoundTrips deps (authJson deps config c)) (hresponse : RoundTrips deps (acceptance session))
    (hrun : run (Server.step deps) (Server.Server.init serverConfig) es = some s)
    (hsession : s.sessions sid = some session) (now : UInt64) :
    ∃ hdr payload, dispatchPacket hello (some Prod.mk) = some (hdr, payload) ∧
      (handlePacket deps now session hdr payload).session = { session with authenticated := true } ∧
      (Server.Answerable deps session → ∃ pkt, (handlePacket deps now session hdr payload).calls = [.send pkt]) ∧
      (∀ pkt, Call.send pkt ∈ (handlePacket deps now session hdr payload).calls →
        ∀ env client, env.tunOpens = true →
          Opened (informed deps env client pkt) (tunConfigOf serverConfig session) ∧
            (informed deps env client pkt).virtualIp = session.virtualIp) ∧
      ∀ m fs s', Server.step deps s (.frame sid now hdr payload) = some m → run (Server.step deps) m fs = some s' →
        Along (Server.step deps) (Server.Unrefused deps sid) m fs → Server.accepts (es ++ fs) ≤ 2 ^ 32 →
          ∀ data, Server.Ipv4For session.virtualIp data → Server.Delivers s' sid data := by
  obtain ⟨authStr, hdr, hdump, hty, hdispatch⟩ := hello_dispatched Prod.mk hhello
  obtain ⟨-, htun, hsecret⟩ := (Server.furnished_of_run hrun).sessions sid session hsession
  have hok : authOk deps now session.authSecret authStr = some true := by
    rw [hsecret, ← hshared]
    exact request_accepted (by rw [hshared]; exact hs) hclock hrequest hdump now
  have hpacket : handlePacket deps now session hdr authStr = handleAuthRequest deps now session authStr :=
    Server.handlePacket_authRequest hty
  have hflag : (handlePacket deps now session hdr authStr).session = { session with authenticated := true } := by
    obtain ⟨b, hb⟩ := Server.handlePacket_fields deps now session hdr authStr
    have hset := (Server.handleAuthRequest_authenticated hok).1
    rw [← hpacket, hb] at hset
    rw [hb, show b = true from hset]
  refine ⟨hdr, authStr, hdispatch, hflag, ?_, ?_, ?_⟩
  · -- the answer of the session
    rintro ⟨text, htext, hfits⟩
    have hresp : authResponse deps { session with authenticated := true } true =
        .ok (frame MsgType.authResponse.toByte text) := by
      have hdump : deps.dump (acceptance { session with authenticated := true }) = some text := htext
      rw [Server.authResponse_accepted hdump]
      exact buildPacket_ok _ hfits
    refine ⟨frame MsgType.authResponse.toByte text, ?_⟩
    rw [hpacket, Server.handleAuthRequest_answered hok hresp]
    rfl
  · -- what the client makes of it
    intro pkt hsend env client hopens
    rw [hpacket] at hsend
    rcases Server.handleAuthRequest_calls deps now session authStr with hnone | ⟨ok, pkt', hok', hresp, hcalls⟩
    · rw [hnone] at hsend
      exact absurd hsend List.not_mem_nil
    · obtain rfl : true = ok := Option.some.inj (hok.symm.trans hok')
      rw [hcalls] at hsend
      obtain rfl : pkt = pkt' := Call.send.inj (List.mem_singleton.mp hsend)
      have hopened := response_opens hresp hresponse client hopens
      rw [htun] at hopened
      exact hopened
  · -- the session keeps its address, and the table leads to it
    intro m fs s' hstep hrest hspares haccepts data hdata
    obtain ⟨session', hsession', hm⟩ := Server.onFrame_cases (Server.step_handle hstep)
    obtain rfl : session = session' := Option.some.inj (hsession.symm.trans hsession')
    have hkept : Server.Kept sid session m := by
      unfold Server.Kept
      rw [hm, ← hflag]
      exact Function.update_self sid _ s.sessions
    have hlogin := run_snoc.mpr ⟨s, hrun, hstep⟩
    have hcount : Server.accepts ((es ++ [.frame sid now hdr authStr]) ++ fs) ≤ 2 ^ 32 := by
      rw [Server.accepts_append] at haccepts
      rw [Server.accepts_append, Server.accepts_append]
      exact haccepts
    have hlast := Server.kept_of_run hlogin hkept hrest hspares hcount
    exact hlast.delivers (Server.addressed_of_run (run_append.mpr ⟨m, hlogin, hrest⟩)) hdata

/-! ## A login -/

/-- What the parser makes of the request of the sample client. -/
def helloReread : Json :=
  .object [(ascii "user", .string (ascii "kirdi")),
    (ascii "token", .string (buildAuthToken (Deps.table []) (ascii "kirdi") (ascii "secret") 1000)),
    (ascii "timestamp", .numberUnsigned 1000)]

def agreeDeps : Deps := Deps.table [(helloText, helloReread), (acceptanceText, acceptance Server.sampleSession)]

theorem lookup_reread (members : List (Bytes × Json)) (key : Bytes) :
    (members.map fun m => (m.1, reread m.2)).lookup key = (members.lookup key).map reread := by
  induction members with
  | nil => rfl
  | cons m ms ih =>
      rw [List.map_cons, List.lookup_cons, List.lookup_cons, ih]
      cases key == m.1 <;> rfl

/-- A parser that gives back every member, reread, in the same order. -/
theorem roundTrips_of_parse {members : List (Bytes × Json)} (text : Bytes)
    (hdump : deps.dump (.object members) = some text)
    (hparse : deps.parse text = some (.object (members.map fun m => (m.1, reread m.2)))) :
    RoundTrips deps (.object members) := by
  rintro members' text' ⟨⟩ hdump'
  obtain rfl := Option.some.inj (hdump.symm.trans hdump')
  exact ⟨_, hparse, lookup_reread members⟩

/-- The sample client logs in at a server with another clock, and a packet comes to it. -/
theorem login_agreement_sample :
    ∃ s m hdr payload pkt,
      run (Server.step agreeDeps) (Server.Server.init Server.plainConfig) Server.connectEvents = some s ∧
      dispatchPacket sampleHello (some Prod.mk) = some (hdr, payload) ∧
      Server.step agreeDeps s (.frame 1 5000 hdr payload) = some m ∧
      (handlePacket agreeDeps 5000 Server.sampleSession hdr payload).calls = [.send pkt] ∧
      Opened (informed agreeDeps Client.sampleEnv onlineClient pkt)
        ⟨ascii "10.8.0.2", ascii "10.8.0.1", ascii "255.255.255.0", 1400⟩ ∧
      Server.Delivers m 1 samplePacket := by
  have hconnect : (run (Server.step agreeDeps) (Server.Server.init Server.plainConfig) Server.connectEvents).any
      (fun s => s.sessions 1 = some Server.sampleSession ∧ s.stuck = [] ∧ s.ended = false) = true := by
    decide +kernel
  obtain ⟨s, hs, hfacts⟩ := Option.any_eq_true _ _ |>.mp hconnect
  obtain ⟨hsession, hstuck, hended⟩ := of_decide_eq_true hfacts
  have hhello : Client.authRequest agreeDeps Client.sampleConfig 1000 = .ok sampleHello := by decide +kernel
  have hrequest : RoundTrips agreeDeps (authJson agreeDeps Client.sampleConfig 1000) :=
    roundTrips_of_parse helloText rfl rfl
  have hresponse : RoundTrips agreeDeps (acceptance Server.sampleSession) :=
    roundTrips_of_parse acceptanceText rfl rfl
  obtain ⟨hdr, payload, hdispatch, hauth, hanswer, hopen, hroute⟩ := login_agreement (by decide) rfl
    (by decide) hhello hrequest hresponse hs hsession 5000
  obtain ⟨pkt, hcalls⟩ := hanswer ⟨acceptanceText, rfl, by decide +kernel⟩
  obtain ⟨m, hstep, -⟩ := Server.step_frame agreeDeps 5000 hdr payload hended
    (by rw [hstuck]; exact List.not_mem_nil) hsession
  refine ⟨s, m, hdr, payload, pkt, hs, hdispatch, hstep, hcalls, ?_, ?_⟩
  · have hopened := hopen pkt (by rw [hcalls]; exact List.mem_singleton.mpr rfl) Client.sampleEnv onlineClient rfl
    exact hopened.1
  · exact hroute m [] m hstep rfl (along_nil m) (by decide) samplePacket
      ⟨by decide, by decide, by decide, by decide +kernel⟩

end Tunnel
end Kirdi
