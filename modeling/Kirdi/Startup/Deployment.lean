import Kirdi.Startup.ClientMain
import Kirdi.Startup.ServerMain
import Kirdi.Tunnel.Agreement

/-!
# `Startup.Deployment` — from two command lines to a login

A client and a server that their `main`s have started, each with its own arguments and files. What the client
sends in `send_auth` is held against the secret that the file of the server declares: `deployed_login` says when
it is let in, and that the client, told so, opens its TUN device with the settings of that file.
-/

namespace Kirdi
namespace Startup

open Protocol Crypto EventMachine WrapSearch
open Server (ClientSession Call handlePacket Verified LoginReturns)
open Tunnel (RoundTrips authJson informed Opened)

/-- What the client reads of its configuration. -/
def clientConfig (platform : Client.Platform) (c : Config.ClientConfig) : Client.ClientConfig :=
  ⟨platform, c.authUser, c.authToken, c.mtu, c.autoRoute, c.dnsServer⟩

/-- The token that the client builds for time `c` is one for this secret, and for a time within half a minute of
    its own clock or of the server's. -/
def TokenFits (deps : Deps) (config : Client.ClientConfig) (c now : UInt64) (secret : Bytes) : Prop :=
  ∃ t, (Within 30 t c ∨ Within 30 t now) ∧
    buildAuthToken deps config.authUser config.authToken c = buildAuthToken deps config.authUser secret t

variable {deps : Deps} {config : Client.ClientConfig} {payload secret hello : Bytes} {c : Int64} {now : UInt64}
  {platform : Client.Platform} {clientFiles serverFiles : Bytes → Option Bytes} {clientArgs serverArgs : List Bytes}
  {cc : Config.ClientConfig} {sc : Config.ServerConfig} {es : List Server.Event} {s : Server.Server} {sid : UInt32}
  {session : ClientSession}

/-! ## The request at the server -/

/-- A clock in the first half of the range is away from its top. -/
theorem add_window_ne_top {t : UInt64} (h : t.toNat < 2 ^ 63) : t + 30 ≠ top := by
  intro htop
  have hnat := congrArg UInt64.toNat htop
  rw [UInt64.toNat_add, toNat_top, show (30 : UInt64).toNat = 30 from rfl, Nat.mod_eq_of_lt (by omega)] at hnat
  omega

/-- Its login is decided, whatever the secret. -/
theorem returns_of_clocks (hclock : 30 ≤ c) (hnow : now.toNat < 2 ^ 63)
    (hjson : RoundTrips deps (authJson deps config c))
    (hdump : deps.dump (authJson deps config c) = some payload) : LoginReturns deps secret now payload := by
  intro r hr _ htop
  obtain rfl := Option.some.inj
    ((Tunnel.request_read hjson (Tunnel.nonneg_clock hclock) hdump).symm.trans hr)
  rcases htop with htop | htop
  · exact absurd htop (add_window_ne_top (Tunnel.toNat_clock hclock).2)
  · exact absurd htop (add_window_ne_top hnow)

/-- **The client's request is verified under the secrets that its token fits**, if neither clock is at an end of
    its range. -/
theorem verified_iff_fits (hclock : 30 ≤ c) (hnow : 30 ≤ now.toNat ∧ now.toNat < 2 ^ 63)
    (hjson : RoundTrips deps (authJson deps config c))
    (hdump : deps.dump (authJson deps config c) = some payload) :
    Verified deps secret now payload ↔ TokenFits deps config c.toUInt64 now secret := by
  have hread := Tunnel.request_read hjson (Tunnel.nonneg_clock hclock) hdump
  obtain ⟨hlow, hhigh⟩ := Tunnel.toNat_clock hclock
  have hwindow : (30 : UInt64).toNat = 30 := rfl
  -- each of the two loops looks through its window
  have hloop (t : UInt64) (ht : 30 ≤ t.toNat ∧ t.toNat < 2 ^ 63) (user token : Bytes) :
      verifyAuthToken deps user secret token t 30 = some true ↔ BuiltWithin deps user secret token t 30 :=
    verifyAuthToken_window (by omega) (by omega)
  constructor
  · rintro ⟨r, hr, -, hverified⟩
    obtain rfl := Option.some.inj (hread.symm.trans hr)
    rcases hverified with hv | hv
    · obtain ⟨t, ht, htoken⟩ := (hloop _ ⟨hlow, hhigh⟩ _ _).mp hv
      exact ⟨t, Or.inl ht, htoken⟩
    · obtain ⟨t, ht, htoken⟩ := (hloop _ hnow _ _).mp hv
      exact ⟨t, Or.inr ht, htoken⟩
  · rintro ⟨t, ht, htoken⟩
    refine ⟨_, hread, ?_, ?_⟩
    · intro hnil
      have hlen := length_buildAuthToken deps config.authUser config.authToken c.toUInt64
      rw [show buildAuthToken deps config.authUser config.authToken c.toUInt64 = [] from hnil] at hlen
      exact absurd hlen (by decide)
    · rcases ht with ht | ht
      · exact Or.inl ((hloop _ ⟨hlow, hhigh⟩ _ _).mpr ⟨t, ht, htoken⟩)
      · exact Or.inr ((hloop _ hnow _ _).mpr ⟨t, ht, htoken⟩)

/-- **The file admits the client's request** if it declares no secret, or one that the token fits. -/
theorem admits_iff_fits {path : Bytes} (hclock : 30 ≤ c) (hnow : 30 ≤ now.toNat ∧ now.toNat < 2 ^ 63)
    (hjson : RoundTrips deps (authJson deps config c))
    (hdump : deps.dump (authJson deps config c) = some payload) :
    Admits deps serverFiles path now payload ↔ Declares deps serverFiles path [] ∨
      ∃ secret, secret ≠ [] ∧ Declares deps serverFiles path secret ∧ TokenFits deps config c.toUInt64 now secret := by
  have hread := Tunnel.request_read hjson (Tunnel.nonneg_clock hclock) hdump
  unfold Admits
  simp only [verified_iff_fits hclock hnow hjson hdump]
  refine or_congr_left ?_
  constructor
  · rintro ⟨hnone, -⟩
    exact hnone
  · intro hnone
    exact ⟨hnone, _, hread⟩

/-! ## The login -/

/-- The token of a client that `main` has started is not empty. -/
theorem token_of_clientMain (h : clientMain deps clientFiles clientArgs = .ok cc) : cc.authToken ≠ [] := by
  obtain ⟨c', -, hrequired⟩ := clientMain_eq_ok_iff.mp h
  obtain ⟨rfl, -, htoken⟩ := required_eq_ok_iff.mp hrequired
  exact htoken

/-- **A started client at a started server.** At any session of any run of the server, the login is accepted
    exactly when the server's file declares no secret or one that the client's token fits, so in particular when it
    declares the client's token as its secret; and the answer to an accepted login makes the client open its TUN
    device with the session's address and the settings of that file. -/
theorem deployed_login (hclient : clientMain deps clientFiles clientArgs = .ok cc)
    (hserver : serverMain deps serverFiles serverArgs = some sc) (hclock : 30 ≤ c)
    (hnow : 30 ≤ now.toNat ∧ now.toNat < 2 ^ 63)
    (hhello : Client.authRequest deps (clientConfig platform cc) c = .ok hello)
    (hrequest : RoundTrips deps (authJson deps (clientConfig platform cc) c))
    (hresponse : RoundTrips deps (Server.acceptance session))
    (hrun : run (Server.step deps) (Server.Server.init (serverConfig sc)) es = some s)
    (hsession : s.sessions sid = some session) :
    ∃ hdr payload, dispatchPacket hello (some Prod.mk) = some (hdr, payload) ∧
      ((handlePacket deps now session hdr payload).session.authenticated = true ↔
        Declares deps serverFiles (configPath serverArgs) [] ∨ ∃ secret, secret ≠ [] ∧
          Declares deps serverFiles (configPath serverArgs) secret ∧
          TokenFits deps (clientConfig platform cc) c.toUInt64 now secret) ∧
      (Declares deps serverFiles (configPath serverArgs) cc.authToken →
        (handlePacket deps now session hdr payload).session.authenticated = true) ∧
      ∀ pkt, Call.send pkt ∈ (handlePacket deps now session hdr payload).calls →
        (handlePacket deps now session hdr payload).session.authenticated = true →
        ∀ env client, env.tunOpens = true →
          Opened (informed deps env client pkt) ⟨session.virtualIp, sc.tunServerIp, sc.tunMask, sc.mtu⟩ := by
  obtain ⟨authStr, hdr, hdump, hty, hdispatch⟩ := Tunnel.hello_dispatched Prod.mk hhello
  have hfurnished := Server.furnished_of_run hrun
  have hpacket : handlePacket deps now session hdr authStr = Server.handleAuthRequest deps now session authStr :=
    Server.handlePacket_authRequest hty
  have hdecided : Decided deps s (.frame sid now hdr authStr) := by
    rintro sid' now' hdr' payload' ⟨⟩ - -
    exact returns_of_clocks hclock hnow.2 hrequest hdump
  have hflag : (handlePacket deps now session hdr authStr).session.authenticated = true ↔
      Declares deps serverFiles (configPath serverArgs) [] ∨ ∃ secret, secret ≠ [] ∧
        Declares deps serverFiles (configPath serverArgs) secret ∧
        TokenFits deps (clientConfig platform cc) c.toUInt64 now secret := by
    rw [hpacket, flag_iff_admits hserver hfurnished hdecided hty hsession]
    exact admits_iff_fits hclock hnow hrequest hdump
  refine ⟨hdr, authStr, hdispatch, hflag, fun hshared => hflag.mpr (Or.inr ?_), ?_⟩
  · -- the token was built with the secret itself, for the client's own time
    exact ⟨cc.authToken, token_of_clientMain hclient, hshared, c.toUInt64,
      Or.inl ⟨Nat.le_add_right _ _, Nat.le_add_right _ _⟩, rfl⟩
  · intro pkt hsend hauth env client hopens
    rw [hpacket] at hsend hauth
    obtain ⟨-, htun, -⟩ := hfurnished.sessions sid session hsession
    rcases Server.handleAuthRequest_calls deps now session authStr with hnone | ⟨ok, pkt', hok, hresp, hcalls⟩
    · rw [hnone] at hsend
      exact absurd hsend List.not_mem_nil
    · obtain rfl : ok = true := (Server.handleAuthRequest_authenticated hok).1.symm.trans hauth
      rw [hcalls] at hsend
      obtain rfl : pkt = pkt' := Call.send.inj (List.mem_singleton.mp hsend)
      have hopened := (Tunnel.response_opens hresp hresponse client hopens).1
      rw [htun] at hopened
      exact hopened

/-! ## A shared secret -/

def sharedText : Bytes := ascii "\x7b\"auth_secret\": \"secret\"\x7d"

def sharedFile (path : Bytes) : Option Bytes :=
  if path = ascii "/etc/kirdi/server.json" then some sharedText else none

def sharedDeps : Deps :=
  Deps.table [(sharedText, .object [(ascii "auth_secret", .string (ascii "secret"))]),
    (Tunnel.helloText, Tunnel.helloReread), (Tunnel.acceptanceText, Server.acceptance Server.sampleSession)]

def sharedArgs : List Bytes := [ascii "--host", ascii "vpn.example", ascii "--token", ascii "secret"]

/-- The client is let in by a server with another clock, and opens its device. -/
theorem deployed_login_shared :
    ∃ cc s hdr payload pkt, clientMain sharedDeps sharedFile sharedArgs = .ok cc ∧
      run (Server.step sharedDeps) (Server.Server.init (serverConfig { authSecret := ascii "secret" }))
        Server.connectEvents = some s ∧
      dispatchPacket Tunnel.sampleHello (some Prod.mk) = some (hdr, payload) ∧
      (handlePacket sharedDeps 5000 Server.sampleSession hdr payload).session.authenticated = true ∧
      (handlePacket sharedDeps 5000 Server.sampleSession hdr payload).calls = [.send pkt] ∧
      Opened (informed sharedDeps Client.sampleEnv Tunnel.onlineClient pkt)
        ⟨ascii "10.8.0.2", ascii "10.8.0.1", ascii "255.255.255.0", 1400⟩ := by
  have hclient : clientMain sharedDeps sharedFile sharedArgs =
      .ok { serverHost := ascii "vpn.example", authToken := ascii "secret" } := by decide +kernel
  have hserver : serverMain sharedDeps sharedFile [] = some { authSecret := ascii "secret" } := by decide +kernel
  have hconnect : (run (Server.step sharedDeps)
      (Server.Server.init (serverConfig { authSecret := ascii "secret" })) Server.connectEvents).any
      (fun s => s.sessions 1 = some Server.sampleSession) = true := by decide +kernel
  obtain ⟨s, hs, hfound⟩ := Option.any_eq_true _ _ |>.mp hconnect
  have hsession : s.sessions 1 = some Server.sampleSession := of_decide_eq_true hfound
  have hhello : Client.authRequest sharedDeps
      (clientConfig .linux { serverHost := ascii "vpn.example", authToken := ascii "secret" }) 1000
        = .ok Tunnel.sampleHello := by decide +kernel
  have hrequest : RoundTrips sharedDeps (authJson sharedDeps
      (clientConfig .linux { serverHost := ascii "vpn.example", authToken := ascii "secret" }) 1000) :=
    Tunnel.roundTrips_of_parse Tunnel.helloText rfl rfl
  have hresponse : RoundTrips sharedDeps (Server.acceptance Server.sampleSession) :=
    Tunnel.roundTrips_of_parse Tunnel.acceptanceText rfl rfl
  obtain ⟨hdr, payload, hdispatch, -, hshared, hopens⟩ :=
    @deployed_login sharedDeps Tunnel.sampleHello 1000 5000 .linux sharedFile sharedFile sharedArgs []
      _ _ _ s 1 Server.sampleSession hclient hserver (by decide) (by decide) hhello hrequest hresponse hs hsession
  have hauth := hshared ((declares_iff hserver).mpr rfl)
  obtain ⟨pkt, hcalls⟩ : ∃ pkt, (handlePacket sharedDeps 5000 Server.sampleSession hdr payload).calls = [.send pkt] := by
    -- the answer fits in a packet
    have hheader : dispatchPacket Tunnel.sampleHello (some Prod.mk) =
        some (Server.authHeader Tunnel.helloText, Tunnel.helloText) := by decide +kernel
    obtain ⟨rfl, rfl⟩ := Prod.mk.inj (Option.some.inj (hheader.symm.trans hdispatch))
    have hok : Server.authOk sharedDeps 5000 Server.sampleSession.authSecret Tunnel.helloText = some true :=
      Tunnel.request_accepted (show ascii "secret" ≠ [] by decide) (by decide) hrequest rfl 5000
    have hresp : Server.authResponse sharedDeps { Server.sampleSession with authenticated := true } true =
        .ok (frame MsgType.authResponse.toByte Tunnel.acceptanceText) := by decide +kernel
    rw [Server.handlePacket_authHeader, Server.handleAuthRequest_answered hok hresp]
    exact ⟨_, rfl⟩
  exact ⟨_, s, hdr, payload, pkt, hclient, hs, hdispatch, hauth, hcalls,
    hopens pkt (by rw [hcalls]; exact List.mem_singleton.mpr rfl) hauth _ _ rfl⟩

end Startup
end Kirdi
