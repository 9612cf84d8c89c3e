import Kirdi.Common.Config
import Kirdi.Server.Tenure

/-!
# `Startup.ServerMain` — from the configuration file to the gate

Embeds `main` of `server/main.cpp`: the configuration is that of the file, or the default with the secret
`CHANGE_ME` when the file cannot be loaded, and the server runs with it. So whether a login is asked for anything
is decided in the file. `startup_gated` says who is let in, over every run of the server that `main` starts:
anyone whose request can be read, if the file is a configuration without a secret; otherwise those with a token
for the secret of the file, or for `CHANGE_ME`.
-/

namespace Kirdi
namespace Startup

open Protocol Server EventMachine

/-! ## The model -/

/-- `config_path`. -/
def configPath (args : List Bytes) : Bytes := args.head?.getD (ascii "/etc/kirdi/server.json")

/-- `main` of the server, with the arguments after `argv[0]`: the configuration of the server that it runs; `none`
    after `--help`. -/
def serverMain (deps : Deps) (files : Bytes → Option Bytes) (args : List Bytes) : Option Config.ServerConfig :=
  if args.head? = some (ascii "--help") ∨ args.head? = some (ascii "-h") then none
  else
    match Config.parseServerConfig deps files (configPath args) with
    | some config => some config
    | none => some { authSecret := ascii "CHANGE_ME" }

/-- What the server reads of its configuration. -/
def serverConfig (c : Config.ServerConfig) : ServerConfig :=
  ⟨c.tunSubnet, c.tunServerIp, c.tunMask, c.mtu, c.authSecret, c.tlsEnabled⟩

/-! ## What is asked of a login -/

/-- The file holds a configuration, with the value `j`. -/
def Loads (deps : Deps) (files : Bytes → Option Bytes) (path : Bytes) (j : Json) : Prop :=
  ∃ text, files path = some text ∧ deps.parse text = some j ∧ ∃ c, Config.ServerConfig.fromJson j {} = .ok c

/-- The secret that a file gives the server: the one it sets, under either of its names, and none if it sets none;
    without a configuration `CHANGE_ME`. -/
def Declares (deps : Deps) (files : Bytes → Option Bytes) (path secret : Bytes) : Prop :=
  (∃ j, Loads deps files path j ∧
    match Config.setting j (ascii "auth_secret") (some (ascii "auth_token")) with
    | some v => v = .string secret
    | none => secret = []) ∨
  ((∀ j, ¬ Loads deps files path j) ∧ secret = ascii "CHANGE_ME")

/-- The request is let in by a server with this file: its payload can be read, and its token is verified if the
    file gives a secret. -/
def Admits (deps : Deps) (files : Bytes → Option Bytes) (path : Bytes) (now : UInt64) (payload : Bytes) : Prop :=
  (Declares deps files path [] ∧ ∃ r, AuthRequest.decode deps payload = some r) ∨
  ∃ secret, secret ≠ [] ∧ Declares deps files path secret ∧ Verified deps secret now payload

/-- The token loops of the requests come to an end. -/
def Decided (deps : Deps) (s : Server) (e : Event) : Prop :=
  ∀ sid now hdr payload, e = .frame sid now hdr payload → MsgType.ofByte hdr.type = some .authRequest →
    s.config.authSecret ≠ [] → LoginReturns deps s.config.authSecret now payload

variable {deps : Deps} {files : Bytes → Option Bytes} {args : List Bytes} {path secret payload : Bytes}
  {c : Config.ServerConfig} {config : ServerConfig} {s s' : Server} {e : Event} {es : List Event} {sid : UInt32}
  {session session' : ClientSession} {now : UInt64} {hdr : PacketHeader}

/-! ## The secret of a start -/

/-- The secret of a configuration that is read from `j`. -/
theorem authSecret_of_fromJson {j : Json} (h : Config.ServerConfig.fromJson j {} = .ok c) :
    match Config.setting j (ascii "auth_secret") (some (ascii "auth_token")) with
    | some v => v = .string c.authSecret
    | none => c.authSecret = [] := by
  have hreads : (Config.Field.plain Json.getString (ascii "auth_secret") (some (ascii "auth_token"))
      Config.ServerConfig.authSecret).Reads j {} c :=
    Config.ServerConfig.fromJson_iff.mp h _ (by simp [Config.ServerConfig.fields])
  unfold Config.Field.Reads at hreads
  dsimp only [Config.Field.plain] at hreads
  cases hsetting : Config.setting j (ascii "auth_secret") (some (ascii "auth_token")) with
  | none =>
      rw [hsetting] at hreads
      exact hreads
  | some v =>
      rw [hsetting] at hreads
      obtain ⟨x, hx, hsecret⟩ := hreads
      rw [hsecret]
      cases v <;> simp_all [Json.getString]

/-- **The server runs with the secret that its file declares.** -/
theorem declares_iff (h : serverMain deps files args = some c) :
    Declares deps files (configPath args) secret ↔ secret = c.authSecret := by
  obtain ⟨-, hc⟩ := Option.ite_none_left_eq_some.mp h
  cases hparse : Config.parseServerConfig deps files (configPath args) with
  | none =>
      rw [hparse] at hc
      obtain rfl := Option.some.inj hc
      have hnone (j : Json) : ¬ Loads deps files (configPath args) j := by
        rintro ⟨text, htext, hj, c, hread⟩
        have hsome := Config.parseConfig_eq_some_iff.mpr ⟨text, j, htext, hj, hread⟩
        exact absurd (hparse.symm.trans hsome) (by simp)
      constructor
      · rintro (⟨j, hloads, -⟩ | ⟨-, hsecret⟩)
        · exact absurd hloads (hnone j)
        · exact hsecret
      · intro hsecret
        exact Or.inr ⟨hnone, hsecret⟩
  | some c' =>
      rw [hparse] at hc
      obtain rfl : c' = c := Option.some.inj hc
      obtain ⟨text, j, htext, hj, hread⟩ := Config.parseConfig_eq_some_iff.mp hparse
      have hloads : Loads deps files (configPath args) j := ⟨text, htext, hj, c', hread⟩
      have hfound := authSecret_of_fromJson hread
      constructor
      · rintro (⟨j', ⟨text', htext', hj', -⟩, hdeclared⟩ | ⟨hnone, -⟩)
        · obtain rfl : text = text' := Option.some.inj (htext.symm.trans htext')
          obtain rfl : j = j' := Option.some.inj (hj.symm.trans hj')
          cases hsetting : Config.setting j (ascii "auth_secret") (some (ascii "auth_token")) with
          | none =>
              rw [hsetting] at hfound hdeclared
              exact hdeclared.trans hfound.symm
          | some v =>
              rw [hsetting] at hfound hdeclared
              exact Json.string.inj (hdeclared.symm.trans hfound)
        · exact absurd hloads (hnone j)
      · rintro rfl
        exact Or.inl ⟨j, hloads, hfound⟩

/-! ## One request -/

/-- Without a secret a login is accepted when it can be read. -/
theorem authOk_open :
    authOk deps now [] payload = some (AuthRequest.decode deps payload).isSome := by
  unfold authOk authOkWithin
  cases AuthRequest.decode deps payload with
  | none => rfl
  | some r => rfl

theorem authOk_decided (h : secret ≠ [] → LoginReturns deps secret now payload) :
    authOk deps now secret payload ≠ none := by
  by_cases hs : secret = []
  · rw [hs, authOk_open]
    exact Option.some_ne_none _
  · exact (authOk_ne_none_iff hs).mpr (h hs)

/-- With one, a login that is decided is accepted when its token is verified for one of the two times. -/
theorem authOk_iff_verified (hs : secret ≠ []) (hdecided : LoginReturns deps secret now payload) :
    authOk deps now secret payload = some true ↔ Verified deps secret now payload := by
  constructor
  · exact verified_of_authOk hs
  · rintro ⟨r, hdecode, htoken, hverified⟩
    have hok := (authOk_ne_none_iff hs).mpr hdecided
    rw [authOk_decoded hs hdecode htoken] at hok ⊢
    cases hfirst : Crypto.verifyAuthToken deps r.user secret r.token r.timestamp 30 with
    | none => exact absurd (by rw [hfirst]) hok
    | some b =>
        cases b with
        | true => rfl
        | false =>
            rcases hverified with hv | hv
            · exact absurd (hfirst.symm.trans hv) (by simp)
            · exact hv

/-- **A login that is decided is accepted exactly when the file admits it.** -/
theorem authOk_iff_admits (h : serverMain deps files args = some c)
    (hdecided : c.authSecret ≠ [] → LoginReturns deps c.authSecret now payload) :
    authOk deps now c.authSecret payload = some true ↔ Admits deps files (configPath args) now payload := by
  unfold Admits
  simp only [declares_iff h]
  by_cases hs : c.authSecret = []
  · rw [hs, authOk_open, Option.some.injEq, Option.isSome_iff_exists]
    constructor
    · intro hr
      exact Or.inl ⟨rfl, hr⟩
    · rintro (⟨-, hr⟩ | ⟨secret, hne, rfl, -⟩)
      · exact hr
      · exact absurd rfl hne
  · rw [authOk_iff_verified hs (hdecided hs)]
    constructor
    · intro hv
      exact Or.inr ⟨c.authSecret, hs, rfl, hv⟩
    · rintro (⟨hnil, -⟩ | ⟨secret, -, rfl, hv⟩)
      · exact absurd hnil.symm hs
      · exact hv

/-- A request that is decided leaves the flag as the verdict on it. -/
theorem authenticated_iff_accepted (h : authOk deps now session.authSecret payload ≠ none) :
    (handleAuthRequest deps now session payload).session.authenticated = true ↔
      authOk deps now session.authSecret payload = some true := by
  cases hok : authOk deps now session.authSecret payload with
  | none => exact absurd hok h
  | some ok => rw [(handleAuthRequest_authenticated hok).1, Option.some.injEq]

/-! ## Whole runs -/

/-- **A session is authenticated because it was before, or by its request.** -/
theorem authenticated_step (hstep : step deps s e = some s') (hsession : s'.sessions sid = some session')
    (hauth : session'.authenticated = true) :
    (∃ session, s.sessions sid = some session ∧ session.authenticated = true ∧
      ∀ now hdr payload, e = .frame sid now hdr payload → MsgType.ofByte hdr.type ≠ some .authRequest) ∨
    ∃ now hdr payload session, e = .frame sid now hdr payload ∧ MsgType.ofByte hdr.type = some .authRequest ∧
      s.sessions sid = some session ∧ session' = (handleAuthRequest deps now session payload).session := by
  rcases step_tables hstep with ⟨hframe, hsessions, -⟩ | ⟨i, uninit, sid₀, clientIp, rfl, -, rfl⟩ |
    ⟨sid₀, now, hdr, payload, session₀, rfl, hsession₀, hsessions, -⟩
  · rw [hsessions] at hsession
    exact Or.inl ⟨session', hsession, hauth, fun now hdr payload he => absurd he (hframe sid now hdr payload)⟩
  · obtain ⟨new, hnew, -, hauth₀, -⟩ := registerSession_tables
      { s with handshakes := s.handshakes.eraseIdx i } sid₀ clientIp uninit
    rw [hnew] at hsession
    by_cases hsid : sid = sid₀
    · -- a new session is not authenticated
      rw [hsid, Function.update_self] at hsession
      obtain rfl := Option.some.inj hsession
      exact absurd (hauth₀.symm.trans hauth) (by simp)
    · rw [Function.update_of_ne hsid] at hsession
      exact Or.inl ⟨session', hsession, hauth, fun now hdr payload he => absurd he (by simp)⟩
  · rw [hsessions] at hsession
    by_cases hsid : sid = sid₀
    · obtain rfl := hsid
      rw [Function.update_self, handlePacket_session] at hsession
      by_cases hty : MsgType.ofByte hdr.type = some .authRequest
      · rw [if_pos hty] at hsession
        exact Or.inr ⟨now, hdr, payload, session₀, rfl, hty, hsession₀, (Option.some.inj hsession).symm⟩
      · rw [if_neg hty] at hsession
        obtain rfl := Option.some.inj hsession
        refine Or.inl ⟨session₀, hsession₀, hauth, ?_⟩
        rintro now' hdr' payload' he
        cases he
        exact hty
    · rw [Function.update_of_ne hsid] at hsession
      refine Or.inl ⟨session', hsession, hauth, ?_⟩
      rintro now' hdr' payload' he
      cases he
      exact absurd rfl hsid

/-- In a server that `main` started, the flag of a session that handles a request is the verdict of the file. -/
theorem flag_iff_admits (h : serverMain deps files args = some c) (hfurnished : Furnished (serverConfig c) s)
    (hdecided : Decided deps s (.frame sid now hdr payload)) (hty : MsgType.ofByte hdr.type = some .authRequest)
    (hsession : s.sessions sid = some session) :
    (handleAuthRequest deps now session payload).session.authenticated = true ↔
      Admits deps files (configPath args) now payload := by
  have hsecret : session.authSecret = c.authSecret := (hfurnished.sessions sid session hsession).2.2
  have hreturns : c.authSecret ≠ [] → LoginReturns deps c.authSecret now payload := by
    have hconfig := hdecided sid now hdr payload rfl hty
    rw [hfurnished.config_eq] at hconfig
    exact hconfig
  have hok : authOk deps now session.authSecret payload ≠ none := by
    rw [hsecret]
    exact authOk_decided hreturns
  rw [authenticated_iff_accepted hok, hsecret]
  exact authOk_iff_admits h hreturns

/-- The sessions of a run, with what they were last asked. -/
structure Admitted (deps : Deps) (files : Bytes → Option Bytes) (path : Bytes) (config : ServerConfig)
    (es : List Event) (s : Server) : Prop where
  furnished : Furnished config s
  admitted  : ∀ sid session, s.sessions sid = some session → session.authenticated = true →
    ∃ now payload, lastAuthRequest sid es = some (now, payload) ∧ Admits deps files path now payload

theorem Admitted.step (h : serverMain deps files args = some c)
    (hs : Admitted deps files (configPath args) (serverConfig c) es s) (hdecided : Decided deps s e)
    (hstep : step deps s e = some s') : Admitted deps files (configPath args) (serverConfig c) (es ++ [e]) s' := by
  refine ⟨furnished_step hs.furnished hstep, ?_⟩
  intro sid session' hsession' hauth'
  rcases authenticated_step hstep hsession' hauth' with ⟨session, hsession, hauth, hother⟩ |
    ⟨now, hdr, payload, session, rfl, hty, hsession, rfl⟩
  · obtain ⟨now, payload, hlast, hadmits⟩ := hs.admitted sid session hsession hauth
    exact ⟨now, payload, by rw [lastAuthRequest_other hother, hlast], hadmits⟩
  · exact ⟨now, payload, lastAuthRequest_authRequest hty,
      (flag_iff_admits h hs.furnished hdecided hty hsession).mp hauth'⟩

theorem admitted_of_run (h : serverMain deps files args = some c)
    (hdecided : Along (step deps) (Decided deps) (Server.init (serverConfig c)) es)
    (hrun : run (step deps) (Server.init (serverConfig c)) es = some s) :
    Admitted deps files (configPath args) (serverConfig c) es s :=
  run_history (J := Admitted deps files (configPath args) (serverConfig c))
    (fun _ _ _ _ hC hJ hstep => hJ.step h hC hstep) hdecided
    ⟨furnished_init, fun _ _ hsession => absurd hsession (by simp [Server.init])⟩ hrun

/-- **Who is let in.** In every run of the server that `main` starts in which logins are decided, a session is
    authenticated only if the configuration file admits its last `AuthRequest`, and every request that is
    handled sets the flag exactly when the file admits it. -/
theorem startup_gated (hstart : serverMain deps files args = some c)
    (hdecided : Along (step deps) (Decided deps) (Server.init (serverConfig c)) es)
    (hrun : run (step deps) (Server.init (serverConfig c)) es = some s) :
    (∀ sid session, s.sessions sid = some session → session.authenticated = true →
      ∃ now payload, lastAuthRequest sid es = some (now, payload) ∧
        Admits deps files (configPath args) now payload) ∧
    ∀ sid now hdr payload s' session', MsgType.ofByte hdr.type = some .authRequest →
      Decided deps s (.frame sid now hdr payload) → step deps s (.frame sid now hdr payload) = some s' →
      s'.sessions sid = some session' →
      (session'.authenticated = true ↔ Admits deps files (configPath args) now payload) := by
  have hs := admitted_of_run hstart hdecided hrun
  refine ⟨hs.admitted, ?_⟩
  intro sid now hdr payload s' session' hty hdecided' hstep hsession'
  obtain ⟨session, hsession, rfl⟩ := onFrame_cases (step_handle hstep)
  have hupdate : Function.update s.sessions sid
      (some (handlePacket deps now session hdr payload).session) sid = some session' := hsession'
  rw [Function.update_self, handlePacket_session, if_pos hty] at hupdate
  obtain rfl := Option.some.inj hupdate
  exact flag_iff_admits hstart hs.furnished hdecided' hty hsession

/-! ## A server without a secret -/

/-- A configuration that sets nothing. -/
def emptyFile (_path : Bytes) : Option Bytes := some (ascii "\x7b\x7d")

def emptyDeps : Deps :=
  Deps.table [(ascii "\x7b\x7d", .object []), (endlessLogin, loginJson (ascii "x") 18446744073709551585)]

/-- Its server lets in the login whose token would be refused, and tried for ever, under any secret. -/
theorem startup_gated_open :
    serverMain emptyDeps emptyFile [] = some {} ∧
    ∃ m session, run (step emptyDeps) (Server.init (serverConfig {})) (connectEvents ++ [endlessEvent]) = some m ∧
      m.sessions 1 = some session ∧ session.authenticated = true ∧
      Admits emptyDeps emptyFile (ascii "/etc/kirdi/server.json") 1000 endlessLogin := by
  have hstart : serverMain emptyDeps emptyFile [] = some {} := by decide +kernel
  have hrun : (run (step emptyDeps) (Server.init (serverConfig {})) (connectEvents ++ [endlessEvent])).any
      (fun m => (m.sessions 1).any (·.authenticated)) = true := by decide +kernel
  obtain ⟨m, hm, hany⟩ := Option.any_eq_true _ _ |>.mp hrun
  obtain ⟨session, hsession, hauth⟩ := Option.any_eq_true _ _ |>.mp hany
  have hdecided : Along (step emptyDeps) (Decided emptyDeps) (Server.init (serverConfig {}))
      (connectEvents ++ [endlessEvent]) := by
    -- nothing is asked of a login without a secret
    intro pre e post s hes hpre sid now hdr payload he hty hsecret
    rw [(furnished_of_run hpre).config_eq] at hsecret
    exact absurd rfl hsecret
  obtain ⟨now, payload, hlast, hadmits⟩ := (startup_gated hstart hdecided hm).1 1 session hsession hauth
  have hlast' : lastAuthRequest 1 (connectEvents ++ [endlessEvent]) = some (1000, endlessLogin) := by decide +kernel
  obtain ⟨rfl, rfl⟩ := Prod.mk.inj (Option.some.inj (hlast.symm.trans hlast'))
  exact ⟨hstart, m, session, hm, hsession, hauth, hadmits⟩

end Startup
end Kirdi
