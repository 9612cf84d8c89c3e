import Kirdi.Netfilter.Forwarding
import Kirdi.Server.Allocation

/-!
# `Netfilter.Coverage` — which clients reach the outside

The server takes the addresses of its clients from `tun_subnet`, and the masquerade rule has 10.8.0.0/24 written
into it. The two never meet in the code. A client reaches the outside when its address lies in the range of the
rule, and that is a matter of the number of its connection: for the default subnet the first 254 connections are
covered and those after them are not, even where the mask of the configuration allows for more.
-/

set_option linter.dupNamespace false

namespace Kirdi
namespace Netfilter

open Inet RuleChain EventMachine
open Server (ServerConfig ClientSession Watched Happening Describes hostNumber watch Tracked)

/-- The packet comes from the address of the session. -/
def Packet.Of (p : Packet) (session : ClientSession) : Prop := hostNumber session.virtualIp = some p.source.toNat

/-- Every packet of a client that leaves by the interface gets the address of the machine. -/
def AllMasqueraded (others : Bytes → Packet → Option Verdict) (m : Machine) (iface : Bytes) (s : Server.Server) :
    Prop :=
  ∀ sid session, s.sessions sid = some session → ∀ p : Packet, p.Of session → p.outIface = iface →
    decision (Rule.decides others) (m.tables.rules .nat (ascii "POSTROUTING")) p = some .masquerade

/-- The address of connection number `k` lies in 10.8.0.0/24. -/
def Covered (n : Subnet 32) (k : ℕ) : Prop := (n.network + (k + 1) % 2 ^ 32) % 2 ^ 32 / 2 ^ 8 = 0x0A0800

instance (n : Subnet 32) (k : ℕ) : Decidable (Covered n k) := inferInstanceAs (Decidable (_ = _))

variable {deps : Deps} {config : ServerConfig} {n : Subnet 32} {server : ℕ} {w : Watched} {m m' : Machine}
  {hs : List Happening} {es : List Event} {env : StartEnv} {others : Bytes → Packet → Option Verdict} {p : Packet}

/-- The packets of a session are those from the address of its number. -/
theorem fromSubnet_iff (h : Tracked config w) (hconfig : Describes config n server) {k : ℕ} {session : ClientSession}
    (hsession : w.server.sessions (UInt32.ofNat k) = some session) (hp : p.Of session) :
    p.FromSubnet = true ↔ Covered n k := by
  have hsource : p.source.toNat = (n.network + (k + 1) % 2 ^ 32) % 2 ^ 32 := by
    unfold Packet.Of at hp
    rw [(h.addressed.sessions _ session hsession).1, Server.hostNumber_vip hconfig] at hp
    exact (Option.some.inj hp).symm
  unfold Packet.FromSubnet Covered
  rw [hsource, beq_iff_eq]

/-- Every session has packets. -/
theorem exists_packet (h : Tracked config w) (hconfig : Describes config n server) {k : ℕ} {session : ClientSession}
    (hsession : w.server.sessions (UInt32.ofNat k) = some session) (iface : Bytes) :
    ∃ p : Packet, p.Of session ∧ p.outIface = iface := by
  have hvip : hostNumber session.virtualIp = some ((n.network + (k + 1) % 2 ^ 32) % 2 ^ 32) := by
    rw [(h.addressed.sessions _ session hsession).1, Server.hostNumber_vip hconfig]
  refine ⟨⟨ascii "kirdi0", iface, UInt32.ofNat ((n.network + (k + 1) % 2 ^ 32) % 2 ^ 32), ascii "udp", [],
    ascii "NEW"⟩, ?_, rfl⟩
  unfold Packet.Of
  rw [hvip, UInt32.toNat_ofNat', Nat.mod_eq_of_lt (Nat.mod_lt _ (by decide))]

/-- **The clients reach the outside exactly as far as 10.8.0.0/24 goes**: on a machine where a start has gone well,
    and where no other rule decides about packets that leave by the interface, the packets of all sessions are
    masqueraded if and only if the number of every registered connection stands for an address of that range. -/
theorem allMasqueraded_iff (hconfig : Describes config n server)
    (hwatch : run (watch deps) (Watched.init config) hs = some w) (hserving : Serving es)
    (hrun : run step m es = some m') (henv : .serverStart env ∈ es) (hworks : env.Works)
    (hfree : ∀ p : Packet, p.outIface = env.iface →
      decision (Rule.decides others) (m.tables.rules .nat (ascii "POSTROUTING")) p = none) :
    AllMasqueraded others m' env.iface w.server ↔ ∀ k ∈ w.registered, Covered n k := by
  have h := Server.tracked_of_run hwatch
  constructor
  · intro hall k hk
    obtain ⟨session, hsession⟩ := Option.isSome_iff_exists.mp ((h.numbered.sessions _).mpr ⟨k, hk, rfl⟩)
    obtain ⟨p, hp, hiface⟩ := exists_packet h hconfig hsession env.iface
    have hmasqueraded := hall _ session hsession p hp hiface
    rw [← fromSubnet_iff h hconfig hsession hp]
    by_contra houtsider
    -- a packet from elsewhere is left alone
    have houtside := (postrouting_decision hserving hrun henv hworks others p).2
      (Or.inl (Bool.eq_false_iff.mpr houtsider))
    rw [houtside, hfree p hiface] at hmasqueraded
    exact absurd hmasqueraded (by simp)
  · intro hall sid session hsession p hp hiface
    obtain ⟨k, hk, rfl⟩ := (h.numbered.sessions sid).mp (by rw [hsession]; rfl)
    have hsubnet := (fromSubnet_iff h hconfig hsession hp).mpr (hall k hk)
    rw [(postrouting_decision hserving hrun henv hworks others p).1 hsubnet hiface, hfree p hiface]
    rfl

/-- The first two clients of a fresh machine. -/
theorem allMasqueraded_two :
    ∃ w m', run (watch Server.sampleDeps) (Watched.init Server.plainConfig) (Server.connection ++ Server.connection) =
        some w ∧
      run step freshMachine [.serverStart goodStart] = some m' ∧ w.registered = [1, 2] ∧
      AllMasqueraded (fun _ _ => none) m' (ascii "eth0") w.server := by
  have hwatch : (run (watch Server.sampleDeps) (Watched.init Server.plainConfig)
      (Server.connection ++ Server.connection)).any (fun w => w.registered = [1, 2]) = true := by decide +kernel
  obtain ⟨w, hw, hregistered⟩ := Option.any_eq_true _ _ |>.mp hwatch
  have hregistered := of_decide_eq_true hregistered
  have hserving : Serving [.serverStart goodStart] := by decide
  obtain ⟨m', hrun⟩ := @run_defined [.serverStart goodStart] freshMachine (by simp [goodStart_word, Event.Plain])
  refine ⟨w, m', hw, hrun, hregistered, ?_⟩
  refine (allMasqueraded_iff Server.plainConfig_describes hw hserving hrun List.mem_cons_self (by decide)
    fun _ _ => rfl).mpr ?_
  rw [hregistered]
  decide

/-- From 10.8.0.0 on, the 254th connection is the last one. -/
example : Covered Server.subnet24 254 ∧ ¬ Covered Server.subnet24 255 := by decide

end Netfilter
end Kirdi
