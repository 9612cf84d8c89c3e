import Kirdi.Client.Client
import Kirdi.Lib.CommandLine

/-!
# `Client.Ifconfig` — the command that configures the TUN device on macOS

`MacOSTunDevice::configure_address` pastes the addresses of the `AuthResponse` into a command for
`std::system`; the Linux device passes the same addresses to `inet_pton` and `ioctl`, and runs no command.
Nothing checks the strings on their way from the response. So the server decides what the shell runs, unless
each of them is a plain word (`command_unchanged_iff`).

What counts as special to the shell is what POSIX lists as to be quoted, with the braces and the exclamation
mark that some shells add. A text with such a character is taken for more than one simple command.
-/

set_option linter.dupNamespace false

namespace Kirdi
namespace Client

/-- The shell behind `std::system`, reading a C string. -/
def shell : CommandLine UInt8 where
  ends c := c == 0
  blank c := c == 32 || c == 9
  special c :=
    (ascii "|&;<>()$*?[#~=%!\x7b\x7d").contains c
      || c == 10 || c == 34 || c == 39 || c == 92 || c == 96  -- newline, quotes, backslash, backquote

/-- The address of the other end. -/
def TunConfig.peer (config : TunConfig) : Bytes :=
  if config.peerAddress.isEmpty then config.address else config.peerAddress

/-- `cmd` of `MacOSTunDevice::configure_address`. -/
def ifconfigCommand (ifName : Bytes) (config : TunConfig) : Bytes :=
  ascii "ifconfig " ++ ifName
    ++ ascii " inet " ++ config.address
    ++ ascii " " ++ config.peer
    ++ ascii " netmask " ++ config.netmask
    ++ ascii " mtu " ++ decimal 10 config.mtu.toNat
    ++ ascii " up"

/-- The words that are meant. -/
def ifconfigWords (ifName : Bytes) (config : TunConfig) : List Bytes :=
  [ascii "ifconfig", ifName, ascii "inet", config.address, config.peer, ascii "netmask", config.netmask,
    ascii "mtu", decimal 10 config.mtu.toNat, ascii "up"]

/-- The command for an accepted payload is the one that is meant. -/
def CommandUnchanged (deps : Deps) (mtu : UInt32) (ifName payload : Bytes) : Prop :=
  ∀ virtualIp config, readAuthResponse deps mtu payload = .accepted virtualIp config →
    shell.words (ifconfigCommand ifName config) = some (ifconfigWords ifName config)

/-- The strings of an accepted payload are words of the shell; `tun_server_ip` may be empty. -/
def PlainAddresses (deps : Deps) (mtu : UInt32) (payload : Bytes) : Prop :=
  ∀ virtualIp config, readAuthResponse deps mtu payload = .accepted virtualIp config →
    shell.Word config.address ∧ (config.peerAddress = [] ∨ shell.Word config.peerAddress) ∧
      shell.Word config.netmask

/-! ## Numbers -/

/-- A decimal number is a word. -/
theorem word_decimal (k n : ℕ) : shell.Word (decimal (k + 1) n) := by
  have hdigit : ∀ d < 10, shell.literal (UInt8.ofNat (48 + d)) = true := by decide
  refine ⟨by simp [decimal], ?_⟩
  intro c hc
  induction k generalizing n with
  | zero =>
      rw [decimal] at hc
      split at hc
      · exact List.mem_singleton.mp hc ▸ hdigit _ (Nat.mod_lt _ (by decide))
      · exact List.mem_singleton.mp hc ▸ hdigit _ (Nat.mod_lt _ (by decide))
  | succ k ih =>
      rw [decimal] at hc
      rcases List.mem_append.mp hc with hhigh | hlast
      · split at hhigh
        · exact absurd hhigh List.not_mem_nil
        · exact ih _ hhigh
      · exact List.mem_singleton.mp hlast ▸ hdigit _ (Nat.mod_lt _ (by decide))

/-! ## The command -/

/-- The command is its words with one blank between them. -/
theorem ifconfigCommand_eq (ifName : Bytes) (config : TunConfig) :
    ifconfigCommand ifName config = [32].intercalate (ifconfigWords ifName config) := by
  have hifconfig : ascii "ifconfig " = ascii "ifconfig" ++ [32] := by decide
  have hinet : ascii " inet " = 32 :: ascii "inet" ++ [32] := by decide
  have hblank : ascii " " = [32] := by decide
  have hnetmask : ascii " netmask " = 32 :: ascii "netmask" ++ [32] := by decide
  have hmtu : ascii " mtu " = 32 :: ascii "mtu" ++ [32] := by decide
  have hup : ascii " up" = 32 :: ascii "up" := by decide
  unfold ifconfigCommand ifconfigWords
  rw [hifconfig, hinet, hblank, hnetmask, hmtu, hup]
  simp only [List.intercalate_cons_cons, List.intercalate_singleton, List.append_assoc, List.cons_append,
    List.nil_append]

theorem separates_blank : shell.Separates 32 := ⟨by decide, by decide, by decide⟩

/-- The words that are meant are words, when the addresses are. -/
theorem words_plain_iff {ifName : Bytes} (hif : shell.Word ifName) (config : TunConfig) :
    (∀ w ∈ ifconfigWords ifName config, shell.Word w) ↔
      shell.Word config.address ∧ (config.peerAddress = [] ∨ shell.Word config.peerAddress) ∧
        shell.Word config.netmask := by
  have hpeer : shell.Word config.address →
      (shell.Word config.peer ↔ config.peerAddress = [] ∨ shell.Word config.peerAddress) := by
    intro haddress
    unfold TunConfig.peer
    cases hempty : config.peerAddress with
    | nil => simpa using haddress
    | cons c rest => simp
  -- the other words are plain whatever the server sends
  have hmtu : shell.Word (decimal 10 config.mtu.toNat) := word_decimal 9 _
  have hifconfig : shell.Word (ascii "ifconfig") := by decide
  have hinet : shell.Word (ascii "inet") := by decide
  have hnetmask : shell.Word (ascii "netmask") := by decide
  have hmtuWord : shell.Word (ascii "mtu") := by decide
  have hup : shell.Word (ascii "up") := by decide
  simp only [ifconfigWords, List.forall_mem_cons, List.not_mem_nil, IsEmpty.forall_iff, implies_true, hifconfig,
    hif, hinet, hnetmask, hmtuWord, hmtu, hup, true_and, and_true]
  constructor
  · rintro ⟨haddress, hp, hmask⟩
    exact ⟨haddress, (hpeer haddress).mp hp, hmask⟩
  · rintro ⟨haddress, hp, hmask⟩
    exact ⟨haddress, (hpeer haddress).mpr hp, hmask⟩

/-- **The server cannot change the command that is run** exactly when the strings of its response are plain
    words. -/
theorem command_unchanged_iff (deps : Deps) (mtu : UInt32) (payload : Bytes) {ifName : Bytes}
    (hif : shell.Word ifName) :
    CommandUnchanged deps mtu ifName payload ↔ PlainAddresses deps mtu payload := by
  unfold CommandUnchanged PlainAddresses
  refine forall_congr' fun virtualIp => forall_congr' fun config => imp_congr_right fun _ => ?_
  rw [ifconfigCommand_eq, CommandLine.words_join_iff separates_blank, words_plain_iff hif]

/-- The response of an honest server. -/
theorem command_unchanged_sample : CommandUnchanged responseDeps 1400 (ascii "utun3") sampleResponseText := by
  refine (command_unchanged_iff _ _ _ (by decide)).mpr ?_
  intro virtualIp config haccepted
  have hread : readAuthResponse responseDeps 1400 sampleResponseText =
      .accepted (ascii "10.8.0.2") ⟨ascii "10.8.0.2", ascii "10.8.0.1", ascii "255.255.255.0", 1400⟩ := by
    decide +kernel
  rw [hread] at haccepted
  cases haccepted
  exact ⟨by decide, Or.inr (by decide), by decide⟩

/-- A response with a second command. -/
def rebootResponse : Json :=
  .object [(ascii "ok", .boolean true), (ascii "tun_ip", .string (ascii "10.8.0.2; reboot;"))]

def rebootText : Bytes := (dumpFlat rebootResponse).getD []

/-- **A response that changes the command** is accepted. -/
theorem command_changed_reboot :
    readAuthResponse (Deps.table [(rebootText, rebootResponse)]) 1400 rebootText =
        .accepted (ascii "10.8.0.2; reboot;")
          ⟨ascii "10.8.0.2; reboot;", ascii "10.8.0.1", ascii "255.255.255.0", 1400⟩ ∧
      ¬ CommandUnchanged (Deps.table [(rebootText, rebootResponse)]) 1400 (ascii "utun3") rebootText := by
  have hread : readAuthResponse (Deps.table [(rebootText, rebootResponse)]) 1400 rebootText =
      .accepted (ascii "10.8.0.2; reboot;")
        ⟨ascii "10.8.0.2; reboot;", ascii "10.8.0.1", ascii "255.255.255.0", 1400⟩ := by
    decide +kernel
  refine ⟨hread, fun hunchanged => ?_⟩
  have hwords := hunchanged _ _ hread
  -- the semicolon ends the command
  have hnone : shell.words (ifconfigCommand (ascii "utun3")
      ⟨ascii "10.8.0.2; reboot;", ascii "10.8.0.1", ascii "255.255.255.0", 1400⟩) = none := by decide +kernel
  rw [hnone] at hwords
  exact absurd hwords (by simp)

end Client
end Kirdi
