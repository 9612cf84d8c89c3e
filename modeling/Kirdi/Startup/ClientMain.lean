import Kirdi.Common.Config
import Kirdi.Common.Hex
import Kirdi.Lib.Options

/-!
# `Startup.ClientMain` — the command line of the client

Embeds `main` of `client/main.cpp` up to the construction of the `Client`. A first argument that is not an option
may name a configuration file; the other arguments are options, most with a value, and the value is whatever
comes next.

`clientMain_runs_iff` says which command lines run a client and with which configuration: each field is what the
last of its options gives, else what the file says, else the default. `clientMain_stops_iff` says how the others
end.
-/

namespace Kirdi
namespace Startup

open Config Options

/-! ## The model -/

/-- How `main` ends without running a client: it returns after a line to `cerr`, followed by the usage or not, or
    an exception escapes. -/
inductive Exit where
  | returned (code : UInt8) (line : Bytes) (usage : Bool)
  | terminated
  deriving DecidableEq, Repr

/-- The decimal digits at the start of a text, `acc` being what those so far amount to; `none` before the first. -/
def scanDecimal : Bytes → Option Nat → Option Nat
  | [], acc => acc
  | c :: rest, acc => if 48 ≤ c ∧ c ≤ 57 then scanDecimal rest (some (10 * acc.getD 0 + (c.toNat - 48))) else acc

/-- `std::stoi`; `none` is `invalid_argument` or `out_of_range`. -/
def stoi (s : Bytes) : Option Int :=
  let s := s.dropWhile Crypto.isSpace
  let unsigned := if s.head? = some 45 ∨ s.head? = some 43 then s.tail else s
  (scanDecimal unsigned none).bind fun n =>
    let i : Int := if s.head? = some 45 then -n else n
    if -2147483648 ≤ i ∧ i ≤ 2147483647 then some i else none

/-- An option with a value, which `next` takes. -/
def withValue (arg : Bytes) (set : Bytes → Except Exit (ClientConfig → ClientConfig)) :
    Kind Bytes Exit ClientConfig :=
  .value (.returned 1 (ascii "Missing value for " ++ arg) false) set

/-- The chain of comparisons in the loop over `argv`. -/
def option (arg : Bytes) : Kind Bytes Exit ClientConfig :=
  if arg = ascii "--help" ∨ arg = ascii "-h" then .stop (.returned 0 [] true)
  else if arg = ascii "--host" then withValue arg fun v => .ok fun c => { c with serverHost := v }
  else if arg = ascii "--port" then withValue arg fun v =>
    match stoi v with
    | none => .error .terminated
    | some port => .ok fun c => { c with serverPort := UInt16.ofInt port }
  else if arg = ascii "--path" then withValue arg fun v => .ok fun c => { c with wsPath := v }
  else if arg = ascii "--token" then withValue arg fun v => .ok fun c => { c with authToken := v }
  else if arg = ascii "--user" then withValue arg fun v => .ok fun c => { c with authUser := v }
  else if arg = ascii "--dns" then withValue arg fun v => .ok fun c => { c with dnsServer := v }
  else if arg = ascii "--no-route" then .flag fun c => { c with autoRoute := false }
  else if arg = ascii "--log-level" then withValue arg fun v => .ok fun c => { c with logLevel := v }
  else .stop (.returned 1 (ascii "Unknown option: " ++ arg) true)

/-- What the options start from, and the options: a first argument without `-` is loaded, if it can be. -/
def loaded (deps : Deps) (files : Bytes → Option Bytes) : List Bytes → ClientConfig × List Bytes
  | [] => ({}, [])
  | arg :: args =>
      if arg.head? = some 45 then ({}, arg :: args)
      else
        match parseClientConfig deps files arg with
        | some config => (config, args)
        | none => ({}, arg :: args)

/-- The two options that must be given. -/
def required (config : ClientConfig) : Except Exit ClientConfig :=
  if config.serverHost = [] then .error (.returned 1 (ascii "Error: --host is required") true)
  else if config.authToken = [] then .error (.returned 1 (ascii "Error: --token is required") true)
  else .ok config

/-- `main` of the client, with the arguments after `argv[0]`: the configuration of the client that it runs. -/
def clientMain (deps : Deps) (files : Bytes → Option Bytes) (args : List Bytes) : Except Exit ClientConfig := do
  let config ← read option (loaded deps files args).1 (loaded deps files args).2
  required config

/-! ## What a command line declares -/

/-- The options with a value. -/
def valued : List Bytes :=
  [ascii "--host", ascii "--port", ascii "--path", ascii "--token", ascii "--user", ascii "--dns",
    ascii "--log-level"]

/-- A setting that the client knows: the one flag, or an option with a value that can be read. -/
def Known : Setting Bytes → Prop
  | .flag w => w = ascii "--no-route"
  | .value w v => w ∈ valued ∧ (w = ascii "--port" → stoi v ≠ none)

/-- The value given to an option. -/
def valueOf (name : String) : Setting Bytes → Option Bytes
  | .flag _ => none
  | .value w v => if w = ascii name then some v else none

/-- The port given. -/
def portOf (s : Setting Bytes) : Option UInt16 := ((valueOf "--port" s).bind stoi).map UInt16.ofInt

/-- `--no-route`. -/
def noRouteOf : Setting Bytes → Option Bool
  | .flag w => if w = ascii "--no-route" then some false else none
  | .value _ _ => none

/-- The configuration that settings make of another: the last of each counts. -/
def declared (c : ClientConfig) (ss : List (Setting Bytes)) : ClientConfig :=
  { c with
    serverHost := (last (valueOf "--host") ss).getD c.serverHost
    serverPort := (last portOf ss).getD c.serverPort
    wsPath := (last (valueOf "--path") ss).getD c.wsPath
    authToken := (last (valueOf "--token") ss).getD c.authToken
    authUser := (last (valueOf "--user") ss).getD c.authUser
    dnsServer := (last (valueOf "--dns") ss).getD c.dnsServer
    autoRoute := (last noRouteOf ss).getD c.autoRoute
    logLevel := (last (valueOf "--log-level") ss).getD c.logLevel }

/-- How arguments end the client before its options are complete. -/
inductive Refused : List Bytes → Exit → Prop where
  | help {arg : Bytes} {args : List Bytes} (h : arg = ascii "--help" ∨ arg = ascii "-h") :
      Refused (arg :: args) (.returned 0 [] true)
  | unknown {arg : Bytes} {args : List Bytes} (h : arg ∉ [ascii "--help", ascii "-h", ascii "--no-route"])
      (hvalued : arg ∉ valued) : Refused (arg :: args) (.returned 1 (ascii "Unknown option: " ++ arg) true)
  | missing {arg : Bytes} (h : arg ∈ valued) :
      Refused [arg] (.returned 1 (ascii "Missing value for " ++ arg) false)
  | port {v : Bytes} {args : List Bytes} (h : stoi v = none) : Refused (ascii "--port" :: v :: args) .terminated

/-- How a complete configuration without a host or a token ends the client. -/
inductive Incomplete (c : ClientConfig) : Exit → Prop where
  | host (h : c.serverHost = []) : Incomplete c (.returned 1 (ascii "Error: --host is required") true)
  | token (h : c.serverHost ≠ []) (ht : c.authToken = []) :
      Incomplete c (.returned 1 (ascii "Error: --token is required") true)

variable {deps : Deps} {files : Bytes → Option Bytes} {args : List Bytes} {c c' : ClientConfig}
  {s : Setting Bytes} {ss : List (Setting Bytes)} {e : Exit}

/-! ## One option -/

/-- An option whose value is taken as it is. -/
theorem plain_sets {w : Bytes} {set : Bytes → ClientConfig → ClientConfig}
    (h : option w = withValue w fun v => .ok (set v)) (hport : w ≠ ascii "--port")
    (hset : ∀ v c, set v c = declared c [.value w v]) :
    ∃ set, option w = withValue w set ∧
      ∀ v, (set v = .error .terminated ∧ w = ascii "--port" ∧ stoi v = none) ∨
        (set v = .ok fun c => declared c [.value w v]) ∧ (w = ascii "--port" → stoi v ≠ none) :=
  ⟨_, h, fun v => Or.inr ⟨congrArg Except.ok (funext (hset v)), fun hw => absurd hw hport⟩⟩

/-- **An option with a value sets what it declares**, unless it is a port that is no number. -/
theorem option_valued {w : Bytes} (h : w ∈ valued) :
    ∃ set, option w = withValue w set ∧
      ∀ v, (set v = .error .terminated ∧ w = ascii "--port" ∧ stoi v = none) ∨
        (set v = .ok fun c => declared c [.value w v]) ∧ (w = ascii "--port" → stoi v ≠ none) := by
  simp only [valued, List.mem_cons, List.not_mem_nil, or_false] at h
  rcases h with rfl | rfl | rfl | rfl | rfl | rfl | rfl
  case inr.inl =>
    refine ⟨_, rfl, fun v => ?_⟩
    cases hport : stoi v with
    | none => exact Or.inl ⟨rfl, rfl, rfl⟩
    | some port =>
        refine Or.inr ⟨congrArg Except.ok (funext fun c => ?_), fun _ => by simp⟩
        simp +decide [declared, last, valueOf, portOf, noRouteOf, hport]
  all_goals
    refine plain_sets rfl (by decide +kernel) fun v c => ?_
    simp +decide [declared, last, valueOf, portOf, noRouteOf]

theorem option_noRoute :
    option (ascii "--no-route") = .flag fun c => declared c [.flag (ascii "--no-route")] := by
  refine (show option (ascii "--no-route") = .flag fun c => { c with autoRoute := false } from rfl).trans ?_
  simp +decide [declared, last, valueOf, portOf, noRouteOf]

/-- Any other argument stops the client. -/
theorem option_stops {w : Bytes} (h : w ∉ valued) (hroute : w ≠ ascii "--no-route") :
    option w = .stop (if w = ascii "--help" ∨ w = ascii "-h" then .returned 0 [] true
      else .returned 1 (ascii "Unknown option: " ++ w) true) := by
  simp only [valued, List.mem_cons, List.not_mem_nil, or_false, not_or] at h
  obtain ⟨h1, h2, h3, h4, h5, h6, h7⟩ := h
  unfold option
  rw [if_neg h1, if_neg h2, if_neg h3, if_neg h4, if_neg h5, if_neg h6, if_neg hroute, if_neg h7]
  split <;> rfl

/-- **What an argument is**: an option with a value, the flag, or what stops the client. -/
theorem option_cases (w : Bytes) :
    (w ∈ valued ∧ ∃ set, option w = withValue w set ∧
      ∀ v, (set v = .error .terminated ∧ w = ascii "--port" ∧ stoi v = none) ∨
        (set v = .ok fun c => declared c [.value w v]) ∧ (w = ascii "--port" → stoi v ≠ none)) ∨
    (w = ascii "--no-route" ∧ option w = .flag fun c => declared c [.flag w]) ∨
    (w ∉ valued ∧ w ≠ ascii "--no-route" ∧
      option w = .stop (if w = ascii "--help" ∨ w = ascii "-h" then .returned 0 [] true
        else .returned 1 (ascii "Unknown option: " ++ w) true)) := by
  by_cases hvalued : w ∈ valued
  · exact Or.inl ⟨hvalued, option_valued hvalued⟩
  · by_cases hroute : w = ascii "--no-route"
    · exact Or.inr (Or.inl ⟨hroute, hroute ▸ option_noRoute⟩)
    · exact Or.inr (Or.inr ⟨hvalued, hroute, option_stops hvalued hroute⟩)

theorem noRoute_not_valued : ascii "--no-route" ∉ valued := by decide +kernel

/-- **The settings that the client knows have the effect that they declare.** -/
theorem effect_iff {f : ClientConfig → ClientConfig} :
    s.effect option = some f ↔ Known s ∧ f = fun c => declared c [s] := by
  cases s with
  | flag w =>
      rw [effect_flag]
      rcases option_cases w with ⟨hvalued, set, hw, -⟩ | ⟨rfl, hw⟩ | ⟨-, hroute, hw⟩ <;> rw [hw]
      · refine iff_of_false (by simp [withValue]) ?_
        rintro ⟨rfl, -⟩
        exact noRoute_not_valued hvalued
      · rw [Kind.flag.injEq]
        exact ⟨fun hf => ⟨rfl, hf.symm⟩, fun hf => hf.2.symm⟩
      · exact iff_of_false (by simp) fun hf => hroute hf.1
  | value w v =>
      rw [effect_value]
      rcases option_cases w with ⟨hvalued, set, hw, hset⟩ | ⟨rfl, hw⟩ | ⟨hvalued, -, hw⟩ <;> rw [hw]
      · rcases hset v with ⟨herror, hport, hnone⟩ | ⟨hok, hport⟩
        · refine iff_of_false ?_ fun hf => hf.1.2 hport hnone
          rintro ⟨missing, set', hkind, hset'⟩
          obtain ⟨-, rfl⟩ := Kind.value.inj hkind
          exact absurd (herror.symm.trans hset') (by simp)
        · constructor
          · rintro ⟨missing, set', hkind, hset'⟩
            obtain ⟨-, rfl⟩ := Kind.value.inj hkind
            exact ⟨⟨hvalued, hport⟩, (Except.ok.inj (hok.symm.trans hset')).symm⟩
          · rintro ⟨-, rfl⟩
            exact ⟨_, set, rfl, hok⟩
      · exact iff_of_false (by simp) fun hf => noRoute_not_valued hf.1.1
      · exact iff_of_false (by simp) fun hf => hvalued hf.1.1

/-- **The arguments that the client refuses.** -/
theorem stops_iff {ws : List Bytes} : Stops option ws e ↔ Refused ws e := by
  constructor
  · intro h
    cases h with
    | @word w ws e h =>
        rcases option_cases w with ⟨-, set, hw, -⟩ | ⟨-, hw⟩ | ⟨hvalued, hroute, hw⟩ <;> rw [hw] at h
        · exact absurd h (by simp [withValue])
        · exact absurd h (by simp)
        · obtain rfl := Kind.stop.inj h
          by_cases hhelp : w = ascii "--help" ∨ w = ascii "-h"
          · rw [if_pos hhelp]
            exact .help hhelp
          · rw [if_neg hhelp]
            refine .unknown ?_ hvalued
            simp only [List.mem_cons, List.not_mem_nil, or_false, not_or] at hhelp ⊢
            exact ⟨hhelp.1, hhelp.2, hroute⟩
    | @missing w e set h =>
        rcases option_cases w with ⟨hvalued, set', hw, -⟩ | ⟨-, hw⟩ | ⟨-, -, hw⟩ <;> rw [hw] at h
        · obtain ⟨rfl, -⟩ := Kind.value.inj h
          exact .missing hvalued
        · exact absurd h (by simp)
        · exact absurd h (by simp)
    | @value w v ws e missing set h hv =>
        rcases option_cases w with ⟨-, set', hw, hset⟩ | ⟨-, hw⟩ | ⟨-, -, hw⟩ <;> rw [hw] at h
        · obtain ⟨-, rfl⟩ := Kind.value.inj h
          rcases hset v with ⟨herror, rfl, hnone⟩ | ⟨hok, -⟩
          · obtain rfl := Except.error.inj (herror.symm.trans hv)
            exact .port hnone
          · exact absurd (hok.symm.trans hv) (by simp)
        · exact absurd h (by simp)
        · exact absurd h (by simp)
  · intro h
    cases h with
    | @help w ws h => exact .word (by unfold option; rw [if_pos h])
    | @unknown w ws h hvalued =>
        simp only [List.mem_cons, List.not_mem_nil, or_false, not_or] at h
        obtain ⟨hhelp, hh, hroute⟩ := h
        refine .word ?_
        rw [option_stops hvalued hroute, if_neg (not_or.mpr ⟨hhelp, hh⟩)]
    | @missing w h =>
        obtain ⟨set, hw, -⟩ := option_valued h
        exact .missing hw
    | @port v ws h =>
        obtain ⟨set, hw, hset⟩ := option_valued (w := ascii "--port") (by decide +kernel)
        rcases hset v with ⟨herror, -, -⟩ | ⟨-, hport⟩
        · exact .value hw herror
        · exact absurd h (hport rfl)

/-! ## Whole command lines -/

/-- **Known settings make of a configuration what they declare.** -/
theorem applies_option : Applies option c ss c' ↔ (∀ s ∈ ss, Known s) ∧ c' = declared c ss := by
  have hcons (c : ClientConfig) (s : Setting Bytes) (ss : List (Setting Bytes)) :
      declared c (s :: ss) = declared (declared c [s]) ss := by
    simp only [declared, getD_last_cons _ s ss]
  have hone (s : Setting Bytes) (f : ClientConfig → ClientConfig) (hf : s.effect option = some f)
      (c : ClientConfig) : f c = declared c [s] := by
    rw [(effect_iff.mp hf).2]
  have hknown (s : Setting Bytes) : (∃ f, s.effect option = some f) ↔ Known s := by
    simp only [effect_iff, exists_and_left, exists_eq, and_true]
  rw [applies_iff (fun _ => rfl) hcons hone]
  simp only [hknown]

/-- `main` reads the options and looks at what came of them. -/
theorem clientMain_eq_ok_iff :
    clientMain deps files args = .ok c ↔
      ∃ c', read option (loaded deps files args).1 (loaded deps files args).2 = .ok c' ∧ required c' = .ok c := by
  unfold clientMain
  cases read option (loaded deps files args).1 (loaded deps files args).2 with
  | error e' => simp [bind, Except.bind]
  | ok c' => simp [bind, Except.bind]

theorem clientMain_eq_error_iff :
    clientMain deps files args = .error e ↔
      read option (loaded deps files args).1 (loaded deps files args).2 = .error e ∨
      ∃ c', read option (loaded deps files args).1 (loaded deps files args).2 = .ok c' ∧ required c' = .error e := by
  unfold clientMain
  cases read option (loaded deps files args).1 (loaded deps files args).2 with
  | error e' => simp [bind, Except.bind]
  | ok c' => simp [bind, Except.bind]

theorem required_eq_ok_iff :
    required c = .ok c' ↔ c' = c ∧ c.serverHost ≠ [] ∧ c.authToken ≠ [] := by
  unfold required
  split
  · next h => exact iff_of_false (by simp) fun hc => hc.2.1 h
  · next h =>
      split
      · next ht => exact iff_of_false (by simp) fun hc => hc.2.2 ht
      · next ht =>
          rw [Except.ok.injEq]
          exact ⟨fun hc => ⟨hc.symm, h, ht⟩, fun hc => hc.1.symm⟩

theorem required_eq_error_iff : required c = .error e ↔ Incomplete c e := by
  unfold required
  split
  · next h =>
      rw [Except.error.injEq]
      constructor
      · rintro rfl
        exact .host h
      · rintro (_ | ⟨hhost, -⟩)
        · rfl
        · exact absurd h hhost
  · next h =>
      split
      · next ht =>
          rw [Except.error.injEq]
          constructor
          · rintro rfl
            exact .token h ht
          · rintro (hhost | _)
            · exact absurd hhost h
            · rfl
      · next ht =>
          refine iff_of_false (by simp) ?_
          rintro (hhost | ⟨-, htoken⟩)
          · exact h hhost
          · exact ht htoken

/-- **Which command lines run a client.** They are those whose options are settings that the client knows, in
    exactly one way, with a host and a token in the end; each field of the configuration is what the last of its
    settings says, else what it is in the file or by default. -/
theorem clientMain_runs_iff (deps : Deps) (files : Bytes → Option Bytes) (args : List Bytes) (c : ClientConfig) :
    clientMain deps files args = .ok c ↔
      ∃! ss, (loaded deps files args).2 = ss.flatMap Setting.words ∧ (∀ s ∈ ss, Known s) ∧
        c = declared (loaded deps files args).1 ss ∧ c.serverHost ≠ [] ∧ c.authToken ≠ [] := by
  rw [clientMain_eq_ok_iff]
  constructor
  · rintro ⟨c', hread, hrequired⟩
    obtain ⟨rfl, hhost, htoken⟩ := required_eq_ok_iff.mp hrequired
    obtain ⟨ss, hwords, happlies⟩ := read_eq_ok_iff.mp hread
    obtain ⟨hknown, hc⟩ := applies_option.mp happlies
    refine ⟨ss, ⟨hwords, hknown, hc, hhost, htoken⟩, ?_⟩
    rintro ss' ⟨hwords', hknown', hc', -⟩
    exact settings_unique (applies_option.mpr ⟨hknown', hc'⟩) happlies (hwords'.symm.trans hwords)
  · rintro ⟨ss, ⟨hwords, hknown, hc, hhost, htoken⟩, -⟩
    exact ⟨c, read_eq_ok_iff.mpr ⟨ss, hwords, applies_option.mpr ⟨hknown, hc⟩⟩,
      required_eq_ok_iff.mpr ⟨rfl, hhost, htoken⟩⟩

/-- **How the other command lines end**: at the first argument that is not part of a setting the client knows, or
    for want of a host or a token. -/
theorem clientMain_stops_iff (deps : Deps) (files : Bytes → Option Bytes) (args : List Bytes) (e : Exit) :
    clientMain deps files args = .error e ↔
      ∃ ss, (∀ s ∈ ss, Known s) ∧
        ((∃ rest, (loaded deps files args).2 = ss.flatMap Setting.words ++ rest ∧ Refused rest e) ∨
          ((loaded deps files args).2 = ss.flatMap Setting.words ∧
            Incomplete (declared (loaded deps files args).1 ss) e)) := by
  rw [clientMain_eq_error_iff]
  constructor
  · rintro (hread | ⟨c, hread, hrequired⟩)
    · obtain ⟨ss, c, rest, hwords, happlies, hstops⟩ := read_eq_error_iff.mp hread
      exact ⟨ss, (applies_option.mp happlies).1, Or.inl ⟨rest, hwords, stops_iff.mp hstops⟩⟩
    · obtain ⟨ss, hwords, happlies⟩ := read_eq_ok_iff.mp hread
      obtain ⟨hknown, rfl⟩ := applies_option.mp happlies
      exact ⟨ss, hknown, Or.inr ⟨hwords, required_eq_error_iff.mp hrequired⟩⟩
  · rintro ⟨ss, hknown, ⟨rest, hwords, hrefused⟩ | ⟨hwords, hincomplete⟩⟩
    · exact Or.inl (read_eq_error_iff.mpr
        ⟨ss, _, rest, hwords, applies_option.mpr ⟨hknown, rfl⟩, stops_iff.mpr hrefused⟩)
    · exact Or.inr ⟨_, read_eq_ok_iff.mpr ⟨ss, hwords, applies_option.mpr ⟨hknown, rfl⟩⟩,
        required_eq_error_iff.mpr hincomplete⟩

/-- An option takes the next argument as its value, whatever that is. -/
example : clientMain (Deps.table []) (fun _ => none)
    [ascii "--host", ascii "--no-route", ascii "--token", ascii "t", ascii "--port", ascii "+70000x"]
      = .ok { serverHost := ascii "--no-route", authToken := ascii "t", serverPort := 4464 } := by decide +kernel

end Startup
end Kirdi
