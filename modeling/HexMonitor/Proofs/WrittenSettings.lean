import Mathlib.Data.List.Perm.Basic
import HexMonitor.Proofs.Addresses
import HexMonitor.Proofs.Precedence
import HexMonitor.Settings.Arguments

namespace HexMonitor.Settings

theorem complete_capacityNumber : capacityNumber.Complete :=
  ⟨by decide, by decide, by simp [capacityNumber]⟩

theorem readCapacity?_writeCapacity (capacity : UInt64) :
    readCapacity? (writeCapacity capacity) = some capacity := by
  have hd : capacityNumber.readAll? (Nat.toDigits 10 capacity.toNat) = some capacity.toNat :=
    complete_capacityNumber.readAll?_toDigits capacity.toNat_lt
  rw [readCapacity?, writeCapacity, String.toList_ofList]
  split
  · -- A sign is no digit.
    rename_i rest hs
    have hc := Text.isDigitIn_of_mem_toDigits (by decide) (by decide) capacity.toNat '+'
      (hs ▸ List.mem_cons_self)
    exact absurd hc (by decide)
  · rw [hd, Option.map_some, UInt64.ofNat_toNat]

/-- The written value of a setting denotes it; only a directory without a name has no such form. -/
theorem parse_valueText {a : Settings} (hw : a.www ≠ "") (s : Setting) :
    s.parse (a.valueText s) = .ok (a.value s) := by
  cases s with
  | listen =>
    simp only [Setting.parse, valueText, Net.SocketAddress.ofText?_toText]
    rfl
  | www => exact if_neg hw
  | index | logFilter => rfl
  | dumpCapacity =>
    simp only [Setting.parse, valueText, readCapacity?_writeCapacity]
    rfl
  | loadMode =>
    simp only [Setting.parse, valueText, LoadMode.ofName?_name]
    rfl

def Occurrence.flag : Occurrence → Flag
  | given s _ => .setting s
  | cors => .switch .cors

def Occurrence.argument : Occurrence → String
  | given s text => "--" ++ s.optionName ++ "=" ++ text
  | cors => "--cors"

def occurrences (a : Settings) : List Occurrence :=
  Setting.all.map (fun s => .given s (a.valueText s)) ++ if a.cors then [.cors] else []

theorem arguments_eq (a : Settings) : a.arguments = a.occurrences.map Occurrence.argument := by
  unfold arguments occurrences
  cases a.cors <;> rfl

theorem given_mem_occurrences {a : Settings} {s : Setting} {text : String} :
    .given s text ∈ a.occurrences ↔ text = a.valueText s := by
  have hc : .given s text ∉ (if a.cors then [Occurrence.cors] else []) := by split <;> simp
  rw [occurrences, List.mem_append, or_iff_left hc, List.mem_map]
  constructor
  · rintro ⟨s', -, he⟩
    cases he
    rfl
  · rintro rfl
    exact ⟨s, s.mem_all, rfl⟩

theorem cors_mem_occurrences {a : Settings} : .cors ∈ a.occurrences ↔ a.cors = true := by
  unfold occurrences
  cases a.cors <;> simp

theorem nodup_flags (a : Settings) : (a.occurrences.map Occurrence.flag).Nodup := by
  have hf : a.occurrences.map Occurrence.flag =
      Setting.all.map Flag.setting ++ if a.cors then [.switch .cors] else [] := by
    unfold occurrences
    cases a.cors <;> rfl
  rw [hf]
  cases a.cors <;> decide

/-- Whatever list of occurrences is written, its arguments say it. -/
theorem says_of_forall₂ {arguments : List String} {os : List Occurrence}
    (h : List.Forall₂ (fun x o => x = o.argument) arguments os) : Says arguments os := by
  induction h with
  | nil => exact .nil
  | @cons x o _ _ hx _ ih =>
    subst hx
    cases o with
    | given s text => exact .attached text (.long s) ih
    | cors => exact .cors ih

/-- In whatever order the arguments come, they say the same in that order. -/
theorem exists_says_of_perm {a : Settings} {arguments : List String}
    (hp : arguments.Perm a.arguments) : ∃ os, Says arguments os ∧ os.Perm a.occurrences := by
  have hs : List.Forall₂ (fun x (o : Occurrence) => x = o.argument) a.arguments a.occurrences := by
    rw [arguments_eq, List.forall₂_map_left_iff, List.forall₂_same]
    intro _ _
    rfl
  obtain ⟨os, hf, hos⟩ := List.perm_comp_forall₂ hp hs
  exact ⟨os, says_of_forall₂ hf, hos⟩

namespace Draft

variable {d : Draft}

theorem take_given {s : Setting} {text : String} {v : s.Value} (hd : d.value? s = none)
    (hp : s.parse text = .ok v) : d.take (.given s text) = .ok (d.setValue s v) := by
  simp only [take, give, has_eq, hd, put_eq, hp]
  rfl

theorem take_cors (hd : d.cors = false) : d.take .cors = .ok { d with cors := true } := by
  simp only [take, turnOn, hd]
  rfl

/-- Different options with values are taken over in any order. -/
theorem exists_takeAll {os : List Occurrence} (hn : (os.map Occurrence.flag).Nodup)
    (hg : ∀ s text, .given s text ∈ os → d.value? s = none ∧ ∃ v, s.parse text = .ok v)
    (hc : .cors ∈ os → d.cors = false) : ∃ d', d.takeAll os = .ok d' := by
  induction os generalizing d with
  | nil => exact ⟨d, rfl⟩
  | cons o os ih =>
    rw [List.map_cons, List.nodup_cons] at hn
    obtain ⟨ho, hn⟩ := hn
    obtain ⟨d₁, hd₁⟩ : ∃ d₁, d.take o = .ok d₁ := by
      cases o with
      | given s text =>
        obtain ⟨hd, v, hv⟩ := hg s text List.mem_cons_self
        exact ⟨_, take_given hd hv⟩
      | cors => exact ⟨_, take_cors (hc List.mem_cons_self)⟩
    rw [takeAll_cons, hd₁]
    apply ih hn
    · intro s text hm
      obtain ⟨hd, hv⟩ := hg s text (List.mem_cons_of_mem o hm)
      refine ⟨?_, hv⟩
      -- What was taken over is another option, and leaves this one open.
      rw [value?_take_of_ne hd₁, hd]
      rintro text' rfl
      exact ho (List.mem_map.2 ⟨_, hm, rfl⟩)
    · intro hm
      have hd := hc (List.mem_cons_of_mem o hm)
      obtain ⟨s, text, v, rfl, -, -, rfl⟩ | ⟨rfl, -⟩ := take_cases hd₁
      · rw [cors_setValue, hd]
      · exact absurd (List.mem_map.2 ⟨_, hm, rfl⟩) ho

end Draft

theorem ne_empty_of_parse_www {text path : String} (h : Setting.www.parse text = .ok path) :
    path ≠ "" := by
  have hp : (if text = "" then .error .emptyPath else .ok text : Except EarlyExit String) =
    .ok path := h
  split at hp
  · cases hp
  · rename_i hne
    cases hp
    exact hne

/-- The directory of the pages has a name wherever it comes from. -/
theorem www_ne_empty {arguments : List String} {env : Environment} {a : Settings}
    (h : read arguments env = .ok a) : a.www ≠ "" := by
  cases hr : readCommandLine arguments with
  | error e =>
    rw [read_of_readCommandLine_error hr] at h
    cases h
  | ok d =>
    obtain ⟨os, hos⟩ := exists_says_of_readCommandLine hr
    have ht : Draft.takeAll {} os = .ok d := readCommandLine_of_says hos ▸ hr
    have ha := (read_eq_ok_iff_byPrecedence hr ht).1 h
    by_cases hm : ∃ text, .given .www text ∈ os
    · obtain ⟨text, hm⟩ := hm
      exact ne_empty_of_parse_www (ha.given .www text hm)
    · rw [not_exists] at hm
      cases he : env Setting.www.environmentName with
      | some text => exact ne_empty_of_parse_www (ha.used .www text ⟨hm, he⟩)
      | none =>
        have hu : a.www = "www" := ha.unset .www hm he
        rw [hu]
        decide

theorem read_of_perm {a : Settings} (hw : a.www ≠ "") {arguments : List String}
    (hp : arguments.Perm a.arguments) (env : Environment) : read arguments env = .ok a := by
  obtain ⟨os, hos, hperm⟩ := exists_says_of_perm hp
  have hg (s : Setting) : .given s (a.valueText s) ∈ os :=
    hperm.mem_iff.2 (given_mem_occurrences.2 rfl)
  have hv {s : Setting} {text : String} (hm : .given s text ∈ os) :
      s.parse text = .ok (a.value s) := by
    rw [given_mem_occurrences.1 (hperm.mem_iff.1 hm)]
    exact parse_valueText hw s
  obtain ⟨d, hd⟩ : ∃ d, Draft.takeAll {} os = .ok d := by
    apply Draft.exists_takeAll ((hperm.map _).nodup_iff.2 a.nodup_flags)
    · intro s text hm
      refine ⟨?_, _, hv hm⟩
      cases s <;> rfl
    · intro _
      rfl
  have hr : readCommandLine arguments = .ok d := by
    rw [← hd]
    exact readCommandLine_of_says hos
  apply (read_eq_ok_iff_byPrecedence hr hd).2
  refine ⟨fun s text hm => hv hm, fun s text hu => ?_, fun s hn _ => ?_, ?_⟩
  · exact absurd (hg s) (hu.1 _)
  · exact absurd (hg s) (hn _)
  · rw [hperm.mem_iff, cors_mem_occurrences]

/-- Settings that are read from some command line in some environment are those whose pages have a
directory. Written as arguments, in any order, they are read again in every environment. -/
theorem read_perm_arguments (a : Settings) :
    ((∃ arguments env, read arguments env = .ok a) ↔ a.www ≠ "") ∧
    ∀ arguments env, read arguments env = .ok a →
      ∀ arguments' : List String, arguments'.Perm a.arguments →
        ∀ env', read arguments' env' = .ok a := by
  refine ⟨⟨?_, ?_⟩, ?_⟩
  · rintro ⟨arguments, env, h⟩
    exact www_ne_empty h
  · intro hw
    exact ⟨a.arguments, fun _ => none, read_of_perm hw (List.Perm.refl _) _⟩
  · intro arguments env h arguments' hp env'
    exact read_of_perm (www_ne_empty h) hp env'

/-- An address with a scope, a directory and a page that look like options, an empty filter and the
largest capacity, given in one way and written back in another. -/
theorem read_perm_arguments_scope :
    let a : Settings :=
      { listen := .v6 ⟨#v[0xfe80, 0, 0, 0x10, 0, 0, 0, 1]⟩ 7 8080, www := "-w"
        index := "--index=x", dumpCapacity := 18446744073709551615, loadMode := .split
        cors := true, logFilter := "" }
    read ["--index=--index=x", "-l[FE80::10:0:0:0.0.0.1%07]:08080", "-w=-w", "--load-mode", "split",
        "--cors", "--dump-capacity=+18446744073709551615", "--log-filter", ""] (fun _ => none) =
      .ok a ∧
    read ["--cors", "--log-filter=", "--listen=[fe80:0:0:10::1%7]:8080", "--load-mode=split",
        "--index=--index=x", "--dump-capacity=18446744073709551615", "--www=-w"] unreadable =
      .ok a := by
  intro a
  have h : read ["--index=--index=x", "-l[FE80::10:0:0:0.0.0.1%07]:08080", "-w=-w", "--load-mode",
      "split", "--cors", "--dump-capacity=+18446744073709551615", "--log-filter", ""]
      (fun _ => none) = .ok a := by decide +kernel
  refine ⟨h, (read_perm_arguments a).2 _ _ h _ ?_ unreadable⟩
  decide +kernel

end HexMonitor.Settings
