import HexMonitor.Proofs.CommandLines
import HexMonitor.Proofs.SettingValues

namespace HexMonitor.Settings

namespace Draft

variable {env : Environment} {d : Draft} {s : Setting}

/-- What a setting comes to: the value that was given, or what the variable denotes if it is set, or
else the default. -/
def outcome (env : Environment) (d : Draft) (s : Setting) : Except EarlyExit s.Value :=
  match d.value? s, env s.environmentName with
  | some v, _ => .ok v
  | none, some text => s.parse text
  | none, none => .ok s.default

theorem outcome_of_value? {v : s.Value} (h : d.value? s = some v) : d.outcome env s = .ok v := by
  rw [outcome, h]

theorem outcome_congr {d' : Draft} (h : d'.value? s = d.value? s) :
    d'.outcome env s = d.outcome env s := by
  rw [outcome, outcome, h]

theorem consult_of_outcome_error {e : EarlyExit} (h : d.outcome env s = .error e) :
    d.consult env s = .error e := by
  rw [consult, has_eq]
  unfold outcome at h
  split at h
  · cases h
  · rename_i text hv he
    simp only [hv, he, Option.isSome_none, put_eq, h]
    rfl
  · cases h

/-- Consulting the variable of a setting settles it, and leaves the other settings alone. -/
theorem consult_of_outcome_ok {v : s.Value} (h : d.outcome env s = .ok v) :
    ∃ d', d.consult env s = .ok d' ∧ (d'.value? s).getD s.default = v ∧
      (∀ s', s' ≠ s → d'.value? s' = d.value? s') ∧ d'.cors = d.cors := by
  rw [consult, has_eq]
  unfold outcome at h
  split at h
  · rename_i v' hv
    cases h
    refine ⟨d, by simp [hv], by simp [hv], fun _ _ => rfl, rfl⟩
  · rename_i text hv he
    refine ⟨d.setValue s v, ?_, ?_, fun s' hs => d.value?_setValue_of_ne hs v, d.cors_setValue s v⟩
    · simp only [hv, he, Option.isSome_none, put_eq, h]
      rfl
    · simp
  · rename_i hv he
    cases h
    refine ⟨d, by simp [hv, he], by simp [hv], fun _ _ => rfl, rfl⟩

/-- Settings that all come to some value are settled one after another. -/
theorem exists_consulted {ss : List Setting} (hn : ss.Nodup) (d : Draft)
    (h : ∀ s ∈ ss, ∃ v, d.outcome env s = .ok v) :
    ∃ d', ss.foldlM (consult env) d = .ok d' ∧
      (∀ s ∈ ss, d.outcome env s = .ok ((d'.value? s).getD s.default)) ∧
      (∀ s, s ∉ ss → d'.value? s = d.value? s) ∧ d'.cors = d.cors := by
  induction ss generalizing d with
  | nil => exact ⟨d, rfl, by simp, fun _ _ => rfl, rfl⟩
  | cons s ss ih =>
    obtain ⟨hs, hn⟩ := List.nodup_cons.1 hn
    obtain ⟨v, hv⟩ := h s (by simp)
    obtain ⟨d₁, hc, hd, hne, hcors⟩ := consult_of_outcome_ok hv
    -- No setting occurs twice, so that the ones behind come to the same as before.
    have ho (s') (hs' : s' ∈ ss) : d₁.outcome env s' = d.outcome env s' := by
      apply outcome_congr
      apply hne
      rintro rfl
      exact hs hs'
    obtain ⟨d', hf, hd', hne', hcors'⟩ := ih hn d₁ fun s' hs' => by
      rw [ho s' hs']
      exact h s' (by simp [hs'])
    refine ⟨d', ?_, ?_, ?_, hcors'.trans hcors⟩
    · rw [List.foldlM_cons, hc]
      exact hf
    · intro s' hs'
      rcases List.mem_cons.1 hs' with rfl | hs'
      · rw [hne' s' hs, hd, hv]
      · rw [← ho s' hs', hd' s' hs']
    · intro s' hs'
      rw [List.mem_cons, not_or] at hs'
      rw [hne' s' hs'.2, hne s' hs'.1]

/-- The first setting without a value ends the consultation. -/
theorem foldlM_consult_error {before after : List Setting} {e : EarlyExit}
    (hn : (before ++ s :: after).Nodup) (hb : ∀ s' ∈ before, ∃ v, d.outcome env s' = .ok v)
    (he : d.outcome env s = .error e) :
    (before ++ s :: after).foldlM (consult env) d = .error e := by
  obtain ⟨hn, -, hd⟩ := List.nodup_append.1 hn
  obtain ⟨d', hf, -, hne, -⟩ := exists_consulted hn d hb
  have hs : s ∉ before := fun hm => hd s hm s (by simp) rfl
  rw [← outcome_congr (hne s hs)] at he
  rw [List.foldlM_append, hf]
  show (s :: after).foldlM (consult env) d' = .error e
  rw [List.foldlM_cons, consult_of_outcome_error he]
  rfl

/-- Either all settings come to a value or there is a first one that does not. -/
theorem outcomes_ok_or_first_error (env : Environment) (d : Draft) (ss : List Setting) :
    (∀ s ∈ ss, ∃ v, d.outcome env s = .ok v) ∨
      ∃ before s after e, ss = before ++ s :: after ∧ d.outcome env s = .error e ∧
        ∀ s' ∈ before, ∃ v, d.outcome env s' = .ok v := by
  induction ss with
  | nil => exact .inl (by simp)
  | cons s ss ih =>
    cases ho : d.outcome env s with
    | error e => exact .inr ⟨[], s, ss, e, rfl, ho, by simp⟩
    | ok v =>
      rcases ih with h | ⟨before, s', after, e, rfl, he, hb⟩
      · left
        intro s' hs'
        rcases List.mem_cons.1 hs' with rfl | hs'
        · exact ⟨v, ho⟩
        · exact h s' hs'
      · refine .inr ⟨s :: before, s', after, e, rfl, he, ?_⟩
        intro t ht
        rcases List.mem_cons.1 ht with rfl | ht
        · exact ⟨v, ho⟩
        · exact hb t ht

/-- What one occurrence can do: settle a setting that was open so far, or allow other origins. -/
theorem take_cases {d' : Draft} {o : Occurrence} (h : d.take o = .ok d') :
    (∃ s text v, o = .given s text ∧ d.value? s = none ∧ s.parse text = .ok v ∧
      d' = d.setValue s v) ∨ (o = .cors ∧ d' = { d with cors := true }) := by
  cases o with
  | given s text =>
    left
    simp only [take, give, has_eq, put_eq] at h
    split at h
    · cases h
    · rename_i hv
      cases hp : s.parse text with
      | error e =>
        rw [hp] at h
        cases h
      | ok v =>
        rw [hp] at h
        cases h
        exact ⟨s, text, v, rfl, by simpa using hv, hp, rfl⟩
  | cors =>
    right
    simp only [take, turnOn] at h
    split at h
    · cases h
    · cases h
      exact ⟨rfl, rfl⟩

theorem value?_take_of_ne {d' : Draft} {o : Occurrence} (h : d.take o = .ok d')
    (hn : ∀ text, o ≠ .given s text) : d'.value? s = d.value? s := by
  obtain ⟨s', text, v, rfl, -, -, rfl⟩ | ⟨-, rfl⟩ := take_cases h
  · apply value?_setValue_of_ne
    rintro rfl
    exact hn text rfl
  · cases s <;> rfl

theorem exists_of_takeAll_cons {d' : Draft} {o : Occurrence} {os : List Occurrence}
    (h : d.takeAll (o :: os) = .ok d') : ∃ d₁, d.take o = .ok d₁ ∧ d₁.takeAll os = .ok d' := by
  rw [takeAll_cons] at h
  exact exists_of_bind_eq_ok h

/-- A command line leaves alone what it does not say. -/
theorem value?_takeAll_of_absent {d' : Draft} {os : List Occurrence} (h : d.takeAll os = .ok d')
    (hn : ∀ text, .given s text ∉ os) : d'.value? s = d.value? s := by
  induction os generalizing d with
  | nil =>
    cases h
    rfl
  | cons o os ih =>
    obtain ⟨d₁, ho, h⟩ := exists_of_takeAll_cons h
    rw [ih h fun text hm => hn text (List.mem_cons_of_mem o hm)]
    exact value?_take_of_ne ho fun text he => hn text (he ▸ List.mem_cons_self)

/-- A setting with a value is not said again. -/
theorem absent_of_value? {d' : Draft} {os : List Occurrence} {v : s.Value}
    (h : d.takeAll os = .ok d') (hv : d.value? s = some v) (text : String) :
    .given s text ∉ os := by
  induction os generalizing d with
  | nil => exact List.not_mem_nil
  | cons o os ih =>
    obtain ⟨d₁, ho, h⟩ := exists_of_takeAll_cons h
    have hn (text') : o ≠ .given s text' := by
      rintro rfl
      obtain ⟨s', text', v', he, hv', -, -⟩ | ⟨he, -⟩ := take_cases ho
      · cases he
        rw [hv] at hv'
        cases hv'
      · cases he
    have hv₁ : d₁.value? s = some v := (value?_take_of_ne ho hn).trans hv
    rw [List.mem_cons, not_or]
    exact ⟨(hn text).symm, ih h hv₁⟩

/-- What the command line says of a setting is a value of the setting, and is the one it gets. -/
theorem exists_value_of_takeAll {d' : Draft} {os : List Occurrence} {text : String}
    (h : d.takeAll os = .ok d') (hm : .given s text ∈ os) :
    ∃ v, s.parse text = .ok v ∧ d'.value? s = some v := by
  induction os generalizing d with
  | nil => cases hm
  | cons o os ih =>
    obtain ⟨d₁, ho, h⟩ := exists_of_takeAll_cons h
    rcases List.mem_cons.1 hm with rfl | hm
    · obtain ⟨s', text', v, he, -, hp, rfl⟩ | ⟨he, -⟩ := take_cases ho
      · cases he
        have hv : (d.setValue s v).value? s = some v := d.value?_setValue_self s v
        exact ⟨v, hp, (value?_takeAll_of_absent h (absent_of_value? h hv)).trans hv⟩
      · cases he
    · exact ih h hm

theorem cors_takeAll {d' : Draft} {os : List Occurrence} (h : d.takeAll os = .ok d') :
    d'.cors = true ↔ d.cors = true ∨ .cors ∈ os := by
  induction os generalizing d with
  | nil =>
    cases h
    simp
  | cons o os ih =>
    obtain ⟨d₁, ho, h⟩ := exists_of_takeAll_cons h
    obtain ⟨s, text, v, rfl, -, -, rfl⟩ | ⟨rfl, rfl⟩ := take_cases ho
    · simp [ih h]
    · simp [ih h]

end Draft

/-- `Uses os env s text`: behind a command line that says `os`, the setting is left to its variable,
which is set to `text`. -/
def Uses (os : List Occurrence) (env : Environment) (s : Setting) (text : String) : Prop :=
  (∀ t, .given s t ∉ os) ∧ env s.environmentName = some text

section Outcomes

variable {os : List Occurrence} {d : Draft} {s : Setting} {text : String} {env : Environment}

theorem value?_of_absent (h : Draft.takeAll {} os = .ok d) (hn : ∀ t, .given s t ∉ os) :
    d.value? s = none := by
  rw [Draft.value?_takeAll_of_absent h hn]
  cases s <;> rfl

theorem outcome_of_given (env : Environment) (h : Draft.takeAll {} os = .ok d)
    (hm : .given s text ∈ os) : ∃ v, s.parse text = .ok v ∧ d.outcome env s = .ok v := by
  obtain ⟨v, hp, hv⟩ := Draft.exists_value_of_takeAll h hm
  exact ⟨v, hp, Draft.outcome_of_value? hv⟩

theorem outcome_of_uses (h : Draft.takeAll {} os = .ok d) (hu : Uses os env s text) :
    d.outcome env s = s.parse text := by
  rw [Draft.outcome, value?_of_absent h hu.1, hu.2]

theorem outcome_of_unset (h : Draft.takeAll {} os = .ok d) (hn : ∀ t, .given s t ∉ os)
    (he : env s.environmentName = none) : d.outcome env s = .ok s.default := by
  rw [Draft.outcome, value?_of_absent h hn, he]

/-- Only a variable that is used can be without a value. -/
theorem outcome_eq_error_iff (h : Draft.takeAll {} os = .ok d) {e : EarlyExit} :
    d.outcome env s = .error e ↔ ∃ text, Uses os env s text ∧ s.parse text = .error e := by
  constructor
  · intro ho
    have hn (t) : .given s t ∉ os := by
      intro hm
      obtain ⟨v, -, hv⟩ := outcome_of_given env h hm
      rw [hv] at ho
      cases ho
    cases he : env s.environmentName with
    | none =>
      rw [outcome_of_unset h hn he] at ho
      cases ho
    | some text => exact ⟨text, ⟨hn, he⟩, outcome_of_uses h ⟨hn, he⟩ ▸ ho⟩
  · rintro ⟨text, hu, hp⟩
    rw [outcome_of_uses h hu, hp]

theorem exists_outcome_iff (h : Draft.takeAll {} os = .ok d) :
    (∃ v, d.outcome env s = .ok v) ↔ ∀ text, Uses os env s text → ∃ v, s.parse text = .ok v := by
  constructor
  · rintro ⟨v, hv⟩ text hu
    exact ⟨v, outcome_of_uses h hu ▸ hv⟩
  · intro hu
    cases ho : d.outcome env s with
    | ok v => exact ⟨v, rfl⟩
    | error e =>
      obtain ⟨text, ht, hp⟩ := (outcome_eq_error_iff h).1 ho
      obtain ⟨v, hv⟩ := hu text ht
      rw [hp] at hv
      cases hv

end Outcomes

section Read

variable {arguments : List String} {d : Draft} {env : Environment} {a : Settings} {e : EarlyExit}

theorem read_of_readCommandLine_error (h : readCommandLine arguments = .error e)
    (env : Environment) : read arguments env = .error e := by
  rw [read, h]
  rfl

theorem exists_read_of_outcomes (h : readCommandLine arguments = .ok d)
    (ho : ∀ s, ∃ v, d.outcome env s = .ok v) :
    ∃ a, read arguments env = .ok a ∧ (∀ s, d.outcome env s = .ok (a.value s)) ∧
      a.cors = d.cors := by
  obtain ⟨d', hc, hd, -, hcors⟩ := Draft.exists_consulted Setting.nodup_all d fun s _ => ho s
  refine ⟨d'.finish, ?_, ?_, hcors⟩
  · rw [read, h]
    show (d.consultAll env >>= fun draft => pure draft.finish) = _
    rw [Draft.consultAll, hc]
    rfl
  · intro s
    rw [Draft.value_finish]
    exact hd s s.mem_all

theorem read_of_first_error (h : readCommandLine arguments = .ok d) {before after : List Setting}
    {s : Setting} (hall : Setting.all = before ++ s :: after)
    (hb : ∀ s' ∈ before, ∃ v, d.outcome env s' = .ok v) (he : d.outcome env s = .error e) :
    read arguments env = .error e := by
  have hc : d.consultAll env = .error e := by
    rw [Draft.consultAll, hall]
    exact Draft.foldlM_consult_error (hall ▸ Setting.nodup_all) hb he
  rw [read, h]
  show (d.consultAll env >>= fun draft => pure draft.finish) = _
  rw [hc]
  rfl

theorem read_eq_ok_iff (h : readCommandLine arguments = .ok d) :
    read arguments env = .ok a ↔
      (∀ s, d.outcome env s = .ok (a.value s)) ∧ a.cors = d.cors := by
  constructor
  · intro hr
    rcases Draft.outcomes_ok_or_first_error env d Setting.all with
      ho | ⟨before, s, after, e, hall, he, hb⟩
    · obtain ⟨a', hr', ha⟩ := exists_read_of_outcomes h fun s => ho s s.mem_all
      rw [hr] at hr'
      cases hr'
      exact ha
    · rw [read_of_first_error h hall hb he] at hr
      cases hr
  · rintro ⟨ho, hc⟩
    obtain ⟨a', hr, ho', hc'⟩ := exists_read_of_outcomes h fun s => ⟨_, ho s⟩
    have ha : a' = a := by
      refine eq_of_values (fun s => ?_) (hc'.trans hc.symm)
      have hs := (ho' s).symm.trans (ho s)
      simpa using hs
    rw [hr, ha]

theorem read_eq_error_iff (h : readCommandLine arguments = .ok d) :
    read arguments env = .error e ↔ ∃ before s after, Setting.all = before ++ s :: after ∧
      d.outcome env s = .error e ∧ ∀ s' ∈ before, ∃ v, d.outcome env s' = .ok v := by
  constructor
  · intro hr
    rcases Draft.outcomes_ok_or_first_error env d Setting.all with
      ho | ⟨before, s, after, e', hall, he, hb⟩
    · obtain ⟨a, hr', -⟩ := exists_read_of_outcomes h fun s => ho s s.mem_all
      rw [hr] at hr'
      cases hr'
    · rw [read_of_first_error h hall hb he] at hr
      cases hr
      exact ⟨before, s, after, hall, he, hb⟩
  · rintro ⟨before, s, after, hall, he, hb⟩
    exact read_of_first_error h hall hb he

/-- Settings that come to the same in two environments are read alike. -/
theorem read_congr (h : readCommandLine arguments = .ok d) {env' : Environment}
    (ho : ∀ s, d.outcome env' s = d.outcome env s) : read arguments env' = read arguments env := by
  cases hr : read arguments env with
  | ok a =>
    rw [read_eq_ok_iff h] at hr ⊢
    simpa only [ho] using hr
  | error e =>
    rw [read_eq_error_iff h] at hr ⊢
    simpa only [ho] using hr

end Read

/-- The settings where the command line, the environment and the defaults take precedence in this
order. -/
structure ByPrecedence (os : List Occurrence) (env : Environment) (a : Settings) : Prop where
  given : ∀ s text, .given s text ∈ os → s.parse text = .ok (a.value s)
  used : ∀ s text, Uses os env s text → s.parse text = .ok (a.value s)
  unset : ∀ s, (∀ t, .given s t ∉ os) → env s.environmentName = none → a.value s = s.default
  cors : a.cors = true ↔ .cors ∈ os

/-- `FirstFault os env e`: of the variables in use, the first one that holds no value is at fault with
`e`. -/
def FirstFault (os : List Occurrence) (env : Environment) (e : EarlyExit) : Prop :=
  ∃ before s after text,
    [.listen, .www, .index, .dumpCapacity, .loadMode, .logFilter] = before ++ s :: after ∧
    Uses os env s text ∧ s.parse text = .error e ∧
    ∀ s' ∈ before, ∀ text', Uses os env s' text' → ∃ v, s'.parse text' = .ok v

section Says

variable {arguments : List String} {os : List Occurrence} {d : Draft} {env : Environment}

theorem read_eq_ok_iff_byPrecedence (h : readCommandLine arguments = .ok d)
    (ht : Draft.takeAll {} os = .ok d) {a : Settings} :
    read arguments env = .ok a ↔ ByPrecedence os env a := by
  have hc : d.cors = true ↔ .cors ∈ os := by
    rw [Draft.cors_takeAll ht]
    simp
  rw [read_eq_ok_iff h]
  constructor
  · rintro ⟨ho, hcors⟩
    refine ⟨fun s text hm => ?_, fun s text hu => ?_, fun s hn he => ?_, hcors ▸ hc⟩
    · obtain ⟨v, hp, hv⟩ := outcome_of_given env ht hm
      rw [hp, ← hv, ho s]
    · rw [← outcome_of_uses ht hu, ho s]
    · have hs := (ho s).symm.trans (outcome_of_unset ht hn he)
      simpa using hs
  · intro ha
    refine ⟨fun s => ?_, Bool.eq_iff_iff.2 (ha.cors.trans hc.symm)⟩
    by_cases hm : ∃ text, .given s text ∈ os
    · obtain ⟨text, hm⟩ := hm
      obtain ⟨v, hp, hv⟩ := outcome_of_given env ht hm
      rw [hv, ← hp, ha.given s text hm]
    · rw [not_exists] at hm
      cases he : env s.environmentName with
      | none => rw [outcome_of_unset ht hm he, ha.unset s hm he]
      | some text => rw [outcome_of_uses ht ⟨hm, he⟩, ha.used s text ⟨hm, he⟩]

theorem read_eq_error_iff_firstFault (h : readCommandLine arguments = .ok d)
    (ht : Draft.takeAll {} os = .ok d) {e : EarlyExit} :
    read arguments env = .error e ↔ FirstFault os env e := by
  rw [read_eq_error_iff h]
  constructor
  · rintro ⟨before, s, after, hall, ho, hb⟩
    obtain ⟨text, hu, hp⟩ := (outcome_eq_error_iff ht).1 ho
    exact ⟨before, s, after, text, hall, hu, hp, fun s' hs => (exists_outcome_iff ht).1 (hb s' hs)⟩
  · rintro ⟨before, s, after, text, hall, hu, hp, hb⟩
    exact ⟨before, s, after, hall, (outcome_eq_error_iff ht).2 ⟨text, hu, hp⟩,
      fun s' hs => (exists_outcome_iff ht).2 (hb s' hs)⟩

/-- The variable of a setting that the command line says is not looked at. -/
theorem outcome_eq_of_agree (ht : Draft.takeAll {} os = .ok d) {env' : Environment}
    (he : ∀ s, (∀ t, .given s t ∉ os) → env' s.environmentName = env s.environmentName)
    (s : Setting) : d.outcome env' s = d.outcome env s := by
  by_cases hm : ∃ text, .given s text ∈ os
  · obtain ⟨text, hm⟩ := hm
    obtain ⟨v, -, hv⟩ := Draft.exists_value_of_takeAll ht hm
    rw [Draft.outcome_of_value? hv, Draft.outcome_of_value? hv]
  · rw [Draft.outcome, Draft.outcome, he s (not_exists.1 hm)]

end Says

/-- A command line that fails on its own fails in every environment. Any other is read by precedence:
what it says is taken, and hides the variable of the setting whatever that holds; what it does not
say is left to the variables, where the first fault decides, and then to the defaults. -/
theorem read_by_precedence (arguments : List String) :
    (∀ e, read arguments (fun _ => none) = .error e → ∀ env, read arguments env = .error e) ∧
    (∀ a, read arguments (fun _ => none) = .ok a →
      (∃ os, Says arguments os) ∧ ∀ os, Says arguments os → ∀ env,
        (∀ a, read arguments env = .ok a ↔ ByPrecedence os env a) ∧
        (∀ e, read arguments env = .error e ↔ FirstFault os env e) ∧
        ∀ env' : Environment,
          (∀ s, (∀ t, .given s t ∉ os) → env' s.environmentName = env s.environmentName) →
          read arguments env' = read arguments env) := by
  cases h : readCommandLine arguments with
  | error e =>
    simp only [read_of_readCommandLine_error h]
    refine ⟨fun _ he _ => he, fun _ ha => ?_⟩
    cases ha
  | ok d =>
    constructor
    · intro e hr
      obtain ⟨os, hos⟩ := exists_says_of_readCommandLine h
      have ht : Draft.takeAll {} os = .ok d := readCommandLine_of_says hos ▸ h
      -- Without an environment no variable is in use.
      obtain ⟨_, s, _, text, -, hu, -⟩ := (read_eq_error_iff_firstFault h ht).1 hr
      cases hu.2
    · intro _ _
      refine ⟨exists_says_of_readCommandLine h, fun os hos env => ?_⟩
      have ht : Draft.takeAll {} os = .ok d := readCommandLine_of_says hos ▸ h
      exact ⟨fun _ => read_eq_ok_iff_byPrecedence h ht, fun _ => read_eq_error_iff_firstFault h ht,
        fun _ he => read_congr h (outcome_eq_of_agree ht he)⟩

def unreadable : Environment := fun name =>
  [("HEXVMD_LISTEN", "nowhere"), ("HEXVMD_DUMP_CAPACITY", ""), ("HEXVMD_LOAD_MODE", "both")].lookup
    name

/-- Of three variables without a value, an option hides the first, so that the second decides; options
for all of them leave nothing to fail, and a call for help hides them too. -/
theorem read_by_precedence_unreadable :
    read ["-l127.0.0.1:80", "--cors"] unreadable = .error (.malformedCapacity "") ∧
    read ["--cors", "-l", "127.0.0.1:80", "--load-mode=split", "--dump-capacity", "+7"] unreadable =
      .ok { listen := .v4 ⟨127, 0, 0, 1⟩ 80, dumpCapacity := 7, loadMode := .split, cors := true } ∧
    read ["--cors", "--help"] unreadable = .error .help := by
  have hl : Setting.listen.parse "127.0.0.1:80" =
    .ok (Net.SocketAddress.v4 ⟨127, 0, 0, 1⟩ 80) := by rfl
  refine ⟨?_, ?_, ?_⟩
  · have hs : Says ["-l127.0.0.1:80", "--cors"] [.given .listen "127.0.0.1:80", .cors] :=
      @Says.joined "-l" "127.0.0.1:80" .listen '1' _ _ .listen (by rfl) (by decide) (.cors .nil)
    have hr : read ["-l127.0.0.1:80", "--cors"] (fun _ => none) =
      .ok { listen := .v4 ⟨127, 0, 0, 1⟩ 80, cors := true } := by rfl
    apply ((((read_by_precedence _).2 _ hr).2 _ hs unreadable).2.1 _).2
    refine ⟨[.listen, .www, .index], .dumpCapacity, [.loadMode, .logFilter], "", rfl,
      ⟨by simp, by decide⟩, by rfl, ?_⟩
    intro s' hs' text' hu
    simp only [List.mem_cons, List.not_mem_nil, or_false] at hs'
    rcases hs' with rfl | rfl | rfl
    · exact absurd List.mem_cons_self (hu.1 _)
    · cases hu.2
    · cases hu.2
  · have hs : Says ["--cors", "-l", "127.0.0.1:80", "--load-mode=split", "--dump-capacity", "+7"]
        [.cors, .given .listen "127.0.0.1:80", .given .loadMode "split", .given .dumpCapacity "+7"] :=
      .cors (.separate (.letter .listen) (.inr (by decide))
        (@Says.attached _ .loadMode _ _ "split" (.long .loadMode)
          (@Says.separate _ _ .dumpCapacity _ _ (.long .dumpCapacity) (.inr (by decide)) .nil)))
    apply ((((read_by_precedence _).2 _ (by rfl)).2 _ hs unreadable).1 _).2
    constructor
    · intro s text hm
      simp only [List.mem_cons, List.not_mem_nil, or_false, reduceCtorEq, false_or,
        Occurrence.given.injEq] at hm
      rcases hm with ⟨rfl, rfl⟩ | ⟨rfl, rfl⟩ | ⟨rfl, rfl⟩
      · exact hl
      · rfl
      · rfl
    · intro s text hu
      cases s
      · exact absurd (by simp) (hu.1 "127.0.0.1:80")
      · cases hu.2
      · cases hu.2
      · exact absurd (by simp) (hu.1 "+7")
      · exact absurd (by simp) (hu.1 "split")
      · cases hu.2
    · intro s hn he
      cases s
      · cases he
      · rfl
      · rfl
      · cases he
      · cases he
      · rfl
    · simp
  · exact (read_by_precedence _).1 _ (by rfl) unreadable

end HexMonitor.Settings
