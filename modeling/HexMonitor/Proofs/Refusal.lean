import HexMonitor.Monitor
import HexMonitor.Proofs.HexGrammar

namespace HexMonitor

def programOfBytes? (bytes : Bytes) : Option Bytes :=
  if bytes.length ≤ memorySize then some bytes else none

def programOfText? (text : Bytes) : Option Bytes :=
  (Hex.decode text).toOption.bind programOfBytes?

theorem length_le_of_programOfBytes? {bytes program : Bytes}
    (h : programOfBytes? bytes = some program) : program.length ≤ memorySize := by
  unfold programOfBytes? at h
  split at h
  · rename_i hl
    cases h
    exact hl
  · cases h

theorem length_le_of_programOfText? {text program : Bytes}
    (h : programOfText? text = some program) : program.length ≤ memorySize := by
  obtain ⟨bytes, -, h⟩ := Option.bind_eq_some_iff.1 h
  exact length_le_of_programOfBytes? h

/-- The program that an accepted load puts into memory. -/
def Command.program? : Command → Option Bytes
  | loadBinary program => programOfBytes? program
  | loadHex text => programOfText? text
  | execute | dump => none

theorem Command.length_le_of_program? {c : Command} {program : Bytes}
    (h : c.program? = some program) : program.length ≤ memorySize := by
  cases c with
  | loadBinary bytes => exact length_le_of_programOfBytes? h
  | loadHex text => exact length_le_of_programOfText? h
  | execute | dump => cases h

namespace Session

def loaded (program : Bytes) : Session where
  machine := { Machine.zero with memory := Machine.imageOf program }
  phase := .loaded

theorem load_eq_loaded {bytes program : Bytes} (h : programOfBytes? bytes = some program) :
    load bytes = .ok (loaded program) := by
  unfold programOfBytes? at h
  split at h
  · rename_i hl
    cases h
    simp only [load, Machine.load, if_neg (Nat.not_lt.2 hl), loaded]
  · cases h

theorem loadHex_of_decode {text bytes : Bytes} (h : Hex.decode text = .ok bytes) :
    loadHex text = load bytes := by
  simp only [loadHex, Hex.read, h, Except.mapError]

theorem loadHex_of_decode_error {text : Bytes} {e : Hex.DecodeError}
    (h : Hex.decode text = .error e) : loadHex text = .error (.ofDecodeError e) := by
  simp only [loadHex, Hex.read, h, Except.mapError]

theorem loadHex_of_complains {text : Bytes} {r : Rejection} (h : Hex.Complains text r) :
    loadHex text = .error r := by
  rw [loadHex, h.read_eq]

theorem loadHex_eq_loaded {text program : Bytes} (h : programOfText? text = some program) :
    loadHex text = .ok (loaded program) := by
  unfold programOfText? at h
  cases hd : Hex.decode text with
  | error e => simp [hd, Except.toOption] at h
  | ok bytes =>
    have hb : programOfBytes? bytes = some program := by simpa [hd, Except.toOption] using h
    rw [loadHex_of_decode hd, load_eq_loaded hb]

theorem load_tooLarge {program : Bytes} (h : memorySize < program.length) :
    load program = .error (.programTooLarge program.length memorySize) := by
  simp only [load, Machine.load, if_pos h, Rejection.ofLoadError]

theorem toOption_load_eq_none {bytes : Bytes} (h : programOfBytes? bytes = none) :
    (load bytes).toOption = none := by
  by_cases hl : bytes.length ≤ memorySize
  · rw [programOfBytes?, if_pos hl] at h
    cases h
  · rw [load_tooLarge (Nat.not_le.1 hl)]
    rfl

theorem toOption_loadHex_eq_none {text : Bytes} (h : programOfText? text = none) :
    (loadHex text).toOption = none := by
  unfold programOfText? at h
  cases hd : Hex.decode text with
  | error e =>
    rw [loadHex_of_decode_error hd]
    rfl
  | ok bytes =>
    have hb : programOfBytes? bytes = none := by simpa [hd, Except.toOption] using h
    rw [loadHex_of_decode hd, toOption_load_eq_none hb]

theorem dump_eq_encode (s : Session) {capacity : Nat} (hc : dumpLength ≤ capacity) :
    s.dump capacity = .ok (Hex.encode s.machine.image) := by
  have hl : Hex.encodedLength s.machine.image = dumpLength := by
    rw [Hex.encodedLength, Machine.length_image, dumpLength, Nat.mul_comm]
  simp only [dump, Hex.encodeWithin, hl, if_neg (Nat.not_lt.2 hc)]

end Session

namespace Monitor

/-- `Refuses capacity c r`: a monitor whose dumps have room for `capacity` characters turns the
command `c` down for the reason `r`. -/
inductive Refuses (capacity : Nat) : Command → Rejection → Prop
  | noRoom (c : Command) (h : capacity < 542) : Refuses capacity c (.bufferTooSmall 542 capacity)
  | notHex {text : Bytes} {reason : Rejection} (hc : 542 ≤ capacity)
      (h : Hex.Complains text reason) : Refuses capacity (.loadHex text) reason
  | longBinary {program : Bytes} (hc : 542 ≤ capacity) (h : 256 < program.length) :
      Refuses capacity (.loadBinary program) (.programTooLarge program.length 256)
  | longHex {text : Bytes} {n : Nat} (hc : 542 ≤ capacity) (hl : text.length = 2 * n)
      (hd : ∀ c ∈ text, Hex.IsDigit c) (h : 256 < n) :
      Refuses capacity (.loadHex text) (.programTooLarge n 256)

/-- The machine that a command sets running, if it does. -/
def started? (m : Monitor) (c : Command) : Option Machine :=
  match c with
  | .execute => some m.session.machine
  | c => if m.mode = .fused then c.program?.map fun p => (Session.loaded p).machine else none

theorem started?_load {m : Monitor} {c : Command} {program : Bytes}
    (h : c.program? = some program) (hm : m.mode = .fused) :
    m.started? c = some (Session.loaded program).machine := by
  cases c with
  | loadBinary | loadHex => simp [started?, hm, h]
  | execute | dump => cases h

theorem started?_split {m : Monitor} {c : Command} {program : Bytes}
    (h : c.program? = some program) (hm : m.mode ≠ .fused) : m.started? c = none := by
  cases c with
  | loadBinary | loadHex => exact if_neg hm
  | execute | dump => cases h

theorem started?_dump (m : Monitor) : m.started? .dump = none :=
  ite_self none

theorem report_eq (m : Monitor) (s : Session) (fault? : Option Fault)
    (hc : dumpLength ≤ m.dumpCapacity) :
    m.report s fault? =
      (.ok ⟨Hex.encode s.machine.image, s.phase, fault?⟩, { m with session := s }) := by
  simp only [report, s.dump_eq_encode hc]
  rfl

theorem eq_of_report {m m' : Monitor} {s : Session} {fault? : Option Fault}
    {answer : Except Rejection Reply} (hc : dumpLength ≤ m.dumpCapacity)
    (h : m.report s fault? = (answer, m')) :
    answer = .ok ⟨Hex.encode s.machine.image, s.phase, fault?⟩ ∧ m' = { m with session := s } := by
  rw [report_eq m s fault? hc] at h
  cases h
  exact ⟨rfl, rfl⟩

theorem answer_eq_prepare (m : Monitor) (c : Command) (hc : dumpLength ≤ m.dumpCapacity) :
    m.answer c = match m.prepare c with
      | .error rejection => some (.error rejection, m)
      | .ok (s, false) => some (m.report s none)
      | .ok (s, true) => s.execute.map fun (execution, s') => m.report s' execution.fault? :=
  if_neg (Nat.not_lt.2 hc)

theorem prepare_load (m : Monitor) {c : Command} {program : Bytes}
    (h : c.program? = some program) :
    m.prepare c = .ok (Session.loaded program, m.mode == .fused) := by
  cases c with
  | loadBinary bytes => simp only [prepare, Session.load_eq_loaded h]; rfl
  | loadHex text => simp only [prepare, Session.loadHex_eq_loaded h]; rfl
  | execute | dump => cases h

theorem answer_of_refuses {m : Monitor} {c : Command} {r : Rejection}
    (h : Refuses m.dumpCapacity c r) : m.answer c = some (.error r, m) := by
  cases h with
  | noRoom c h => exact if_pos h
  | notHex hc h =>
    rw [answer_eq_prepare m _ hc]
    simp only [prepare, Session.loadHex_of_complains h]
    rfl
  | longBinary hc h =>
    rw [answer_eq_prepare m _ hc]
    simp only [prepare, Session.load_tooLarge h]
    rfl
  | @longHex text n hc hl hd h =>
    obtain ⟨program, hp, hl'⟩ := Hex.decode_digits (by omega) hd
    have hn : program.length = n := by omega
    have hs : memorySize < program.length := by unfold memorySize; omega
    rw [answer_eq_prepare m _ hc]
    simp only [prepare, Session.loadHex_of_decode hp, Session.load_tooLarge hs, hn]
    rfl

/-- A command with room for its dump that is not turned down is an execution, a dump, or a load of
some program. -/
theorem refuses_or_program {capacity : Nat} (hc : dumpLength ≤ capacity) (c : Command) :
    (∃ r, Refuses capacity c r) ∨ (∃ p, c.program? = some p) ∨ c = .execute ∨ c = .dump := by
  cases c with
  | loadBinary bytes =>
    by_cases hl : bytes.length ≤ memorySize
    · exact .inr (.inl ⟨bytes, if_pos hl⟩)
    · exact .inl ⟨_, .longBinary hc (Nat.not_le.1 hl)⟩
  | loadHex text =>
    rcases Hex.spells_or_complains text with ⟨program, hs⟩ | ⟨r, hr⟩
    · have hd := Hex.decode_of_spells hs
      by_cases hl : program.length ≤ memorySize
      · refine .inr (.inl ⟨program, ?_⟩)
        simp [Command.program?, programOfText?, programOfBytes?, hd, Except.toOption, hl]
      · exact .inl ⟨_, .longHex hc hs.length_eq hs.isDigit (Nat.not_le.1 hl)⟩
    · exact .inl ⟨r, .notHex hc hr⟩
  | execute => exact .inr (.inr (.inl rfl))
  | dump => exact .inr (.inr (.inr rfl))

theorem room_of_not_refuses {capacity : Nat} {c : Command} (h : ∀ r, ¬ Refuses capacity c r) :
    dumpLength ≤ capacity :=
  Nat.not_lt.1 fun hc => h _ (.noRoom c hc)

/-- The answer to a load does not depend on the session before it. -/
theorem answer_load {m : Monitor} {c : Command} {program : Bytes} (hc : dumpLength ≤ m.dumpCapacity)
    (h : c.program? = some program) :
    m.answer c =
      if m.mode = .fused then
        (Session.loaded program).execute.map fun (execution, s) => m.report s execution.fault?
      else some (m.report (Session.loaded program) none) := by
  rw [answer_eq_prepare m c hc, prepare_load m h]
  cases m.mode <;> rfl

theorem answer_execute {m : Monitor} (hc : dumpLength ≤ m.dumpCapacity) :
    m.answer .execute =
      m.session.execute.map fun (execution, s) => m.report s execution.fault? :=
  answer_eq_prepare m .execute hc

theorem answer_dump {m : Monitor} (hc : dumpLength ≤ m.dumpCapacity) :
    m.answer .dump = some (m.report m.session none) :=
  answer_eq_prepare m .dump hc

theorem report_of_execute (m : Monitor) (s₀ : Session) :
    (∃ s fault?, s₀.execute.map (fun (execution, s) => m.report s execution.fault?) =
      some (m.report s fault?)) ∨
      (s₀.execute.map (fun (execution, s) => m.report s execution.fault?) = none ∧
        s₀.machine.run = none) := by
  cases h : s₀.execute with
  | none => exact .inr ⟨rfl, Option.map_eq_none_iff.1 h⟩
  | some result => exact .inl ⟨_, _, rfl⟩

/-- A command that is not turned down is answered by a dump, or has started a program that never
stops. -/
theorem answer_of_not_refuses {m : Monitor} {c : Command} (h : ∀ r, ¬ Refuses m.dumpCapacity c r) :
    (∃ s fault?, m.answer c = some (m.report s fault?)) ∨
      (m.answer c = none ∧ ∃ machine, m.started? c = some machine ∧ machine.run = none) := by
  have hc := room_of_not_refuses h
  rcases refuses_or_program hc c with ⟨r, hr⟩ | ⟨p, hp⟩ | rfl | rfl
  · exact absurd hr (h r)
  · rw [answer_load hc hp]
    split
    · rename_i hf
      rcases report_of_execute m (Session.loaded p) with hs | ⟨hs, hn⟩
      · exact .inl hs
      · exact .inr ⟨hs, _, started?_load hp hf, hn⟩
    · exact .inl ⟨_, _, rfl⟩
  · rw [answer_execute hc]
    rcases report_of_execute m m.session with hs | ⟨hs, hn⟩
    · exact .inl hs
    · exact .inr ⟨hs, _, rfl, hn⟩
  · exact .inl ⟨_, _, answer_dump hc⟩

theorem answer_eq_none {m : Monitor} {c : Command} {machine : Machine}
    (h : ∀ r, ¬ Refuses m.dumpCapacity c r) (hs : m.started? c = some machine)
    (hn : machine.run = none) : m.answer c = none := by
  have hc := room_of_not_refuses h
  have he (s : Session) (hm : s.machine = machine) : s.execute = none := by
    rw [Session.execute, hm, hn]
    rfl
  rcases refuses_or_program hc c with ⟨r, hr⟩ | ⟨p, hp⟩ | rfl | rfl
  · exact absurd hr (h r)
  · by_cases hf : m.mode = .fused
    · have hm := (started?_load hp hf).symm.trans hs
      rw [answer_load hc hp, if_pos hf, he _ (Option.some.inj hm)]
      rfl
    · rw [started?_split hp hf] at hs
      cases hs
  · rw [answer_execute hc, he _ (Option.some.inj hs)]
    rfl
  · rw [started?_dump] at hs
    cases hs

theorem answer_ne_none_iff {m : Monitor} {c : Command} :
    m.answer c ≠ none ↔ ((∀ r, ¬ Refuses m.dumpCapacity c r) →
      ∀ machine, m.started? c = some machine → machine.run ≠ none) := by
  constructor
  · intro ha hr machine hs hn
    exact ha (answer_eq_none hr hs hn)
  · intro h ha
    by_cases hr : ∃ r, Refuses m.dumpCapacity c r
    · obtain ⟨r, hr⟩ := hr
      cases ha.symm.trans (answer_of_refuses hr)
    · rw [not_exists] at hr
      rcases answer_of_not_refuses hr with ⟨s, fault?, ha'⟩ | ⟨-, machine, hs, hn⟩
      · cases ha.symm.trans ha'
      · exact h hr machine hs hn

/-- An answer is a rejection and changes nothing, or it shows the session that it leaves. -/
theorem answer_cases {m m' : Monitor} {c : Command} {answer : Except Rejection Reply}
    (h : m.answer c = some (answer, m')) :
    (∃ r, Refuses m.dumpCapacity c r ∧ answer = .error r ∧ m' = m) ∨
      (dumpLength ≤ m.dumpCapacity ∧ m' = { m with session := m'.session } ∧ ∃ fault?,
        answer = .ok ⟨Hex.encode m'.session.machine.image, m'.session.phase, fault?⟩) := by
  by_cases hr : ∃ r, Refuses m.dumpCapacity c r
  · obtain ⟨r, hr⟩ := hr
    cases h.symm.trans (answer_of_refuses hr)
    exact .inl ⟨r, hr, rfl, rfl⟩
  · rw [not_exists] at hr
    have hc := room_of_not_refuses hr
    rcases answer_of_not_refuses hr with ⟨s, fault?, ha⟩ | ⟨ha, -⟩
    · obtain ⟨rfl, rfl⟩ := eq_of_report hc (Option.some.inj (ha.symm.trans h))
      exact .inr ⟨hc, rfl, fault?, rfl⟩
    · cases h.symm.trans ha

/-- A rejection tells which of the conditions was the first to fail, and leaves everything as it
was. Whatever is not rejected is answered by the dump of the state that it leaves. -/
theorem answer_eq_error_iff (m : Monitor) (c : Command) :
    (∀ r m', m.answer c = some (.error r, m') ↔ Refuses m.dumpCapacity c r ∧ m' = m) ∧
      ((∀ r, ¬ Refuses m.dumpCapacity c r) →
        (∀ machine, m.started? c = some machine → machine.run ≠ none) →
        ∃ s fault?, m.answer c =
          some (.ok ⟨Hex.encode s.machine.image, s.phase, fault?⟩, { m with session := s })) := by
  constructor
  · intro r m'
    constructor
    · intro h
      by_cases hr : ∃ r', Refuses m.dumpCapacity c r'
      · obtain ⟨r', hr⟩ := hr
        cases h.symm.trans (answer_of_refuses hr)
        exact ⟨hr, rfl⟩
      · rw [not_exists] at hr
        rcases answer_of_not_refuses hr with ⟨s, fault?, ha⟩ | ⟨ha, -⟩
        · rw [ha, report_eq m s fault? (room_of_not_refuses hr)] at h
          cases h
        · cases h.symm.trans ha
    · rintro ⟨hr, rfl⟩
      exact answer_of_refuses hr
  · intro hr hs
    rcases answer_of_not_refuses hr with ⟨s, fault?, ha⟩ | ⟨-, machine, hm, hn⟩
    · exact ⟨s, fault?, by rw [ha, report_eq m s fault? (room_of_not_refuses hr)]⟩
    · exact absurd hn (hs machine hm)

/-- Of two bad digits the first is named, and the zeros of a fresh machine are executed. -/
theorem answer_two_bad_digits :
    Monitor.answer { mode := .split, dumpCapacity := 542 } (.loadHex [0x30, 0x67, 0x2f, 0x31]) =
      some (.error (.invalidEncoding "Invalid character 'g' at position 1"),
        { mode := .split, dumpCapacity := 542 }) ∧
    ∃ s fault?, Monitor.answer { mode := .split, dumpCapacity := 542 } .execute =
      some (.ok ⟨Hex.encode s.machine.image, s.phase, fault?⟩,
        { session := s, mode := .split, dumpCapacity := 542 }) := by
  have hb : Hex.FirstBad [0x30, 0x67, 0x2f, 0x31] 1 0x67 :=
    Hex.firstBad_cons_succ.2 ⟨by decide, Hex.firstBad_head (by decide) _⟩
  have hr : Refuses 542 (.loadHex [0x30, 0x67, 0x2f, 0x31])
      (.invalidEncoding "Invalid character 'g' at position 1") :=
    .notHex (by decide) (.badDigit (by decide) hb (@Text.Quotes.plain 0x67 'g' (by decide) rfl))
  have h := answer_eq_error_iff { mode := .split, dumpCapacity := 542 }
  refine ⟨((h _).1 _ _).2 ⟨hr, rfl⟩, (h .execute).2 ?_ ?_⟩
  · intro r hr
    cases hr with
    | noRoom c hc => exact absurd hc (by decide)
  · intro machine hm
    cases hm
    decide +kernel

end Monitor

end HexMonitor
