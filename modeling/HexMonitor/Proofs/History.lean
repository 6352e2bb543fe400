import Mathlib.Data.List.DropRight
import HexMonitor.Proofs.Refusal

namespace HexMonitor

def Session.executeTimes : Nat → Session → Option Session
  | 0, s => some s
  | k + 1, s => (executeTimes k s).bind fun s' => s'.execute.map (·.2)

def Command.isAccepted (c : Command) : Bool :=
  match c with
  | loadBinary _ | loadHex _ => c.program?.isSome
  | execute | dump => true

def lastProgram? (cs : List Command) : Option Bytes := (cs.filterMap Command.program?).getLast?

/-- The commands behind the last accepted load. -/
def sinceLoad (cs : List Command) : List Command := cs.rtakeWhile (·.program?.isNone)

/-- How often commands executed the program that they loaded last, or the empty memory of the
beginning. -/
def executionsSinceLoad (mode : LoadMode) (cs : List Command) : Nat :=
  (sinceLoad cs).count .execute + if mode = .fused ∧ (lastProgram? cs).isSome then 1 else 0

def Session.start? : Option Bytes → Option Session
  | none => some fresh
  | some program => (load program).toOption

/-- The session of the program that commands loaded last, executed as often as they did. -/
def replay? (mode : LoadMode) (cs : List Command) : Option Session :=
  (Session.start? (lastProgram? cs)).bind (Session.executeTimes (executionsSinceLoad mode cs))

theorem programOfBytes?_of_program? {c : Command} {program : Bytes}
    (h : c.program? = some program) : programOfBytes? program = some program :=
  if_pos (Command.length_le_of_program? h)

theorem lastProgram?_concat (cs : List Command) {c : Command} (h : c.program? = none) :
    lastProgram? (cs ++ [c]) = lastProgram? cs := by
  simp [lastProgram?, h]

theorem sinceLoad_concat (cs : List Command) {c : Command} (h : c.program? = none) :
    sinceLoad (cs ++ [c]) = sinceLoad cs ++ [c] :=
  List.rtakeWhile_concat_pos _ _ _ (by simp [h])

theorem replay?_load (mode : LoadMode) (cs : List Command) {c : Command} {program : Bytes}
    (h : c.program? = some program) :
    replay? mode (cs ++ [c]) =
      (Session.loaded program).executeTimes (if mode = .fused then 1 else 0) := by
  have hl : lastProgram? (cs ++ [c]) = some program := by simp [lastProgram?, h]
  have hs : sinceLoad (cs ++ [c]) = [] := List.rtakeWhile_concat_neg _ _ _ (by simp [h])
  have he : Session.start? (some program) = some (.loaded program) := by
    rw [Session.start?, Session.load_eq_loaded (programOfBytes?_of_program? h)]
    rfl
  simp [replay?, executionsSinceLoad, hl, hs, he]

theorem replay?_execute (mode : LoadMode) (cs : List Command) :
    replay? mode (cs ++ [.execute]) =
      (replay? mode cs).bind fun s => s.execute.map (·.2) := by
  have hp : Command.execute.program? = none := rfl
  have he : executionsSinceLoad mode (cs ++ [.execute]) = executionsSinceLoad mode cs + 1 := by
    simp only [executionsSinceLoad, lastProgram?_concat cs hp, sinceLoad_concat cs hp,
      List.count_append, List.count_singleton_self]
    omega
  rw [replay?, replay?, lastProgram?_concat cs hp, he, Option.bind_assoc]
  rfl

theorem replay?_other (mode : LoadMode) (cs : List Command) {c : Command} (h : c.program? = none)
    (he : c ≠ .execute) : replay? mode (cs ++ [c]) = replay? mode cs := by
  have hc : executionsSinceLoad mode (cs ++ [c]) = executionsSinceLoad mode cs := by
    simp [executionsSinceLoad, lastProgram?_concat cs h, sinceLoad_concat cs h, he]
  rw [replay?, replay?, lastProgram?_concat cs h, hc]

namespace Monitor

theorem Refuses.not_accepted {capacity : Nat} {c : Command} {r : Rejection}
    (h : Refuses capacity c r) (hc : dumpLength ≤ capacity) :
    c.program? = none ∧ c.isAccepted = false := by
  have ht {text : Bytes} (h : programOfText? text = none) :
      (Command.loadHex text).program? = none ∧ (Command.loadHex text).isAccepted = false := by
    simp [Command.isAccepted, Command.program?, h]
  cases h with
  | noRoom c h => exact absurd hc (Nat.not_le.2 h)
  | notHex _ h =>
    apply ht
    rw [programOfText?, h.toOption_decode]
    rfl
  | @longBinary program _ h =>
    have hp : programOfBytes? program = none := if_neg (Nat.not_le.2 h)
    simp [Command.isAccepted, Command.program?, hp]
  | longHex _ hl hd h =>
    obtain ⟨program, hp, hl'⟩ := Hex.decode_digits (by omega) hd
    apply ht
    rw [programOfText?, hp]
    exact if_neg (by unfold memorySize; omega)

theorem answerAll_cons {m m'' : Monitor} {c : Command} {cs : List Command}
    {answers : List (Except Rejection Reply)} (h : m.answerAll (c :: cs) = some (answers, m'')) :
    ∃ answer m' answers', m.answer c = some (answer, m') ∧
      m'.answerAll cs = some (answers', m'') ∧ answers = answer :: answers' := by
  simp only [answerAll, Option.bind_eq_bind, Option.bind_eq_some_iff] at h
  obtain ⟨⟨answer, m'⟩, ha, ⟨answers', m₂⟩, hs, he⟩ := h
  cases he
  exact ⟨answer, m', answers', ha, hs, rfl⟩

/-- An answer that comes from an execution. -/
theorem eq_of_execute_report {m m' : Monitor} {s : Session} {answer : Except Rejection Reply}
    (hc : dumpLength ≤ m.dumpCapacity)
    (h : s.execute.map (fun (execution, s') => m.report s' execution.fault?) = some (answer, m')) :
    ∃ execution s', s.execute = some (execution, s') ∧ m' = { m with session := s' } ∧
      answer = .ok ⟨Hex.encode s'.machine.image, s'.phase, execution.fault?⟩ := by
  obtain ⟨⟨execution, s'⟩, he, ha⟩ := Option.map_eq_some_iff.1 h
  obtain ⟨rfl, rfl⟩ := eq_of_report hc ha
  exact ⟨execution, s', he, rfl, rfl⟩

theorem answer_session {m m' : Monitor} {c : Command} {answer : Except Rejection Reply}
    (h : m.answer c = some (answer, m')) : m' = { m with session := m'.session } := by
  rcases answer_cases h with ⟨r, -, -, rfl⟩ | ⟨-, hm, -⟩
  · rfl
  · exact hm

theorem answer_replay {m m' : Monitor} {cs : List Command} {c : Command}
    {answer : Except Rejection Reply} (hc : dumpLength ≤ m.dumpCapacity)
    (hr : replay? m.mode cs = some m.session) (h : m.answer c = some (answer, m')) :
    replay? m.mode (cs ++ [c]) = some m'.session ∧ answer.isOk = c.isAccepted := by
  rcases refuses_or_program hc c with ⟨r, hf⟩ | ⟨program, hp⟩ | rfl | rfl
  · obtain ⟨hp, ha⟩ := hf.not_accepted hc
    cases h.symm.trans (answer_of_refuses hf)
    refine ⟨?_, ha.symm⟩
    rw [replay?_other m.mode cs hp (by rintro rfl; cases ha), hr]
  · have ha : c.isAccepted = true := by
      cases c with
      | loadBinary | loadHex => rw [Command.isAccepted, hp]; rfl
      | execute | dump => cases hp
    rw [replay?_load m.mode cs hp, ha]
    rw [answer_load hc hp] at h
    split at h
    · rename_i hm
      obtain ⟨execution, s', he, rfl, rfl⟩ := eq_of_execute_report hc h
      simp [Session.executeTimes, hm, he, Except.isOk, Except.toBool]
    · rename_i hm
      rw [report_eq m _ none hc] at h
      cases h
      simp [Session.executeTimes, hm, Except.isOk, Except.toBool]
  · rw [replay?_execute, hr]
    rw [answer_execute hc] at h
    obtain ⟨execution, s', he, rfl, rfl⟩ := eq_of_execute_report hc h
    simp [he, Except.isOk, Except.toBool, Command.isAccepted]
  · rw [replay?_other m.mode cs rfl (by decide), hr]
    rw [answer_dump hc, report_eq m _ none hc] at h
    cases h
    exact ⟨rfl, rfl⟩

/-- If the commands before `cs` have left the session that their replay gives, then so have all
together. -/
theorem answerAll_replay {before cs : List Command} {m m' : Monitor}
    {answers : List (Except Rejection Reply)} (hc : dumpLength ≤ m.dumpCapacity)
    (hr : replay? m.mode before = some m.session) (h : m.answerAll cs = some (answers, m')) :
    replay? m.mode (before ++ cs) = some m'.session ∧
      answers.map (·.isOk) = cs.map Command.isAccepted := by
  induction cs generalizing before m answers with
  | nil =>
    cases h
    exact ⟨by rw [List.append_nil, hr], rfl⟩
  | cons c cs ih =>
    obtain ⟨answer, m₁, answers', ha, hs, rfl⟩ := answerAll_cons h
    -- The first command joins those before it.
    obtain ⟨hr₁, hok⟩ := answer_replay hc hr ha
    have hm := answer_session ha
    have hc₁ : dumpLength ≤ m₁.dumpCapacity := by rw [hm]; exact hc
    have hr₁' : replay? m₁.mode (before ++ [c]) = some m₁.session := by rw [hm]; exact hr₁
    obtain ⟨hr₂, hoks⟩ := ih hc₁ hr₁' hs
    rw [hm, List.append_assoc] at hr₂
    exact ⟨hr₂, by rw [List.map_cons, List.map_cons, hok, hoks]⟩

/-- Loads of one program are answered alike, whatever was loaded or executed before. -/
theorem answer_load_congr {m₁ m₂ : Monitor} {c₁ c₂ : Command} {program : Bytes}
    (hc : dumpLength ≤ m₁.dumpCapacity) (hm : m₁.mode = m₂.mode)
    (hd : m₁.dumpCapacity = m₂.dumpCapacity) (h₁ : c₁.program? = some program)
    (h₂ : c₂.program? = some program) : m₁.answer c₁ = m₂.answer c₂ := by
  have hr (s : Session) (fault? : Option Fault) : m₁.report s fault? = m₂.report s fault? := by
    rw [report, report, hm, hd]
  simp only [answer_load hc h₁, answer_load (hd ▸ hc) h₂, hm, hr]

/-- In a run of commands every load is answered as by a fresh monitor. -/
theorem answerAll_load {mode : LoadMode} {capacity : Nat} (hc : dumpLength ≤ capacity)
    {cs : List Command} {m m' : Monitor} {answers : List (Except Rejection Reply)}
    (hm : m.mode = mode) (hd : m.dumpCapacity = capacity)
    (h : m.answerAll cs = some (answers, m')) :
    List.Forall₂ (fun c answer => ∀ program, c.program? = some program →
      (Monitor.answer { mode, dumpCapacity := capacity } (.loadBinary program)).map (·.1) =
        some answer)
      cs answers := by
  induction cs generalizing m answers with
  | nil =>
    cases h
    exact .nil
  | cons c cs ih =>
    obtain ⟨answer, m₁, answers', ha, hs, rfl⟩ := answerAll_cons h
    have hm₁ := answer_session ha
    apply List.Forall₂.cons
    · intro program hp
      have hb : (Command.loadBinary program).program? = some program :=
        programOfBytes?_of_program? hp
      rw [answer_load_congr hc hm.symm hd.symm hb hp, ha]
      rfl
    · exact ih (by rw [hm₁, hm]) (by rw [hm₁, hd]) hs

/-- A monitor is in the state of its last program, loaded into a fresh session and executed as often
as it was since; so all that follows a load is the same whatever came before it. -/
theorem answerAll_collapse (mode : LoadMode) (capacity : Nat) (hc : 542 ≤ capacity) :
    (∀ cs answers m, answerAll { mode, dumpCapacity := capacity } cs = some (answers, m) →
      replay? mode cs = some m.session ∧ answers.map (·.isOk) = cs.map Command.isAccepted) ∧
    (∀ s₁ s₂ c cs, c.program?.isSome →
      answerAll ⟨s₁, mode, capacity⟩ (c :: cs) = answerAll ⟨s₂, mode, capacity⟩ (c :: cs)) ∧
    ∀ s cs answers m, answerAll ⟨s, mode, capacity⟩ cs = some (answers, m) →
      List.Forall₂ (fun c answer => ∀ program, c.program? = some program →
        (Monitor.answer { mode, dumpCapacity := capacity } (.loadBinary program)).map (·.1) =
          some answer) cs answers := by
  refine ⟨?_, ?_, ?_⟩
  · intro cs answers m h
    have hr : replay? mode [] = some Session.fresh := by cases mode <;> rfl
    exact @answerAll_replay [] cs { mode, dumpCapacity := capacity } m answers hc hr h
  · intro s₁ s₂ c cs hp
    obtain ⟨program, hp⟩ := Option.isSome_iff_exists.1 hp
    have ha : answer ⟨s₁, mode, capacity⟩ c = answer ⟨s₂, mode, capacity⟩ c :=
      answer_load_congr hc rfl rfl hp hp
    rw [answerAll, answerAll, ha]
  · intro s cs answers m h
    exact answerAll_load hc rfl rfl h

/-- A program that faults, a text that is turned down, and a counting program that is executed again:
only the last one counts, twice. -/
theorem answerAll_collapse_count :
    ∃ answers m, answerAll { mode := .fused, dumpCapacity := 542 }
        [.loadBinary [0x05], .loadHex [0x30], .loadBinary [0x32, 0x00], .dump, .execute] =
          some (answers, m) ∧
      replay? .fused [.loadBinary [0x05], .loadHex [0x30], .loadBinary [0x32, 0x00], .dump, .execute]
        = some m.session := by
  have h : (answerAll { mode := .fused, dumpCapacity := 542 }
      [.loadBinary [0x05], .loadHex [0x30], .loadBinary [0x32, 0x00], .dump, .execute]).isSome := by
    decide +kernel
  obtain ⟨⟨answers, m⟩, h⟩ := Option.isSome_iff_exists.1 h
  exact ⟨answers, m, h, ((answerAll_collapse .fused 542 (by decide)).1 _ answers m h).1⟩

end Monitor

end HexMonitor
