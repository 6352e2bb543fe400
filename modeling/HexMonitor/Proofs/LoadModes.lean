import Mathlib.Data.List.Forall2
import HexMonitor.Proofs.Refusal

namespace HexMonitor

/-- Two computations that come to related results, or both to none, can be continued by computations
of which the same holds. -/
theorem rel_bind {α β γ δ : Type} {r : α → β → Prop} {r' : γ → δ → Prop} {x : Option α}
    {y : Option β} {f : α → Option γ} {g : β → Option δ} (h : Option.Rel r x y)
    (hfg : ∀ a b, r a b → Option.Rel r' (f a) (g b)) : Option.Rel r' (x.bind f) (y.bind g) := by
  cases h with
  | none => exact .none
  | some hr => exact hfg _ _ hr

def Command.isLoad : Command → Bool
  | loadBinary _ | loadHex _ => true
  | execute | dump => false

/-- What passes between a client and a monitor for one command: the answers that the monitor gave,
and the session after them. -/
structure Turn where
  command : Command
  answers : List (Except Rejection Reply)
  session : Session

/-- The commands that a client sends to a monitor where one command is asked for. -/
abbrev Client := Monitor → Command → List Command

namespace Client

def plain : Client := fun _ c => [c]

/-- Sends an execution right after each load that was accepted. -/
def executing : Client := fun m c =>
  if c.isLoad ∧ (m.answer c).any (·.1.isOk) then [c, .execute] else [c]

end Client

def Monitor.serve (client : Client) (m : Monitor) : List Command → Option (List Turn)
  | [] => some []
  | c :: cs => do
    let (answers, m') ← m.answerAll (client m c)
    let turns ← m'.serve client cs
    return ⟨c, answers, m'.session⟩ :: turns

/-- `Corresponds fused split`: two turns leave the same session, and the last answers are the same.
A load that is accepted has one more answer in split mode, which shows the program and nothing
else. -/
inductive Corresponds : Turn → Turn → Prop
  | rejected {c : Command} {r : Rejection} {s : Session} :
      Corresponds ⟨c, [.error r], s⟩ ⟨c, [.error r], s⟩
  | loaded {c : Command} {program : Bytes} {reply : Reply} {s : Session}
      (h : c.program? = some program) :
      Corresponds ⟨c, [.ok reply], s⟩ ⟨c, [.ok {
        dump := Hex.encode (program ++ List.replicate (271 - program.length) 0)
        phase := .loaded
        fault? := none }, .ok reply], s⟩
  | other {c : Command} {reply : Reply} {s : Session} (h : c.isLoad = false) :
      Corresponds ⟨c, [.ok reply], s⟩ ⟨c, [.ok reply], s⟩

/-- Whether every program stops that the commands start, each of them where the ones before it left
the monitor. -/
def Monitor.Stops (m : Monitor) : List Command → Prop
  | [] => True
  | c :: cs =>
    ((∀ r, ¬ Refuses m.dumpCapacity c r) →
        ∀ machine, m.started? c = some machine → machine.run ≠ none) ∧
      ∀ answer m', m.answer c = some (answer, m') → m'.Stops cs

theorem Session.image_loaded {program : Bytes} (h : program.length ≤ memorySize) :
    (loaded program).machine.image = program ++ List.replicate (271 - program.length) 0 := by
  have hn : memorySize - program.length + 15 = 271 - program.length := by
    unfold memorySize at h ⊢
    omega
  have hz : Machine.zero.registers.toList ++ (Bytes.ofUInt16 0 ++
      ([Status.clear.toByte] ++ Bytes.ofUInt32 0)) = List.replicate 15 0 := by decide
  have hi : (loaded program).machine.image =
      (Machine.imageOf program).toList ++ List.replicate 15 0 := by
    simp only [Machine.image, List.append_assoc]
    exact congrArg ((Machine.imageOf program).toList ++ ·) hz
  rw [hi, Machine.toList_imageOf h, List.append_assoc, List.replicate_append_replicate, hn]

namespace Monitor

theorem answerAll_cons_of_answer {m m' : Monitor} {c : Command} {answer : Except Rejection Reply}
    (h : m.answer c = some (answer, m')) (cs : List Command) :
    m.answerAll (c :: cs) =
      (m'.answerAll cs).map fun (answers, m'') => (answer :: answers, m'') := by
  simp only [answerAll, h, Option.bind_eq_bind, Option.bind_some]
  cases m'.answerAll cs <;> rfl

theorem answerAll_singleton (m : Monitor) (c : Command) :
    m.answerAll [c] = (m.answer c).map fun (answer, m') => ([answer], m') := by
  simp only [answerAll, Option.bind_eq_bind, Option.bind_some]
  cases m.answer c <;> rfl

theorem executing_of_error {m : Monitor} {c : Command} {r : Rejection}
    (h : m.answer c = some (.error r, m)) : Client.executing m c = [c] := by
  rw [Client.executing, h]
  exact if_neg fun hn => Bool.false_ne_true hn.2

theorem executing_of_load {m m' : Monitor} {c : Command} {reply : Reply} (hc : c.isLoad = true)
    (h : m.answer c = some (.ok reply, m')) : Client.executing m c = [c, .execute] := by
  rw [Client.executing, h]
  exact if_pos ⟨hc, rfl⟩

theorem executing_of_other (m : Monitor) {c : Command} (hc : c.isLoad = false) :
    Client.executing m c = [c] := by
  rw [Client.executing, hc]
  exact if_neg fun hn => Bool.false_ne_true hn.1

theorem report_mk (s₀ s : Session) (mode : LoadMode) {capacity : Nat} (fault? : Option Fault)
    (hc : dumpLength ≤ capacity) : report ⟨s₀, mode, capacity⟩ s fault? =
      (.ok ⟨Hex.encode s.machine.image, s.phase, fault?⟩, ⟨s, mode, capacity⟩) :=
  report_eq _ s fault? hc

theorem serve_cons (client : Client) (m : Monitor) (c : Command) (cs : List Command) :
    m.serve client (c :: cs) = (m.answerAll (client m c)).bind fun (answers, m') =>
      (m'.serve client cs).bind fun turns => some (⟨c, answers, m'.session⟩ :: turns) := rfl

def Alike (s : Session) (capacity : Nat) (c : Command) : Prop :=
  Option.Rel
    (fun (answers, m) (answers', m') => ∃ s', m = ⟨s', .fused, capacity⟩ ∧
      m' = ⟨s', .split, capacity⟩ ∧ Corresponds ⟨c, answers, s'⟩ ⟨c, answers', s'⟩)
    (answerAll ⟨s, .fused, capacity⟩ [c])
    (answerAll ⟨s, .split, capacity⟩ (Client.executing ⟨s, .split, capacity⟩ c))

theorem alike_of_refuses (s : Session) {capacity : Nat} {c : Command} {r : Rejection}
    (h : Refuses capacity c r) : Alike s capacity c := by
  have hf : answer ⟨s, .fused, capacity⟩ c = some (.error r, ⟨s, .fused, capacity⟩) :=
    answer_of_refuses h
  have hs : answer ⟨s, .split, capacity⟩ c = some (.error r, ⟨s, .split, capacity⟩) :=
    answer_of_refuses h
  rw [Alike, executing_of_error hs, answerAll_singleton, answerAll_singleton, hf, hs]
  exact .some ⟨s, rfl, rfl, .rejected⟩

theorem alike_load (s : Session) {capacity : Nat} {c : Command} {program : Bytes}
    (hc : dumpLength ≤ capacity) (h : c.program? = some program) : Alike s capacity c := by
  have hl : c.isLoad = true := by
    cases c with
    | loadBinary | loadHex => rfl
    | execute | dump => cases h
  have hf := answer_load (m := ⟨s, .fused, capacity⟩) hc h
  rw [if_pos rfl] at hf
  have hs : answer ⟨s, .split, capacity⟩ c =
      some (report ⟨s, .split, capacity⟩ (Session.loaded program) none) :=
    answer_load hc h
  rw [report_mk _ _ _ _ hc, Session.image_loaded (Command.length_le_of_program? h)] at hs
  -- The execution that the client sends is the one that fused mode begins by itself.
  rw [Alike, executing_of_load hl hs, answerAll_cons_of_answer hs, answerAll_singleton,
    answerAll_singleton, hf, answer_execute hc]
  cases (Session.loaded program).execute with
  | none => exact .none
  | some result =>
    obtain ⟨execution, s'⟩ := result
    simp only [Option.map_some, report_mk _ s' _ execution.fault? hc]
    exact .some ⟨s', rfl, rfl, .loaded h⟩

theorem alike_execute (s : Session) {capacity : Nat} (hc : dumpLength ≤ capacity) :
    Alike s capacity .execute := by
  rw [Alike, executing_of_other _ rfl, answerAll_singleton, answerAll_singleton, answer_execute hc,
    answer_execute hc]
  cases s.execute with
  | none => exact .none
  | some result =>
    obtain ⟨execution, s'⟩ := result
    simp only [Option.map_some, report_mk _ s' _ execution.fault? hc]
    exact .some ⟨s', rfl, rfl, .other rfl⟩

theorem alike_dump (s : Session) {capacity : Nat} (hc : dumpLength ≤ capacity) :
    Alike s capacity .dump := by
  rw [Alike, executing_of_other _ rfl, answerAll_singleton, answerAll_singleton, answer_dump hc,
    answer_dump hc]
  simp only [Option.map_some, report_mk _ s _ none hc]
  exact .some ⟨s, rfl, rfl, .other rfl⟩

theorem alike (s : Session) (capacity : Nat) (c : Command) : Alike s capacity c := by
  rcases Nat.lt_or_ge capacity dumpLength with hc | hc
  · exact alike_of_refuses s (.noRoom c hc)
  rcases refuses_or_program hc c with ⟨r, hr⟩ | ⟨program, hp⟩ | rfl | rfl
  · exact alike_of_refuses s hr
  · exact alike_load s hc hp
  · exact alike_execute s hc
  · exact alike_dump s hc

theorem rel_serve (s : Session) (capacity : Nat) (cs : List Command) :
    Option.Rel (List.Forall₂ Corresponds) (serve .plain ⟨s, .fused, capacity⟩ cs)
      (serve .executing ⟨s, .split, capacity⟩ cs) := by
  induction cs generalizing s with
  | nil => exact .some .nil
  | cons c cs ih =>
    rw [serve_cons, serve_cons]
    apply rel_bind (alike s capacity c)
    rintro ⟨answers, m⟩ ⟨answers', m'⟩ ⟨s', rfl, rfl, ht⟩
    apply rel_bind (ih s')
    intro turns turns' hts
    exact .some (.cons ht hts)

theorem serve_plain_cons (m : Monitor) (c : Command) (cs : List Command) :
    m.serve .plain (c :: cs) = (m.answer c).bind fun (answer, m') =>
      (m'.serve .plain cs).map fun turns => ⟨c, [answer], m'.session⟩ :: turns := by
  rw [serve_cons, Client.plain, answerAll_singleton]
  cases m.answer c with
  | none => rfl
  | some p =>
    cases hs : p.2.serve .plain cs with
    | none => simp [hs]
    | some turns => simp [hs]

/-- All commands are answered exactly if no program that they start runs forever. -/
theorem exists_serve_plain_iff {m : Monitor} {cs : List Command} :
    (∃ turns, m.serve .plain cs = some turns) ↔ m.Stops cs := by
  induction cs generalizing m with
  | nil => exact ⟨fun _ => trivial, fun _ => ⟨[], rfl⟩⟩
  | cons c cs ih =>
    rw [serve_plain_cons, Stops, ← answer_ne_none_iff]
    cases ha : m.answer c with
    | none => simp
    | some p =>
      obtain ⟨answer, m'⟩ := p
      simp [← ih]

/-- From one session, a monitor in fused mode and one in split mode whose client executes what was
accepted stay in one session, command by command; the replies of the first are the last ones of the
second. Neither side comes back if the other does not, and both do if every program stops. -/
theorem fused_rel_split (s : Session) (capacity : Nat) (cs : List Command) :
    Option.Rel (List.Forall₂ Corresponds) (serve .plain ⟨s, .fused, capacity⟩ cs)
        (serve .executing ⟨s, .split, capacity⟩ cs) ∧
      (Stops ⟨s, .fused, capacity⟩ cs →
        ∃ turns turns', serve .plain ⟨s, .fused, capacity⟩ cs = some turns ∧
          serve .executing ⟨s, .split, capacity⟩ cs = some turns' ∧
          List.Forall₂ Corresponds turns turns') := by
  have hr := rel_serve s capacity cs
  refine ⟨hr, ?_⟩
  intro h
  obtain ⟨turns, ht⟩ := exists_serve_plain_iff.2 h
  rw [ht] at hr ⊢
  generalize serve .executing ⟨s, .split, capacity⟩ cs = side at hr
  cases hr with
  | @some _ turns' hc => exact ⟨turns, turns', rfl, rfl, hc⟩

/-- A program that faults behind its first instruction, a text that is turned down, and a second run
from where the first one stopped. -/
theorem fused_rel_split_faulting :
    let commands : List Command := [.loadBinary [0x01, 0x05], .loadHex [0x30], .execute]
    let shown (turn : Turn) : List (Option (Phase × Option Fault)) :=
      turn.answers.map fun answer => answer.toOption.map fun reply => (reply.phase, reply.fault?)
    let start (turn : Turn) : List (Option String) :=
      turn.answers.map fun answer => answer.toOption.map fun reply =>
        Bytes.toCharacters (reply.dump.take 6)
    let faulted := some (Phase.executed, some (Fault.invalidOpcode 0x05 1))
    Stops ⟨.fresh, .fused, 542⟩ commands ∧
      ∃ turns turns', serve .plain ⟨.fresh, .fused, 542⟩ commands = some turns ∧
        serve .executing ⟨.fresh, .split, 542⟩ commands = some turns' ∧
        List.Forall₂ Corresponds turns turns' ∧
        turns.map shown = [[faulted], [none], [faulted]] ∧
        turns'.map shown = [[some (.loaded, none), faulted], [none], [faulted]] ∧
        turns'.map start = [[some "010500", some "010500"], [none], [some "010500"]] := by
  intro commands shown start faulted
  have hf : (serve .plain ⟨.fresh, .fused, 542⟩ commands).map (·.map shown) =
      some [[faulted], [none], [faulted]] := by decide +kernel
  have hs : (serve .executing ⟨.fresh, .split, 542⟩ commands).map (·.map shown) =
      some [[some (.loaded, none), faulted], [none], [faulted]] := by decide +kernel
  have hd : (serve .executing ⟨.fresh, .split, 542⟩ commands).map (·.map start) =
      some [[some "010500", some "010500"], [none], [some "010500"]] := by decide +kernel
  obtain ⟨served, hserved, -⟩ := Option.map_eq_some_iff.1 hf
  have hstops : Stops ⟨.fresh, .fused, 542⟩ commands :=
    exists_serve_plain_iff.1 ⟨served, hserved⟩
  obtain ⟨turns, turns', ht, ht', hc⟩ := (fused_rel_split .fresh 542 commands).2 hstops
  rw [ht] at hf
  rw [ht'] at hs hd
  exact ⟨hstops, turns, turns', ht, ht', hc, Option.some.inj hf, Option.some.inj hs,
    Option.some.inj hd⟩

end Monitor

end HexMonitor
