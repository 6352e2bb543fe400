import HexMonitor.Proofs.Dumps
import HexMonitor.Proofs.Phases

namespace HexMonitor

/-- `Accounts image pc f`: by the memory in an image, the instruction at `pc` cannot be executed for
the reason `f`. -/
inductive Accounts (image : Bytes) (pc : UInt16) : Fault → Prop
  | outside (hp : pc = 256) : Accounts image pc (.truncated pc)
  | unassigned {byte : UInt8} (hp : pc < 256) (hb : image[pc.toNat]? = some byte)
      (h : Opcode.ofByte? byte = none) : Accounts image pc (.invalidOpcode byte pc)
  | crossing {op : Opcode} (hp : pc < 256) (ho : image[pc.toNat]? = some op.toByte)
      (h : 256 < pc.toNat + op.size) : Accounts image pc (.truncated pc)
  | badFirst {op : Opcode} {r : UInt8} (ho : image[pc.toNat]? = some op.toByte)
      (hs : pc.toNat + op.size ≤ 256) (hn : 1 ≤ op.registerOperands)
      (hr : image[pc.toNat + 1]? = some r) (h : 8 ≤ r) : Accounts image pc (.invalidRegister r pc)
  | badSecond {op : Opcode} {r r' : UInt8} (ho : image[pc.toNat]? = some op.toByte)
      (hs : pc.toNat + op.size ≤ 256) (hn : op.registerOperands = 2)
      (hr : image[pc.toNat + 1]? = some r) (h : r < 8) (hr' : image[pc.toNat + 2]? = some r')
      (h' : 8 ≤ r') : Accounts image pc (.invalidRegister r' pc)

/-- `Told image executed fault?`: what the reply to a command tells about a fault is what its dump
tells. -/
structure Told (image : Bytes) (executed : Prop) (fault? : Option Fault) : Prop where
  isSome_iff : fault?.isSome ↔ executed ∧ image[266]? = some 0x02
  halted : executed → fault? = none → image[266]? = some 0x01
  fault : ∀ f, fault? = some f →
    f.pc.toNat = Bytes.bigEndian ((image.drop 264).take 2) ∧ Accounts image f.pc f

theorem told_of_not_executed (image : Bytes) {executed : Prop} (hx : ¬ executed) :
    Told image executed none := by
  constructor
  case isSome_iff => exact ⟨fun hs => Bool.noConfusion hs, fun hs => absurd hs.1 hx⟩
  case halted => exact fun he => absurd he hx
  case fault =>
    intro f hs
    cases hs

namespace Machine

theorem getElem?_image (m : Machine) {i : Nat} (h : i < memorySize) :
    m.image[i]? = m.memory[i]? := by
  have hi : i < 256 := h
  simp [image, List.getElem?_append, hi]

theorem Faults.pc_eq {m : Machine} {f : Fault} (h : m.Faults f) : f.pc = m.pc := by
  cases h <;> rfl

/-- What is wrong with a machine can be seen in its image. -/
theorem Faults.accounts {m : Machine} {f : Fault} (h : m.Faults f)
    (hp : m.pc.toNat ≤ memorySize) : Accounts m.image m.pc f := by
  have hi {i : Nat} {byte : UInt8} (hb : m.memory[i]? = some byte) :
      i < 256 ∧ m.image[i]? = some byte := by
    obtain ⟨hl, -⟩ := Vector.getElem?_eq_some_iff.1 hb
    exact ⟨hl, (m.getElem?_image hl).trans hb⟩
  cases h with
  | outside h => exact .outside (UInt16.toNat_inj.1 (Nat.le_antisymm hp h))
  | unassigned hb h =>
    obtain ⟨hl, hb⟩ := hi hb
    exact .unassigned (UInt16.lt_iff_toNat_lt.2 hl) hb h
  | crossing ho h =>
    obtain ⟨hl, ho⟩ := hi ho
    exact .crossing (UInt16.lt_iff_toNat_lt.2 hl) ho h
  | badFirst ho hs hn hr h => exact .badFirst (hi ho).2 hs hn (hi hr).2 h
  | badSecond ho hs hn hr h hr' h' => exact .badSecond (hi ho).2 hs hn (hi hr).2 h (hi hr').2 h'

theorem getElem?_imageOf {bytes : Bytes} {i : Nat} {byte : UInt8} (hi : i < memorySize)
    (h : bytes[i]? = some byte) : (imageOf bytes)[i]? = some byte := by
  have hi' : i < 256 := hi
  simp [imageOf, hi', h]

theorem AtRest.status_in_image {m : Machine} {stop : Stop} (h : m.AtRest stop) :
    m.image[266]? = some (if stop = .halted then 0x01 else 0x02) := by
  rw [m.isImageOf_image.status, h.status_eq]
  cases stop <;> rfl

/-- The image of a machine at rest tells how it stopped. -/
theorem AtRest.told {m : Machine} {stop : Stop} (h : m.AtRest stop)
    (hp : m.pc.toNat ≤ memorySize) {executed : Prop} (hx : executed) :
    Told m.image executed stop.fault? := by
  cases stop with
  | halted =>
    have hb : m.image[266]? = some 0x01 := h.status_in_image
    constructor
    case isSome_iff =>
      rw [hb]
      exact ⟨fun hs => Bool.noConfusion hs, fun hs => absurd hs.2 (by decide)⟩
    case halted => exact fun _ _ => hb
    case fault =>
      intro f hs
      cases hs
  | faulted f =>
    have hb : m.image[266]? = some 0x02 := h.status_in_image
    constructor
    case isSome_iff => exact ⟨fun _ => ⟨hx, hb⟩, fun _ => rfl⟩
    case halted =>
      intro _ hn
      cases hn
    case fault =>
      intro f' hs
      cases hs
      rw [h.faults.pc_eq]
      exact ⟨m.isImageOf_image.pc.symm, h.faults.accounts hp⟩

end Machine

/-- What accounts for a fault makes a machine fault that has nothing but the memory of the image and
the program counter. -/
theorem Accounts.faults {image : Bytes} {pc : UInt16} {f : Fault} (h : Accounts image pc f) :
    Machine.Faults { Machine.zero with memory := Machine.imageOf image, pc } f := by
  cases h with
  | outside hp => exact .outside (by rw [hp]; exact Nat.le_refl 256)
  | unassigned hp hb h => exact .unassigned (Machine.getElem?_imageOf hp hb) h
  | crossing hp ho h => exact .crossing (Machine.getElem?_imageOf hp ho) h
  | @badFirst op r ho hs hn hr h =>
    have hc := op.registerOperands_le
    unfold Opcode.size at hs
    have h₁ : pc.toNat + 1 < memorySize := by unfold memorySize; omega
    exact .badFirst (Machine.getElem?_imageOf (Nat.lt_of_succ_lt h₁) ho) hs hn
      (Machine.getElem?_imageOf h₁ hr) h
  | @badSecond op r r' ho hs hn hr h hr' h' =>
    have hc := op.registerOperands_le
    unfold Opcode.size at hs
    have h₂ : pc.toNat + 2 < memorySize := by unfold memorySize; omega
    have h₁ : pc.toNat + 1 < memorySize := Nat.lt_of_succ_lt h₂
    exact .badSecond (Machine.getElem?_imageOf (Nat.lt_of_succ_lt h₁) ho) hs hn
      (Machine.getElem?_imageOf h₁ hr) h (Machine.getElem?_imageOf h₂ hr') h'

/-- An image accounts for one fault at most at an address. -/
theorem Accounts.unique {image : Bytes} {pc : UInt16} {f f' : Fault} (h : Accounts image pc f)
    (h' : Accounts image pc f') : f = f' :=
  Except.error.inj (h.faults.fetch_eq.symm.trans h'.faults.fetch_eq)

namespace Monitor

def Executes (m : Monitor) : Command → Prop
  | .loadBinary _ | .loadHex _ => m.mode = .fused
  | .execute => True
  | .dump => False

/-- The monitors that come from a new one by answering commands. -/
inductive Reachable : Monitor → Prop
  | new (mode : LoadMode) (capacity : Nat) : Reachable { mode, dumpCapacity := capacity }
  | answer {m m' : Monitor} {c : Command} {answer : Except Rejection Reply} (hm : Reachable m)
      (h : m.answer c = some (answer, m')) : Reachable m'

theorem run_of_execute_report {m m' : Monitor} {s : Session} {reply : Reply}
    (hc : dumpLength ≤ m.dumpCapacity)
    (h : s.execute.map (fun (execution, s') => m.report s' execution.fault?) =
      some (.ok reply, m')) :
    ∃ stop, s.machine.run = some (stop, m'.session.machine) ∧ reply.fault? = stop.fault? := by
  obtain ⟨execution, s', hs, rfl, hr⟩ := eq_of_execute_report hc h
  obtain ⟨stop, machine, hm, rfl, rfl⟩ := Session.execute_eq_some hs
  cases hr
  exact ⟨stop, hm, rfl⟩

/-- An accepted command runs a machine and tells how it stopped, or it runs none and tells of no
fault. -/
theorem runs_or_shows {m m' : Monitor} {c : Command} {reply : Reply}
    (h : m.answer c = some (.ok reply, m')) :
    (m.Executes c ∧ ∃ machine stop, m.started? c = some machine ∧
      machine.run = some (stop, m'.session.machine) ∧ reply.fault? = stop.fault?) ∨
    (¬ m.Executes c ∧ reply.fault? = none ∧
      (m'.session = m.session ∨ ∃ program, m'.session = .loaded program)) := by
  obtain ⟨hc, -⟩ := reply_eq_of_answer h
  rcases refuses_or_program hc c with ⟨r, hr⟩ | ⟨program, hp⟩ | rfl | rfl
  · cases h.symm.trans (answer_of_refuses hr)
  · have hx : m.Executes c ↔ m.mode = .fused := by
      cases c with
      | loadBinary | loadHex => exact Iff.rfl
      | execute | dump => cases hp
    rw [answer_load hc hp] at h
    split at h
    · rename_i hf
      obtain ⟨stop, hm, hs⟩ := run_of_execute_report hc h
      exact .inl ⟨hx.2 hf, _, stop, started?_load hp hf, hm, hs⟩
    · rename_i hf
      obtain ⟨he, rfl⟩ := eq_of_report hc (Option.some.inj h)
      obtain rfl := Except.ok.inj he
      exact .inr ⟨fun he => hf (hx.1 he), rfl, .inr ⟨program, rfl⟩⟩
  · rw [answer_execute hc] at h
    obtain ⟨stop, hm, hs⟩ := run_of_execute_report hc h
    exact .inl ⟨trivial, _, stop, rfl, hm, hs⟩
  · rw [answer_dump hc] at h
    obtain ⟨he, rfl⟩ := eq_of_report hc (Option.some.inj h)
    obtain rfl := Except.ok.inj he
    exact .inr ⟨id, rfl, .inl rfl⟩

theorem pc_le_of_started {m : Monitor} {c : Command} {machine : Machine}
    (hm : m.session.machine.pc.toNat ≤ memorySize) (h : m.started? c = some machine) :
    machine.pc.toNat ≤ memorySize := by
  have hl {program? : Option Bytes} (h : (if m.mode = .fused then
      program?.map fun p => (Session.loaded p).machine else none) = some machine) :
      machine.pc.toNat ≤ memorySize := by
    obtain ⟨-, h⟩ := Option.ite_none_right_eq_some.1 h
    obtain ⟨program, -, rfl⟩ := Option.map_eq_some_iff.1 h
    exact Nat.zero_le memorySize
  cases c with
  | loadBinary | loadHex | dump => exact hl h
  | execute =>
    cases h
    exact hm

theorem pc_le_of_answer {m m' : Monitor} {c : Command} {answer : Except Rejection Reply}
    (hm : m.session.machine.pc.toNat ≤ memorySize) (h : m.answer c = some (answer, m')) :
    m'.session.machine.pc.toNat ≤ memorySize := by
  rcases answer_cases h with ⟨r, -, -, rfl⟩ | ⟨-, -, fault?, rfl⟩
  · exact hm
  · rcases runs_or_shows h with ⟨-, machine, stop, hs, hr, -⟩ | ⟨-, -, hs | ⟨program, hs⟩⟩
    · exact Machine.pc_le_of_run hr (pc_le_of_started hm hs)
    · rwa [hs]
    · rw [hs]
      exact Nat.zero_le memorySize

theorem Reachable.pc_le {m : Monitor} (h : m.Reachable) :
    m.session.machine.pc.toNat ≤ memorySize := by
  induction h with
  | new => exact Nat.zero_le memorySize
  | answer _ ha ih => exact pc_le_of_answer ih ha

theorem told_of_answer {m m' : Monitor} {c : Command} {reply : Reply} (hm : m.Reachable)
    (h : m.answer c = some (.ok reply, m')) :
    Told m'.session.machine.image (m.Executes c) reply.fault? := by
  rcases runs_or_shows h with ⟨hx, machine, stop, hs, hr, hf⟩ | ⟨hx, hf, -⟩
  · have hp := Machine.pc_le_of_run hr (pc_le_of_started hm.pc_le hs)
    rw [hf]
    exact (Machine.atRest_of_run hr).told hp hx
  · rw [hf]
    exact told_of_not_executed _ hx

/-- What a reply tells of a fault is what its dump tells: whether there was one by the status byte,
where by the program counter, and which by the memory. So runs that fault with one dump fault
alike. -/
theorem fault_told_by_dump {m m' : Monitor} {c : Command} {reply : Reply} (hm : m.Reachable)
    (h : m.answer c = some (.ok reply, m')) :
    ∃ image, Hex.read reply.dump = .ok image ∧ image.length = 271 ∧
      Told image (m.Executes c) reply.fault? ∧
      (∀ pc f f', Accounts image pc f → Accounts image pc f' → f = f') ∧
      ∀ (m₁ m₁' : Monitor) (c₁ : Command) (reply₁ : Reply), m₁.Reachable →
        m₁.answer c₁ = some (.ok reply₁, m₁') → reply₁.dump = reply.dump →
        ∀ f f₁, reply.fault? = some f → reply₁.fault? = some f₁ → f₁ = f := by
  obtain ⟨-, hd⟩ := reply_eq_of_answer h
  have ht := told_of_answer hm h
  refine ⟨m'.session.machine.image, ?_, m'.session.machine.length_image, ht, ?_, ?_⟩
  · rw [hd, Hex.read_of_spells (Hex.spells_encode _)]
  · intro pc f f' hf hf'
    exact hf.unique hf'
  · intro m₁ m₁' c₁ reply₁ hm₁ h₁ he f f₁ hf hf₁
    obtain ⟨-, hd₁⟩ := reply_eq_of_answer h₁
    have ht₁ := told_of_answer hm₁ h₁
    rw [hd, hd₁, Hex.encode_inj] at he
    rw [he] at ht₁
    obtain ⟨hp, ha⟩ := ht.fault f hf
    obtain ⟨hp₁, ha₁⟩ := ht₁.fault f₁ hf₁
    have hpc : f₁.pc = f.pc := UInt16.toNat_inj.1 (hp₁.trans hp.symm)
    rw [hpc] at ha₁
    exact ha₁.unique ha

/-- A program writes an unassigned byte over its halt instruction and faults there; and it does so
again when it is loaded once more, from its text. -/
theorem fault_told_by_dump_overwritten :
    let m : Monitor := { mode := .fused, dumpCapacity := 542 }
    let program : Bytes := [0x10, 0x00, 0x05, 0x21, 0x00, 0x06, 0x00]
    ∃ reply m' image, m.answer (.loadBinary program) = some (.ok reply, m') ∧
      reply.fault? = some (.invalidOpcode 0x05 6) ∧ Hex.read reply.dump = .ok image ∧
      image[266]? = some 0x02 ∧ Accounts image 6 (.invalidOpcode 0x05 6) ∧
      ∃ reply₁ m₁, m'.answer (.loadHex (Hex.encode program)) = some (.ok reply₁, m₁) ∧
        reply₁.dump = reply.dump ∧ ∀ f, reply₁.fault? = some f → f = .invalidOpcode 0x05 6 := by
  intro m program
  have h : ((m.answer (.loadBinary program)).any fun p => p.1.toOption.any fun reply =>
      reply.fault? = some (.invalidOpcode 0x05 6)) = true := by
    decide +kernel
  obtain ⟨⟨answer, m'⟩, ha, h⟩ := (Option.any_eq_true _ _).1 h
  cases answer with
  | error r => cases h
  | ok reply =>
    have hf : reply.fault? = some (.invalidOpcode 0x05 6) := of_decide_eq_true h
    have hm : m.Reachable := .new .fused 542
    have hm' := answer_session ha
    have ht : (Command.loadHex (Hex.encode program)).program? = some program := by decide
    have hc : dumpLength ≤ m'.dumpCapacity := by
      rw [hm']
      exact (by decide : dumpLength ≤ 542)
    have ha₁ : m'.answer (.loadHex (Hex.encode program)) = some (.ok reply, m') := by
      rw [← ha]
      exact answer_load_congr hc (by rw [hm']) (by rw [hm']) ht (by decide)
    obtain ⟨image, hr, -, ht, -, hu⟩ := fault_told_by_dump hm ha
    obtain ⟨-, hi⟩ := ht.isSome_iff.1 (by rw [hf]; rfl)
    refine ⟨reply, m', image, ha, hf, hr, hi, (ht.fault _ hf).2, reply, m', ha₁, rfl, ?_⟩
    intro f hf₁
    exact hu m' m' _ reply (.answer hm ha) ha₁ rfl _ f hf hf₁

end Monitor

end HexMonitor
