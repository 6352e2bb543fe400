import HexMonitor.Proofs.HexSpelling
import HexMonitor.Proofs.Refusal

namespace HexMonitor

namespace Machine

theorem imageOf_toList (memory : Vector UInt8 256) : imageOf memory.toList = memory := by
  apply Vector.ext
  intro i hi
  simp [imageOf]

/-- A dump begins with the digits of the memory. -/
theorem take_encode_image (m : Machine) :
    (Hex.encode m.image).take 512 = Hex.encode m.memory.toList := by
  have hi : m.image = m.memory.toList ++ m.image.drop 256 := by simp [image]
  have hl : (Hex.encode m.memory.toList).length = 512 := by
    rw [Hex.length_encode, Hex.encodedLength, Vector.length_toList]
  rw [hi, Hex.encode_append, List.take_left' hl]

end Machine

namespace Session

theorem loadHex_eq_load {text program : Bytes} (h : Hex.Spells text program) :
    loadHex text = load program := by
  rw [loadHex, Hex.read_of_spells h]

end Session

namespace Monitor

/-- Both uploads of a program come to the same, if it is too long as if it is not. -/
theorem answer_loadHex (m : Monitor) {text program : Bytes} (h : Hex.Spells text program) :
    m.answer (.loadHex text) = m.answer (.loadBinary program) := by
  have hp : m.prepare (.loadHex text) = m.prepare (.loadBinary program) := by
    rw [prepare, prepare, Session.loadHex_eq_load h]
  rw [answer, answer, hp]

theorem answer_memory_of_dump (s : Session) {m : Monitor} (hm : m.mode = .split)
    (hc : dumpLength ≤ m.dumpCapacity) :
    m.answer (.loadHex ((Hex.encode s.machine.image).take 512)) =
      some (m.report (Session.loaded s.machine.memory.toList) none) := by
  have hl : s.machine.memory.toList.length ≤ memorySize := by
    rw [Vector.length_toList]
    exact Nat.le_refl 256
  have hp : (Command.loadBinary s.machine.memory.toList).program? =
      some s.machine.memory.toList := if_pos hl
  have hn : ¬ m.mode = .fused := by
    rw [hm]
    decide
  rw [Machine.take_encode_image, m.answer_loadHex (Hex.spells_encode _), answer_load hc hp, if_neg hn]

/-- Uploading a program as text or as bytes has the same answer and the same effect on every
monitor. In split mode, what uploads the memory of a dump is accepted, and leaves that memory and
nothing else of the state dumped. -/
theorem answer_upload :
    (∀ (m : Monitor) (text program : Bytes), Hex.Spells text program →
      m.answer (.loadHex text) = m.answer (.loadBinary program)) ∧
    ∀ (s : Session) (capacity : Nat), 542 ≤ capacity → ∃ dump, s.dump capacity = .ok dump ∧
      ∀ m : Monitor, m.mode = .split → 542 ≤ m.dumpCapacity → ∃ reply m',
        m.answer (.loadHex (dump.take 512)) = some (.ok reply, m') ∧
          m'.session.machine.memory = s.machine.memory ∧
          m'.session.machine.registers = Vector.replicate 8 0 ∧ m'.session.machine.pc = 0 ∧
          m'.session.machine.status = .clear ∧ m'.session.machine.cycles = 0 := by
  constructor
  · intro m text program h
    exact m.answer_loadHex h
  · intro s capacity hc
    refine ⟨Hex.encode s.machine.image, s.dump_eq_encode hc, ?_⟩
    intro m hm hmc
    have ha := answer_memory_of_dump s hm hmc
    rw [report_eq m _ none hmc] at ha
    exact ⟨_, _, ha, Machine.imageOf_toList s.machine.memory, rfl, rfl, rfl, rfl⟩

/-- Letters of either case in one byte, and the dump of a machine that faulted behind a jump. -/
theorem answer_upload_mixed_case :
    let m : Monitor := { mode := .split, dumpCapacity := 542 }
    let s : Session :=
      { machine :=
          { Machine.zero with
            memory := Machine.imageOf [0x02, 0x07], pc := 7, status := { faulted := true } } }
    Hex.Spells [0x61, 0x42, 0x30, 0x46] [0xab, 0x0f] ∧
      m.answer (.loadHex [0x61, 0x42, 0x30, 0x46]) = m.answer (.loadBinary [0xab, 0x0f]) ∧
      ∃ dump reply m', s.dump 542 = .ok dump ∧
        m.answer (.loadHex (dump.take 512)) = some (.ok reply, m') ∧
        m'.session.machine.memory = s.machine.memory ∧ m'.session.machine.pc = 0 := by
  intro m s
  have hs : Hex.Spells [0x61, 0x42, 0x30, 0x46] [0xab, 0x0f] :=
    .cons (.lower 0 (by decide)) (.upper 1 (by decide))
      (.cons (.figure 0 (by decide)) (.upper 5 (by decide)) .nil)
  obtain ⟨dump, hd, h⟩ := answer_upload.2 s 542 (by decide)
  obtain ⟨reply, m', ha, hm, -, hp, -⟩ := h m rfl (by decide)
  exact ⟨hs, answer_upload.1 m _ _ hs, dump, reply, m', hd, ha, hm, hp⟩

end Monitor

end HexMonitor
