import HexMonitor.Proofs.HexSpelling
import HexMonitor.Proofs.History

namespace HexMonitor

/-- The number that bytes are in base 256, the most significant first. -/
def Bytes.bigEndian (bytes : Bytes) : Nat := bytes.foldl (fun n byte => 256 * n + byte.toNat) 0

theorem Bytes.bigEndian_ofUInt16 (word : UInt16) : (ofUInt16 word).bigEndian = word.toNat := by
  have h := word.toNat_lt
  simp only [bigEndian, ofUInt16, List.foldl_cons, List.foldl_nil, UInt16.toNat_toUInt8,
    UInt16.toNat_shiftRight, UInt16.reduceToNat, Nat.shiftRight_eq_div_pow, Nat.reduceMod,
    Nat.reducePow]
  omega

theorem Bytes.bigEndian_ofUInt32 (word : UInt32) : (ofUInt32 word).bigEndian = word.toNat := by
  have h := word.toNat_lt
  simp only [bigEndian, ofUInt32, List.foldl_cons, List.foldl_nil, UInt32.toNat_toUInt8,
    UInt32.toNat_shiftRight, UInt32.reduceToNat, Nat.shiftRight_eq_div_pow, Nat.reduceMod,
    Nat.reducePow]
  omega

theorem Status.toByte_eq (s : Status) :
    s.toByte = (if s.halted then 1 else 0) + if s.faulted then 2 else 0 := by
  obtain ⟨halted, faulted⟩ := s
  cases halted <;> cases faulted <;> rfl

namespace Machine

/-- `IsImageOf image m`: the 271 bytes of `image` are, part by part, the state of `m`. -/
structure IsImageOf (image : Bytes) (m : Machine) : Prop where
  length_eq : image.length = 271
  memory : image.take 256 = m.memory.toList
  registers : (image.drop 256).take 8 = m.registers.toList
  pc : Bytes.bigEndian ((image.drop 264).take 2) = m.pc.toNat
  status : image[266]? =
    some ((if m.status.halted then 1 else 0) + if m.status.faulted then 2 else 0)
  cycles : Bytes.bigEndian ((image.drop 267).take 4) = m.cycles.toNat

theorem isImageOf_image (m : Machine) : IsImageOf m.image m := by
  have hd : m.image.drop 264 =
      Bytes.ofUInt16 m.pc ++ [m.status.toByte] ++ Bytes.ofUInt32 m.cycles := m.drop_image
  constructor
  case length_eq => exact m.length_image
  case memory => simp [image]
  case registers => simp [image]
  case pc =>
    rw [hd, ← Bytes.bigEndian_ofUInt16]
    rfl
  case status =>
    have hs : m.image[266]? = (m.image.drop 264)[2]? := by rw [List.getElem?_drop]
    rw [hs, hd, ← Status.toByte_eq]
    rfl
  case cycles =>
    have hc : m.image.drop 267 = (m.image.drop 264).drop 3 := by rw [List.drop_drop]
    rw [hc, hd, ← Bytes.bigEndian_ofUInt32]
    rfl

/-- A block of bytes is the image of one machine at most. -/
theorem IsImageOf.unique {image : Bytes} {m m' : Machine} (h : IsImageOf image m)
    (h' : IsImageOf image m') : m = m' := by
  have hm : m.memory = m'.memory := Vector.toList_inj.1 (h.memory.symm.trans h'.memory)
  have hr : m.registers = m'.registers := Vector.toList_inj.1 (h.registers.symm.trans h'.registers)
  have hp : m.pc = m'.pc := UInt16.toNat_inj.1 (h.pc.symm.trans h'.pc)
  have hc : m.cycles = m'.cycles := UInt32.toNat_inj.1 (h.cycles.symm.trans h'.cycles)
  have hs : m.status = m'.status := by
    have hb := Option.some.inj (h.status.symm.trans h'.status)
    revert hb
    obtain ⟨halted, faulted⟩ := m.status
    obtain ⟨halted', faulted'⟩ := m'.status
    revert halted faulted halted' faulted'
    decide
  obtain ⟨memory, registers, pc, status, cycles⟩ := m
  simp only at hm hr hp hc hs
  rw [hm, hr, hp, hc, hs]

theorem isImageOf_image_iff (m m' : Machine) : IsImageOf m.image m' ↔ m' = m := by
  constructor
  · intro h
    exact h.unique m.isImageOf_image
  · rintro rfl
    exact m'.isImageOf_image

theorem image_inj {m m' : Machine} : m.image = m'.image ↔ m = m' := by
  constructor
  · intro h
    have hi := congrArg ofImage? h
    rwa [ofImage?_image, ofImage?_image, Option.some.injEq] at hi
  · intro h
    rw [h]

end Machine

namespace Session

theorem encodedLength_image (s : Session) : Hex.encodedLength s.machine.image = 542 := by
  rw [Hex.encodedLength, Machine.length_image]
  rfl

theorem dumpInto_eq (s : Session) {buffer : Bytes} (h : 542 ≤ buffer.length) :
    s.dumpInto buffer = (.ok 542, Hex.encode s.machine.image ++ buffer.drop 542) := by
  have hl := s.encodedLength_image
  rw [dumpInto, Hex.encodeInto_eq (hl.symm ▸ h), hl]

end Session

namespace Monitor

/-- A reply shows the session that its command left behind. -/
theorem reply_eq_of_answer {m m' : Monitor} {c : Command} {reply : Reply}
    (h : m.answer c = some (.ok reply, m')) :
    dumpLength ≤ m.dumpCapacity ∧ reply.dump = Hex.encode m'.session.machine.image := by
  rcases answer_cases h with ⟨r, -, he, -⟩ | ⟨hc, -, fault?, he⟩
  · cases he
  · cases he
    exact ⟨hc, rfl⟩

end Monitor

/-- Where there is room for it, a dump is 542 lowercase digits that read back as the image, of which
every part of the machine is recovered; it is the same in a buffer, no two machines share one, and
the reply to a command carries that of the session left behind. -/
theorem dump_faithful (capacity : Nat) (hc : 542 ≤ capacity) :
    (∀ s : Session, ∃ text, s.dump capacity = .ok text ∧ text.length = 542 ∧
      (∀ c ∈ text, Hex.IsLowerDigit c) ∧ Hex.read text = .ok s.machine.image ∧
      (∀ m, Machine.IsImageOf s.machine.image m ↔ m = s.machine) ∧
      ∀ buffer : Bytes, 542 ≤ buffer.length →
        s.dumpInto buffer = (.ok 542, text ++ buffer.drop 542)) ∧
    (∀ (s s' : Session) (capacity' : Nat), 542 ≤ capacity' →
      (s.dump capacity = s'.dump capacity' ↔ s.machine = s'.machine)) ∧
    ∀ (m m' : Monitor) (c : Command) (reply : Reply), m.answer c = some (.ok reply, m') →
      m'.session.dump m'.dumpCapacity = .ok reply.dump := by
  refine ⟨?_, ?_, ?_⟩
  · intro s
    have hl : (Hex.encode s.machine.image).length = 542 := by
      rw [Hex.length_encode, s.encodedLength_image]
    have hr := Hex.read_of_spells (Hex.spells_encode s.machine.image)
    refine ⟨Hex.encode s.machine.image, s.dump_eq_encode hc, hl, ?_, hr, ?_, ?_⟩
    · intro c h
      exact Hex.isLowerDigit_of_mem_encode h
    · exact s.machine.isImageOf_image_iff
    · intro buffer hb
      exact s.dumpInto_eq hb
  · intro s s' capacity' hc'
    rw [s.dump_eq_encode hc, s'.dump_eq_encode hc', Except.ok.injEq, Hex.encode_inj,
      Machine.image_inj]
  · intro m m' c reply h
    obtain ⟨hm, hd⟩ := Monitor.reply_eq_of_answer h
    have hm' : dumpLength ≤ m'.dumpCapacity := by
      rw [Monitor.answer_session h]
      exact hm
    rw [m'.session.dump_eq_encode hm', hd]

/-- Program counters of the same two bytes in either order are told apart, in a text as in a buffer
with room for one character more. -/
theorem dump_faithful_byte_order :
    let s : Session := { machine := { Machine.zero with pc := 1 } }
    let s' : Session := { machine := { Machine.zero with pc := 256 } }
    let m : Monitor := { session := s, mode := .fused, dumpCapacity := 542 }
    s.dump 542 ≠ s'.dump 600 ∧
      (∃ text, s.dump 542 = .ok text ∧ Hex.read text = .ok s.machine.image ∧
        s.dumpInto (List.replicate 543 0x2e) = (.ok 542, text ++ [0x2e])) ∧
      ∃ reply, m.answer .dump = some (.ok reply, m) ∧ s.dump 542 = .ok reply.dump := by
  intro s s' m
  have h := dump_faithful 542 (by decide)
  have hm : m.answer .dump = some (m.report s none) := Monitor.answer_dump (by decide)
  rw [Monitor.report_eq m s none (by decide)] at hm
  obtain ⟨text, hd, -, -, hr, -, hb⟩ := h.1 s
  refine ⟨?_, ⟨text, hd, hr, ?_⟩, _, hm, h.2.2 m m .dump _ hm⟩
  · intro he
    have hs := (h.2.1 s s' 600 (by decide)).1 he
    have hp : (1 : UInt16) = 256 := congrArg Machine.pc hs
    exact absurd hp (by decide)
  · have hl : 542 ≤ (List.replicate 543 (0x2e : UInt8)).length := by
      rw [List.length_replicate]
      decide
    rw [hb _ hl, List.drop_replicate]
    rfl

end HexMonitor
