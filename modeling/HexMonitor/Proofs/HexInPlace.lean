import HexMonitor.Proofs.Dumps
import HexMonitor.Proofs.HexCodec

namespace HexMonitor

namespace Hex

/-- `Agree required buffer written result`: writing a text of `required` characters under the limit
that is the length of `buffer`, and writing it over the front of `buffer`, come to the same. -/
inductive Agree (required : Nat) (buffer : Bytes) :
    Except Rejection Bytes → Except Rejection Nat × Bytes → Prop
  | tooSmall (h : buffer.length < required) :
      Agree required buffer (.error (.bufferTooSmall required buffer.length))
        (.error (.bufferTooSmall required buffer.length), buffer)
  | fits {text buffer' : Bytes} (h : required ≤ buffer.length) (hl : text.length = required)
      (hf : buffer'.take required = text)
      (hr : ∀ i, required ≤ i → buffer'[i]? = buffer[i]?) :
      Agree required buffer (.ok text) (.ok required, buffer')

theorem agree_encodeInto (bytes buffer : Bytes) :
    Agree (encodedLength bytes) buffer (encodeWithin bytes buffer.length)
      (encodeInto bytes buffer) := by
  rcases Nat.lt_or_ge buffer.length (encodedLength bytes) with hlt | hle
  · rw [encodeWithin, encodeInto, encodeIntoBy, if_pos hlt, if_pos hlt]
    exact .tooSmall hlt
  · have hl := length_encode bytes
    rw [encodeWithin, if_neg (Nat.not_lt.2 hle), encodeInto_eq hle]
    refine .fits hle hl (List.take_left' hl) ?_
    intro i hi
    rw [List.getElem?_append_right (hl.symm ▸ hi), hl, List.getElem?_drop, Nat.add_sub_cancel' hi]

/-- Writing a text under a limit and writing it over the front of a buffer of that length have the
same outcome, also for the dump of any session. Once the buffer is known to be long enough, there is
no way to fail: not for any way to fill a place that fails only for a place of another length. -/
theorem encodeInto_agrees_encodeWithin :
    (∀ bytes buffer : Bytes,
      Agree (2 * bytes.length) buffer (encodeWithin bytes buffer.length)
        (encodeInto bytes buffer)) ∧
    (∀ fill? : Bytes → Bytes → Option Bytes,
      (∀ bytes place : Bytes, fill? bytes place = none → place.length ≠ 2 * bytes.length) →
      ∀ bytes buffer : Bytes, 2 * bytes.length ≤ buffer.length →
        ∃ text, fill? bytes (buffer.take (2 * bytes.length)) = some text ∧
          encodeIntoBy fill? bytes buffer =
            (.ok (2 * bytes.length), text ++ buffer.drop (2 * bytes.length))) ∧
    ∀ (s : Session) (buffer : Bytes),
      Agree 542 buffer (s.dump buffer.length) (s.dumpInto buffer) := by
  have hl (bytes : Bytes) : encodedLength bytes = 2 * bytes.length := Nat.mul_comm _ _
  refine ⟨?_, ?_, ?_⟩
  · intro bytes buffer
    rw [← hl]
    exact agree_encodeInto bytes buffer
  · intro fill? hfill bytes buffer h
    have hp : (buffer.take (2 * bytes.length)).length = 2 * bytes.length :=
      List.length_take_of_le h
    have hne : fill? bytes (buffer.take (2 * bytes.length)) ≠ none :=
      fun hn => hfill bytes _ hn hp
    obtain ⟨text, ht⟩ := Option.ne_none_iff_exists'.1 hne
    rw [← hl] at h ht ⊢
    exact ⟨text, ht, encodeIntoBy_eq h ht⟩
  · intro s buffer
    rw [← s.encodedLength_image]
    exact agree_encodeInto s.machine.image buffer

/-- A byte in the front of three, and in a buffer of one. -/
theorem encodeInto_agrees_encodeWithin_tail :
    Agree 2 [0x2e, 0x2e, 0x2f] (encodeWithin [0xa7] 3) (encodeInto [0xa7] [0x2e, 0x2e, 0x2f]) ∧
    Agree 2 [0x2e] (encodeWithin [0xa7] 1) (encodeInto [0xa7] [0x2e]) ∧
    (∃ text, fill? [0xa7] [0x2e, 0x2e] = some text ∧
      encodeIntoBy fill? [0xa7] [0x2e, 0x2e, 0x2f] = (.ok 2, text ++ [0x2f])) ∧
    Agree 542 [0x2e] (Session.fresh.dump 1) (Session.fresh.dumpInto [0x2e]) := by
  obtain ⟨hagree, hfill, hdump⟩ := encodeInto_agrees_encodeWithin
  have hf : ∀ bytes place : Bytes, fill? bytes place = none → place.length ≠ 2 * bytes.length := by
    intro bytes place h hl
    rw [fill?_eq (hl.trans (Nat.mul_comm _ _))] at h
    cases h
  exact ⟨hagree [0xa7] [0x2e, 0x2e, 0x2f], hagree [0xa7] [0x2e],
    hfill fill? hf [0xa7] [0x2e, 0x2e, 0x2f] (by decide), hdump Session.fresh [0x2e]⟩

end Hex

end HexMonitor
