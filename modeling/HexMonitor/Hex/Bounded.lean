import HexMonitor.Rejection

namespace HexMonitor.Hex

def read (text : Bytes) : Except Rejection Bytes :=
  (decode text).mapError Rejection.ofDecodeError

def encodeWithin (bytes : Bytes) (capacity : Nat) : Except Rejection Bytes :=
  if encodedLength bytes > capacity then .error (.bufferTooSmall (encodedLength bytes) capacity)
  else .ok (encode bytes)

/-- Replaces two places of the buffer for each byte, as long as there are two places left; `done`
holds what stands before the buffer, last first. -/
def overwrite (done : Bytes) : Bytes → Bytes → Bytes
  | byte :: bytes, _ :: _ :: rest =>
    overwrite (digit (byte &&& 0x0f) :: digit (byte >>> 4) :: done) bytes rest
  | _, buffer => done.reverse ++ buffer

def fill? (bytes place : Bytes) : Option Bytes :=
  if place.length = encodedLength bytes then some (overwrite [] bytes place) else none

/-- Writes over the front of `buffer` what `fill?` makes of a place with room for the text of `bytes`:
the number of characters written, and the buffer afterwards. -/
def encodeIntoBy (fill? : Bytes → Bytes → Option Bytes) (bytes buffer : Bytes) :
    Except Rejection Nat × Bytes :=
  let required := encodedLength bytes
  let tooSmall := Rejection.bufferTooSmall required buffer.length
  if required > buffer.length then (.error tooSmall, buffer)
  else
    match fill? bytes (buffer.take required) with
    -- Only a place of another length is left as it was, and that is a buffer of the wrong size too.
    | none => (.error tooSmall, buffer)
    | some text => (.ok required, text ++ buffer.drop required)

def encodeInto (bytes buffer : Bytes) : Except Rejection Nat × Bytes :=
  encodeIntoBy fill? bytes buffer

@[simp] theorem length_overwrite (done bytes buffer : Bytes) :
    (overwrite done bytes buffer).length = done.length + buffer.length := by
  fun_induction overwrite done bytes buffer with
  | case1 done byte bytes _ _ rest ih => simp only [ih, List.length_cons]; omega
  | case2 => simp

end HexMonitor.Hex
