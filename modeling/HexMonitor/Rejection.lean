import HexMonitor.Hex
import HexMonitor.Machine.Basic

namespace HexMonitor

inductive Rejection
  | invalidEncoding (reason : String)
  | programTooLarge (length capacity : Nat)
  | bufferTooSmall (required capacity : Nat)
  deriving DecidableEq, Repr

namespace Rejection

def message : Rejection → String
  | invalidEncoding reason => "Invalid hex encoding: " ++ reason
  | programTooLarge length capacity =>
    "Program of " ++ toString length ++ " bytes exceeds machine capacity of " ++ toString capacity
      ++ " bytes"
  | bufferTooSmall required capacity =>
    "Dump needs " ++ toString required ++ " bytes but the buffer holds " ++ toString capacity

def ofDecodeError (e : Hex.DecodeError) : Rejection := invalidEncoding e.message

def ofLoadError (e : LoadError) : Rejection := programTooLarge e.length e.capacity

end Rejection

end HexMonitor
