import Funge.Text.Quoted

/-!
# What a machine asks of its surroundings

A machine reads and writes numbers and characters through a `Host`. A host is a type of states with
four operations; each returns the state after it also when it fails, because a failed operation can
have consumed input or written part of its output.
-/

namespace Funge

/-- A failure of a device, in the device's words. -/
structure DeviceFault where
  text : String
deriving DecidableEq, Repr

/-- Why a host could not supply input. -/
inductive InputFault where
  | endOfInput
  | invalidInteger (text : String)
  | device (fault : DeviceFault)
deriving DecidableEq, Repr

/-- What to tell about a failure to supply input. -/
def InputFault.message : InputFault → String
  | endOfInput => "end of input"
  | invalidInteger text => "invalid integer: " ++ Quoted.quote text
  | device fault => fault.text

/-- The operations a machine calls, over the states of a host. -/
class Host (σ : Type) where
  /-- Read a number. -/
  readInteger : σ → Except InputFault Int64 × σ
  /-- Read a character, as its code point. -/
  readChar : σ → Except InputFault Int64 × σ
  /-- Write a number and a space. -/
  writeInteger : Int64 → σ → Except DeviceFault Unit × σ
  /-- Write the character with a code point. -/
  writeChar : Int64 → σ → Except DeviceFault Unit × σ

end Funge
