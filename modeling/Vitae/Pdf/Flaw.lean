import Vitae.Fault

/-!
What is wrong with a PDF file, with the words it is told in.
-/

namespace Vitae.Pdf

inductive Flaw where
  /-- The file breaks the rules of its format. -/
  | malformed (message : String)
  /-- The file ends, or a stream begins, where it must not. -/
  | truncated (message : String)
  | badValue (message : String)
  | absentKey (key : String)
  /-- A value is of a shape that no check foresees. -/
  | misuse (cause : Misuse)
  deriving DecidableEq, Repr

namespace Flaw

def message : Flaw → String
  | .malformed message => message
  | .truncated message => message
  | .badValue message => message
  | .absentKey key => Text.quoted ("/" ++ key)
  | .misuse _ => ""

/-- The stream of characters ended within a value. -/
def ended : Flaw := .truncated "Stream has ended unexpectedly"

/-- A flaw as a fault of watermarking, by what the flaw keeps from being done. -/
def toFault (hindered : String → WatermarkFault) : Flaw → Fault
  | .misuse cause => .misuse cause
  | flaw => .watermark (hindered flaw.message)

end Flaw

/-- A result that may be kept back by a flaw, with the flaw told as a fault. -/
def foreseen {α : Type} (hindered : String → WatermarkFault) (result : Except Flaw α) :
    Checked α := result.mapError (Flaw.toFault hindered)

end Vitae.Pdf
