import Vitae.Decimal.Number
import Vitae.Document.Compilation
import Vitae.Text.Whole

/-!
What the environment sets: the watermark of protected previews, how long edits are held back, the
channel of embedded previews and where to keep a log.
-/

namespace Vitae

open Decimal (Binary64 Number)

/-- Variables and their values, each variable once. -/
abbrev Environment := List (String × String)

/-- The value of a variable; one that is not set is empty. -/
def Environment.value (env : Environment) (name : String) : String := (env.lookup name).getD ""

/-- The value of a variable without the white space around it, unless nothing is left of it. -/
def Environment.setting? (env : Environment) (name : String) : Option String :=
  let text := Text.trim (env.value name)
  if text.isEmpty then none else some text

structure Settings where
  watermark : String := defaultWatermark
  /-- Milliseconds of quiet before edits are committed. -/
  debounce : Nat := 300
  channel : String := defaultChannel
  logFile : Option String := none
  deriving DecidableEq, Repr

namespace Settings

def watermarkVariable : String := "CV_WATERMARK_TEXT"
def debounceVariable : String := "CV_EDIT_DEBOUNCE_MS"
def channelVariable : String := "CV_CHANNEL_ID"
def logFileVariable : String := "CV_LOG_FILE"

/-- A number of milliseconds as it stands in the environment. -/
def readDebounce (text : String) : Checked Nat :=
  match Text.whole? text with
  | none => .error (.configuration (.debounceNotWhole text))
  | some n =>
    if n < 0 then .error (.configuration (.debounceNegative n)) else .ok n.toNat

def ofEnvironment (env : Environment) : Checked Settings := do
  let standard : Settings := {}
  let debounce ← ((env.setting? debounceVariable).map readDebounce).getD (.ok standard.debounce)
  return {
    watermark := (env.setting? watermarkVariable).getD standard.watermark
    debounce := debounce
    channel := (env.setting? channelVariable).getD standard.channel
    logFile := env.setting? logFileVariable }

def debounceSeconds (s : Settings) : Checked Binary64 := Number.divNat (.whole s.debounce) 1000

end Settings

end Vitae
