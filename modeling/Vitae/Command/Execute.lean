import Vitae.Command.Request
import Vitae.Inspection
import Vitae.Json.Writer
import Vitae.Source.Load
import Vitae.Watermark

/-!
What a request comes to, and what is made of it. A text is encoded only when the file that it goes
to is open, so what comes before has to make sure that it has a UTF-8 form.
-/

namespace Vitae.Command

open Text (Points unlessEmpty)
open Text.Utf8 (Bytes)

/-- What is delivered: a text, or a document to be stamped. -/
inductive Product where
  | text (s : Points)
  | stamped (document : Bytes) (stamps : List PageStamp)
  deriving DecidableEq, Repr

/-- Where a product goes: to a file, or printed if there is none. -/
structure Delivery where
  target : Option String
  product : Product
  deriving DecidableEq, Repr

inductive Outcome where
  | delivery (d : Delivery)
  | sameLayout
  | otherLayout (first second : String)
  deriving DecidableEq, Repr

/-- A style with its contrast repaired; every repair is told. -/
def loadStyle (source : String) : Loading StyleTokens := do
  let descriptor ← Source.loadDescriptor source
  descriptor.resolvePalette.2.forM fun fix => Loading.note .info ("Colour contrast: " ++ fix.text)
  Loading.ofChecked (descriptor.resolve.map (·.tokens))

def protectionFor (r : CompileRequest) (settings : Settings) : Option Protection :=
  if r.mode = .previewProtected then
    some ⟨(unlessEmpty r.watermark).getD settings.watermark, !r.allowCopy⟩
  else none

def optionsFor (r : CompileRequest) (settings : Settings) : RenderOptions :=
  ⟨r.mode, protectionFor r settings, .string ((unlessEmpty r.channel).getD settings.channel)⟩

/-- Compiles a document and tells which overrides it did not follow. -/
def compileLoaded (content : Content) (tokens : StyleTokens) (overrides : OverrideSet)
    (options : RenderOptions) : Loading String := do
  let ignored ← Loading.ofChecked (ignoredOverrides content tokens.layout overrides)
  ignored.forM fun id =>
    Loading.note .warning ("Ignoring hidden override on required element '" ++ id ++ "'")
  Loading.ofChecked (compile content (.ok tokens) overrides options)

def compileRequest (r : CompileRequest) (settings : Settings) : Loading Outcome := do
  let content ← Source.loadContent r.content
  let tokens ← loadStyle r.style
  let overrides ← Source.loadOverrides r.overrides
  Loading.note .info ("Compiling '" ++ content.fullName ++ "' (" ++ r.mode.word ++ ", style '"
    ++ tokens.styleName ++ "')")
  let html ← compileLoaded content tokens overrides (optionsFor r settings)
  return .delivery ⟨unlessEmpty r.output, .text html⟩

/-- Tokens are written in ASCII to a file and as they are when printed. -/
def resolveRequest (style : String) (output : Option String) : Loading Outcome := do
  let tokens ← loadStyle style
  let target := unlessEmpty output
  return .delivery ⟨target, .text (tokens.toJson.indented target.isSome)⟩

def idsRequest (content style : String) (output : Option String) : Loading Outcome := do
  let content ← Source.loadContent content
  let tokens ← loadStyle style
  let ids ← Loading.ofChecked (knownIds content tokens.layout)
  return .delivery ⟨unlessEmpty output, .text ("\n".intercalate ids)⟩

def watermarkRequest (input output : String) (text : Option String) (settings : Settings) :
    Loading Outcome := do
  let text := (unlessEmpty text).getD settings.watermark
  let bytes ← Source.readBytes input
  let stamps ← Loading.ofChecked (Watermark.stamp text (Pdf.Document.ofBytes bytes))
  Loading.note .info ("Watermarked " ++ Decimal.natText stamps.length ++ " page(s) with '"
    ++ Text.trim text ++ "'")
  return .delivery ⟨some output, .stamped bytes stamps⟩

/-- What is in a document to be compared, which has to be named. -/
def loadDocument (source : Option String) : Loading (String × String) := do
  match source with
  | some name => return (name, Text.Utf8.decodeLossy (← Source.readBytes name))
  | none => throw (.misuse .noMembers)

def fidelityRequest (first second : Option String) : Loading Outcome := do
  let (first, one) ← loadDocument first
  let (second, other) ← loadDocument second
  [one, other].forM fun document => Loading.ofChecked (Inspection.check document)
  return if Inspection.sameLayout one other then .sameLayout else .otherLayout first second

def Request.outcome (settings : Settings) : Request → Loading Outcome
  | .compile r => compileRequest r settings
  | .resolve style output => resolveRequest style output
  | .ids content style output => idsRequest content style output
  | .watermark input output text => watermarkRequest input output text settings
  | .fidelity first second => fidelityRequest first second

/-- How a run ended: with an exit code, or broken off by a fault that no one foresaw. -/
inductive Ending where
  | exit (code : Nat)
  | broken (cause : Misuse)
  | blocked (obstacle : Obstacle)
  deriving DecidableEq, Repr

/-- Everything a run leaves behind. -/
structure Report where
  ending : Ending
  printed : String := ""
  written : Option (String × Product) := none
  /-- The file that the whole log is kept in, besides the part that is shown. -/
  logFile : Option String := none
  /-- The level from which on records are shown. -/
  threshold : LogLevel := .warning
  trace : Trace := {}
  deriving DecidableEq, Repr

namespace Report

def shownLog (r : Report) : List LogRecord :=
  r.trace.log.filter fun record => r.threshold.rank ≤ record.level.rank

def tell (r : Report) (level : LogLevel) (text : String) : Report :=
  { r with trace := { r.trace with log := r.trace.log ++ [⟨level, text⟩] } }

end Report

/-- A text as it is printed, with a line end. -/
def withLineEnd (s : String) : String :=
  if s.toList.getLast? = some '\n' then s else s ++ "\n"

def productNote : Product → String
  | .text _ => "Wrote "
  | .stamped _ _ => "Wrote watermarked PDF to "

/-- The text of a product, if it has a UTF-8 form. -/
def productText? : Product → Option String
  | .text (.chars s) => some s
  | .text (.halved _ _ _) => none
  | .stamped _ _ => some ""

/-- Hands over a product. A file is emptied before its text is encoded, and stays so if it cannot
be. -/
def deliver (world : World) (d : Delivery) (r : Report) : Report :=
  match d.target with
  | none =>
    match productText? d.product with
    | some text => { r with printed := withLineEnd text }
    | none => { r with ending := .broken .unencodable }
  | some target =>
    let path := Text.tidyPath target
    match world.obstacle path with
    | some obstacle => { r with ending := .blocked obstacle }
    | none =>
      match productText? d.product with
      | some _ =>
        { r with written := some (path, d.product) }.tell .info (productNote d.product ++ path)
      | none => { r with ending := .broken .unencodable, written := some (path, .text "") }

/-- Ends a run by what it came to. Faults that are reported are told and fail the run. -/
def conclude (world : World) (result : Checked Outcome) (r : Report) : Report :=
  match result with
  | .ok (.delivery d) => deliver world d r
  | .ok .sameLayout => r.tell .info "Layouts match"
  | .ok (.otherLayout first second) =>
    { r with ending := .exit 1 }.tell .error
      ("Layouts differ between " ++ first ++ " and " ++ second)
  | .error (.misuse cause) => { r with ending := .broken cause }
  | .error fault =>
    { r with ending := .exit 1 }.tell .error (fault.family ++ ": " ++ fault.message)

def Invocation.threshold (i : Invocation) : LogLevel :=
  if i.quiet then .error else if i.verbosity = 0 then .warning else .info

/-- The world of an invocation, with the certificates it names. -/
def Invocation.worldOf (i : Invocation) (world : World) : World :=
  { world with certificates := .string (i.certificates.getD "") }

/-- Runs a request under its settings. Nothing is done where the log cannot be kept. -/
def Invocation.execute (i : Invocation) (settings : Settings) (world : World) : Report :=
  let world := i.worldOf world
  let start : Report :=
    { ending := .exit 0, threshold := i.threshold
      logFile := (unlessEmpty i.logFile <|> settings.logFile).map Text.tidyPath }
  match start.logFile.bind world.obstacle with
  | some obstacle => { start with ending := .blocked obstacle }
  | none =>
    let start := match unlessEmpty i.certificates with
      | some path => start.tell .info ("CA bundle override set to: " ++ path)
      | none => start
    let (result, trace) := (i.request.outcome settings).run world start.trace
    conclude world result { start with trace }

/-- Runs a command line. Arguments that make no sense are found before anything else, and settings
that make none before anything is loaded. -/
def run (world : World) (arguments : List String) : Report :=
  match Invocation.ofArguments arguments with
  | .error .usage => { ending := .exit 2 }
  | .error .help => { ending := .exit 0 }
  | .ok i =>
    match Settings.ofEnvironment world.environment with
    | .error fault =>
      ({ ending := .exit 1, threshold := i.threshold } : Report).tell .error fault.message
    | .ok settings => i.execute settings world

end Vitae.Command
