import Vitae.Command.Flag
import Vitae.Document.Mode

/-!
What can be asked for on the command line.
-/

namespace Vitae.Command

structure CompileRequest where
  content : String
  style : String
  overrides : Option String := none
  mode : RenderMode := .exported
  watermark : Option String := none
  allowCopy : Bool := false
  channel : Option String := none
  output : Option String := none
  deriving DecidableEq, Repr

inductive Request where
  | compile (r : CompileRequest)
  | resolve (style : String) (output : Option String)
  | ids (content style : String) (output : Option String)
  | watermark (input output : String) (text : Option String)
  /-- Either document may have been lost from the arguments. -/
  | fidelity (first second : Option String)
  deriving DecidableEq, Repr

/-- The sources that a request names. -/
def Request.sources : Request → List String
  | .compile r => [r.content, r.style] ++ r.overrides.toList
  | .resolve style _ => [style]
  | .ids content style _ => [content, style]
  | .watermark input _ _ => [input]
  | .fidelity first second => first.toList ++ second.toList

/-- The file that the product of a request goes to. -/
def Request.target? : Request → Option String
  | .compile r => r.output
  | .resolve _ output => output
  | .ids _ _ output => output
  | .watermark _ output _ => some output
  | .fidelity _ _ => none

structure Invocation where
  verbosity : Nat := 0
  quiet : Bool := false
  logFile : Option String := none
  certificates : Option String := none
  request : Request
  deriving DecidableEq, Repr

def generalFlags : List Flag :=
  [help, { name := "verbose", letter := some 'v', takesValue := false },
    { name := "quiet", letter := some 'q', takesValue := false }, { name := "log-file" },
    { name := "ca-bundle" }]

/-- The flags of a command. -/
def flagsOf (command : String) : Option (List Flag) :=
  match command with
  | "compile" => some [help, { name := "content" }, { name := "style" }, { name := "overrides" },
      { name := "mode", choices := Vocabulary.words RenderMode }, { name := "watermark-text" },
      { name := "allow-copy", takesValue := false }, { name := "channel" }, { name := "output" }]
  | "resolve" => some [help, { name := "style" }, { name := "output" }]
  | "ids" => some [help, { name := "content" }, { name := "style" }, { name := "output" }]
  | "watermark" => some [help, { name := "input" }, { name := "output" }, { name := "text" }]
  | "fidelity" => some [help]
  | _ => none

def Given.mode (g : Given) : RenderMode :=
  ((g.value? "mode").bind Vocabulary.ofWord?).getD .exported

/-- The request that the arguments of a command make. -/
def requestOf (command : String) (g : Given) : Except Stop Request := do
  match command, g.plain with
  | "fidelity", [first, second] => return .fidelity first second
  | _, _ :: _ => throw .usage
  | "compile", _ =>
    return .compile {
      content := ← g.require "content", style := ← g.require "style"
      overrides := g.value? "overrides", mode := g.mode, watermark := g.value? "watermark-text"
      allowCopy := g.has "allow-copy", channel := g.value? "channel", output := g.value? "output" }
  | "resolve", _ => return .resolve (← g.require "style") (g.value? "output")
  | "ids", _ => return .ids (← g.require "content") (← g.require "style") (g.value? "output")
  | "watermark", _ =>
    return .watermark (← g.require "input") (← g.require "output") (g.value? "text")
  | _, _ => throw .usage

/-- Two hyphens have a meaning only where plain arguments are expected. -/
def hasStraySeparator (command : String) (pieces : List (String × Piece)) : Bool :=
  command ≠ "fidelity" && pieces.any fun piece => piece.2 = .separator

/-- Reads a command line. The general flags come before the command and its own after it. -/
def Invocation.ofArguments (arguments : List String) : Except Stop Invocation := do
  let (general, rest) ← readLeading generalFlags {} (← classifyAll generalFlags arguments)
  match rest with
  | [] => throw .usage
  | command :: rest =>
    match flagsOf command with
    | none => throw .usage
    | some flags =>
      let pieces ← classifyAll flags rest
      let given ← readAll flags {} pieces
      if general.surplus || given.surplus || hasStraySeparator command pieces then throw .usage
      return {
        verbosity := general.count "verbose", quiet := general.has "quiet"
        logFile := general.value? "log-file", certificates := general.value? "ca-bundle"
        request := ← requestOf command given }

end Vitae.Command
