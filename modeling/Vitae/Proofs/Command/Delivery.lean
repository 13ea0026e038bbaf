import Vitae.Command.Execute
import Vitae.Proofs.Source.Loading

/-!
What a run leaves behind. Delivering is its last step, and every text that is delivered has a UTF-8
form. So a run that fails has delivered nothing, and a run that compiles has delivered the document
of what it was given to load.
-/

namespace Vitae.Command

open Loading (IsRemark IsSteady Yields isRemark_forM isRemark_note isSteady_ofChecked
  isSteady_pure value_ofChecked yields_pure)
open Text (unlessEmpty)
open Source (isSteady_loadContent isSteady_loadDescriptor isSteady_loadOverrides)

/-! What a request comes to -/

/-- The repairs of a style are told, and nothing else is done about them. -/
theorem isRemark_repairs (descriptor : StyleDescriptor) :
    IsRemark (descriptor.resolvePalette.2.forM fun fix =>
      Loading.note .info ("Colour contrast: " ++ fix.text)) :=
  isRemark_forM (fun _ => isRemark_note _ _) _

theorem isSteady_loadStyle (source : String) : IsSteady (loadStyle source) :=
  (isSteady_loadDescriptor source).bind fun descriptor =>
    (isRemark_repairs descriptor).steady.bind fun _ => isSteady_ofChecked _

theorem value_loadStyle (source : String) (world : World) : (loadStyle source).value world
    = (Source.loadDescriptor source).value world >>= fun descriptor =>
      descriptor.resolve.map (·.tokens) := by
  rw [loadStyle, (isSteady_loadDescriptor source).value_bind fun descriptor =>
    (isRemark_repairs descriptor).steady.bind fun _ => isSteady_ofChecked _]
  congr 1
  funext descriptor
  rw [(isRemark_repairs descriptor).value_bind (isSteady_ofChecked _), value_ofChecked]

theorem isSteady_compileLoaded (content : Content) (tokens : StyleTokens) (overrides : OverrideSet)
    (options : RenderOptions) : IsSteady (compileLoaded content tokens overrides options) :=
  (isSteady_ofChecked _).bind fun _ =>
    (isRemark_forM (fun _ => isRemark_note _ _) _).steady.bind fun _ => isSteady_ofChecked _

/-- Overrides that are not followed are told of, and then the document is compiled. -/
theorem value_compileLoaded (content : Content) (tokens : StyleTokens) (overrides : OverrideSet)
    (options : RenderOptions) (world : World) :
    (compileLoaded content tokens overrides options).value world
      = ignoredOverrides content tokens.layout overrides >>= fun _ =>
        compile content (.ok tokens) overrides options := by
  have told (ignored : List String) : IsRemark (ignored.forM fun id => Loading.note .warning
      ("Ignoring hidden override on required element '" ++ id ++ "'")) :=
    isRemark_forM (fun _ => isRemark_note _ _) ignored
  rw [compileLoaded, (isSteady_ofChecked _).value_bind fun ignored =>
    (told ignored).steady.bind fun _ => isSteady_ofChecked _, value_ofChecked]
  congr 1
  funext ignored
  rw [(told ignored).value_bind (isSteady_ofChecked _), value_ofChecked]

theorem isSteady_compileRequest (r : CompileRequest) (settings : Settings) :
    IsSteady (compileRequest r settings) :=
  (isSteady_loadContent _).bind fun _ => (isSteady_loadStyle _).bind fun _ =>
    (isSteady_loadOverrides _).bind fun _ => (isRemark_note _ _).steady.bind fun _ =>
      (isSteady_compileLoaded _ _ _ _).bind fun _ => isSteady_pure _

/-- A request to compile comes to a document only if everything it names could be loaded. -/
theorem value_compileRequest (r : CompileRequest) (settings : Settings) {world : World}
    {outcome : Outcome} (h : (compileRequest r settings).value world = .ok outcome) :
    ∃ content descriptor tokens overrides document,
      (Source.loadContent r.content).value world = .ok content
        ∧ (Source.loadDescriptor r.style).value world = .ok descriptor
        ∧ descriptor.resolve.map (·.tokens) = .ok tokens
        ∧ (Source.loadOverrides r.overrides).value world = .ok overrides
        ∧ compile content (.ok tokens) overrides (optionsFor r settings) = .ok document
        ∧ outcome = .delivery ⟨unlessEmpty r.output, .text document⟩ := by
  have compiled (content : Content) (tokens : StyleTokens) (overrides : OverrideSet) :=
    (isSteady_compileLoaded content tokens overrides (optionsFor r settings)).bind
      fun html => isSteady_pure (Outcome.delivery ⟨unlessEmpty r.output, .text html⟩)
  have told (content : Content) (tokens : StyleTokens) :=
    isRemark_note .info ("Compiling '" ++ content.fullName ++ "' (" ++ r.mode.word
      ++ ", style '" ++ tokens.styleName ++ "')")
  have styled (content : Content) (tokens : StyleTokens) :=
    (isSteady_loadOverrides r.overrides).bind fun overrides =>
      (told content tokens).steady.bind fun _ => compiled content tokens overrides
  obtain ⟨content, read, h⟩ := (isSteady_loadContent _).exists_of_bind (fun content =>
    (isSteady_loadStyle r.style).bind fun tokens => styled content tokens) h
  obtain ⟨tokens, style, h⟩ := (isSteady_loadStyle _).exists_of_bind (styled content) h
  obtain ⟨overrides, stored, h⟩ := (isSteady_loadOverrides _).exists_of_bind (fun overrides =>
    (told content tokens).steady.bind fun _ => compiled content tokens overrides) h
  rw [(told content tokens).value_bind (compiled content tokens overrides)] at h
  obtain ⟨document, loaded, rest⟩ := (isSteady_compileLoaded _ _ _ _).exists_of_bind
    (fun _ => isSteady_pure _) h
  rw [value_loadStyle] at style
  obtain ⟨descriptor, described, resolved⟩ := Checked.bind_eq_ok.mp style
  rw [value_compileLoaded] at loaded
  obtain ⟨-, -, made⟩ := Checked.bind_eq_ok.mp loaded
  exact ⟨content, descriptor, tokens, overrides, document, read, described, resolved, stored, made,
    (Except.ok.inj rest).symm⟩

/-- What is delivered has a UTF-8 form. -/
structure Outcome.IsEncodable (outcome : Outcome) : Prop where
  product : ∀ d, outcome = .delivery d → (productText? d.product).isSome

theorem Outcome.isEncodable_delivery {target : Option String} {product : Product}
    (text : (productText? product).isSome) : IsEncodable (.delivery ⟨target, product⟩) :=
  ⟨fun d same => by cases same; exact text⟩

/-- Every request makes its texts out of characters. -/
theorem Request.yields_outcome (settings : Settings) (request : Request) :
    (request.outcome settings).Yields Outcome.IsEncodable := by
  cases request with
  | compile r =>
    exact .after fun _ => .after fun _ => .after fun _ => .after fun _ => .after fun _ =>
      yields_pure (Outcome.isEncodable_delivery rfl)
  | resolve style output =>
    exact .after fun _ => yields_pure (Outcome.isEncodable_delivery rfl)
  | ids content style output =>
    exact .after fun _ => .after fun _ => .after fun _ =>
      yields_pure (Outcome.isEncodable_delivery rfl)
  | watermark input output text =>
    exact .after fun _ => .after fun _ => .after fun _ =>
      yields_pure (Outcome.isEncodable_delivery rfl)
  | fidelity first second =>
    refine .after fun _ => .after fun _ => .after fun _ => yields_pure ⟨fun d same => ?_⟩
    split at same <;> cases same

/-! What a report holds -/

namespace Report

/-- The files that a run makes or changes: the log that it keeps, and what it delivers to. -/
def touched (r : Report) : List String := r.logFile.toList ++ (r.written.map Prod.fst).toList

/-- A run that printed nothing and delivered nothing to a file. -/
structure IsEmptyHanded (r : Report) : Prop where
  printed : r.printed = ""
  written : r.written = none

/-- A run that handed over one document whole: to a file if there is a target, or else printed. -/
structure HandsOver (r : Report) (target : Option String) (document : String) : Prop where
  printed : r.printed = if target.isNone then withLineEnd document else ""
  written : r.written = target.map fun name => (Text.tidyPath name, .text document)

end Report

variable {world : World} {r : Report}

/-- What is in the way of a delivery leaves nothing of it. -/
theorem isEmptyHanded_deliver (bare : r.IsEmptyHanded) (start : r.ending = .exit 0) {d : Delivery}
    (encodable : (productText? d.product).isSome)
    (failed : (deliver world d r).ending ≠ .exit 0) : (deliver world d r).IsEmptyHanded := by
  obtain ⟨text, same⟩ := Option.isSome_iff_exists.mp encodable
  unfold deliver at failed ⊢
  rw [same] at failed ⊢
  split at failed
  · exact absurd start failed
  · dsimp only at failed ⊢
    split at failed
    · exact ⟨bare.printed, bare.written⟩
    · exact absurd start failed

/-- Whatever a run came to, it has delivered nothing if it fails. -/
theorem isEmptyHanded_conclude (bare : r.IsEmptyHanded) (start : r.ending = .exit 0)
    {result : Checked Outcome} (encodable : ∀ outcome, result = .ok outcome → outcome.IsEncodable)
    (failed : (conclude world result r).ending ≠ .exit 0) :
    (conclude world result r).IsEmptyHanded := by
  unfold conclude at failed ⊢
  split at failed
  · exact isEmptyHanded_deliver bare start ((encodable _ rfl).product _ rfl) failed
  · exact ⟨bare.printed, bare.written⟩
  · exact ⟨bare.printed, bare.written⟩
  · exact ⟨bare.printed, bare.written⟩
  · exact ⟨bare.printed, bare.written⟩

/-- A text that is delivered without a failure is delivered whole. -/
theorem handsOver_deliver (bare : r.IsEmptyHanded) {target : Option String} {document : String}
    (done : (deliver world ⟨target, .text document⟩ r).ending = .exit 0) :
    (deliver world ⟨target, .text document⟩ r).HandsOver target document := by
  unfold deliver at done ⊢
  cases target with
  | none => exact ⟨rfl, bare.written⟩
  | some name =>
    dsimp only at done ⊢
    split at done
    · cases done
    · exact ⟨bare.printed, rfl⟩

theorem exists_of_conclude {result : Checked Outcome}
    (done : (conclude world result r).ending = .exit 0) : ∃ outcome, result = .ok outcome := by
  cases result with
  | ok outcome => exact ⟨outcome, rfl⟩
  | error fault => cases fault <;> cases done

theorem logFile_deliver (d : Delivery) : (deliver world d r).logFile = r.logFile := by
  unfold deliver
  split
  · split <;> rfl
  · dsimp only
    split
    · rfl
    · split <;> rfl

theorem logFile_conclude (result : Checked Outcome) :
    (conclude world result r).logFile = r.logFile := by
  unfold conclude
  split
  · exact logFile_deliver _
  · rfl
  · rfl
  · rfl
  · rfl

/-! Runs -/

/-- Where an invocation keeps its log. Its own arguments come before the environment. -/
def Invocation.logFileUnder (i : Invocation) (settings : Settings) : Option String :=
  (unlessEmpty i.logFile <|> settings.logFile).map Text.tidyPath

/-- An invocation begins with nothing in its hands, and either its log cannot be kept or it ends by
what its request comes to. -/
theorem Invocation.execute_cases (i : Invocation) (settings : Settings) (world : World) :
    ∃ begun : Report, begun.IsEmptyHanded ∧ begun.logFile = i.logFileUnder settings
      ∧ ((begun.ending ≠ .exit 0 ∧ i.execute settings world = begun)
        ∨ (begun.ending = .exit 0 ∧ ∃ trace, i.execute settings world = conclude (i.worldOf world)
          ((i.request.outcome settings).run (i.worldOf world) trace).1 begun)) := by
  unfold execute
  dsimp only
  split
  · exact ⟨_, ⟨rfl, rfl⟩, rfl, .inl ⟨by simp, rfl⟩⟩
  · split
    · exact ⟨_, ⟨rfl, rfl⟩, rfl, .inr ⟨rfl, _, rfl⟩⟩
    · exact ⟨_, ⟨rfl, rfl⟩, rfl, .inr ⟨rfl, _, rfl⟩⟩

theorem Invocation.isEmptyHanded_execute {i : Invocation} {settings : Settings}
    (failed : (i.execute settings world).ending ≠ .exit 0) :
    (i.execute settings world).IsEmptyHanded := by
  obtain ⟨begun, bare, -, ⟨-, same⟩ | ⟨start, trace, same⟩⟩ := i.execute_cases settings world
  · rw [same]
    exact bare
  · rw [same] at failed ⊢
    exact isEmptyHanded_conclude bare start
      (i.request.yields_outcome settings (i.worldOf world) trace) failed

theorem Invocation.logFile_execute (i : Invocation) (settings : Settings) (world : World) :
    (i.execute settings world).logFile = i.logFileUnder settings := by
  obtain ⟨begun, -, log, ⟨-, same⟩ | ⟨-, trace, same⟩⟩ := i.execute_cases settings world
  · rw [same, log]
  · rw [same, logFile_conclude, log]

/-- What a run for a document has handed over when it ends well. -/
theorem Invocation.exists_of_execute {i : Invocation} {settings : Settings} {r : CompileRequest}
    (asked : i.request = .compile r) (done : (i.execute settings world).ending = .exit 0) :
    ∃ content descriptor tokens overrides document,
      (Source.loadContent r.content).value world = .ok content
        ∧ (Source.loadDescriptor r.style).value world = .ok descriptor
        ∧ descriptor.resolve.map (·.tokens) = .ok tokens
        ∧ (Source.loadOverrides r.overrides).value world = .ok overrides
        ∧ compile content (.ok tokens) overrides (optionsFor r settings) = .ok document
        ∧ (i.execute settings world).HandsOver (unlessEmpty r.output) document := by
  obtain ⟨begun, bare, -, ⟨failed, same⟩ | ⟨start, trace, same⟩⟩ := i.execute_cases settings world
  · rw [same] at done
    exact absurd done failed
  · rw [same] at done ⊢
    obtain ⟨outcome, result⟩ := exists_of_conclude done
    have steady : ((i.request.outcome settings).run (i.worldOf world) trace).1
        = (compileRequest r settings).value world := by
      rw [asked]
      exact isSteady_compileRequest r settings world _ trace
    obtain ⟨content, descriptor, tokens, overrides, document, read, described, resolved, stored,
      made, rfl⟩ := value_compileRequest r settings (steady.symm.trans result)
    rw [result] at done ⊢
    exact ⟨content, descriptor, tokens, overrides, document, read, described, resolved, stored,
      made, handsOver_deliver bare done⟩

/-- A world of two files, a content and a style. -/
def deskWorld : World :=
  { file := fun path =>
      if path = "content.json" then .ok (Text.Utf8.encode "\x7b\"fullName\": \"Ada\"\x7d")
      else if path = "style.json" then .ok (Text.Utf8.encode "\x7b\x7d")
      else .error .missing
    reply := fun _ => .error "offline"
    environment := [("CV_WATERMARK_TEXT", "Draft"), ("CV_CHANNEL_ID", "desk")] }

/-- Arguments to compile a protected preview of a content. -/
def previewOf (content : String) : List String :=
  ["compile", "--content", content, "--style", "style.json", "--mode", "preview-protected",
    "--watermark-text", "Sample", "--output", "./cv.html"]

def previewRequest : CompileRequest :=
  { content := "content.json", style := "style.json", mode := .previewProtected
    watermark := some "Sample", output := some "./cv.html" }

/-- Arguments that name one file for the log and for the output. -/
def loggedInPlace : List String :=
  ["--log-file", "cv.log", "compile", "--content", "missing.json", "--style", "style.json",
    "--output", "cv.log"]

end Vitae.Command
