import Vitae.Proofs.Document.Catalogue
import Vitae.Proofs.Document.Compilation
import Vitae.Proofs.Override.Agreement
import Vitae.Proofs.Text.Points

/-!
When compiling fails. It needs a name, a style that resolves, overrides whose ids are texts and,
where a preview is to be protected by a given text, one that is not blank and has a UTF-8 form.
Nothing else about a content, a style or overrides stands in the way of a document.
-/

namespace Vitae

/-- A protected preview that is given a text to protect it with, and nothing in it. -/
def RenderOptions.isUnmarked (options : RenderOptions) : Bool :=
  options.mode = .previewProtected && options.protection.any fun p => p.text.isBlank

/-- A protected preview that is given a text to protect it with, in which half of a surrogate pair
stands alone. -/
def RenderOptions.isUnencodable (options : RenderOptions) : Bool :=
  options.mode = .previewProtected && options.protection.any fun p => p.text.hasHalf

/-- How a preview with these options is protected. -/
def RenderOptions.guard (options : RenderOptions) : Protection :=
  options.protection.getD ⟨defaultWatermark, true⟩

/-- The text that a preview with these options is protected by. -/
def RenderOptions.watermark (options : RenderOptions) : Text.Points := options.guard.text

namespace ModeLayer

variable {options : RenderOptions}

theorem of_settled_of_previewProtected (mode : options.mode = .previewProtected) :
    of options.settled = if options.watermark.isBlank then .error (.render .blankWatermark)
      else options.watermark.encodable >>= fun text =>
        .ok (protecting text options.guard.blockCopy) := by
  simp only [of, RenderOptions.settled, mode]
  rfl

theorem of_settled_of_isUnmarked (h : options.isUnmarked) :
    of options.settled = .error (.render .blankWatermark) := by
  simp only [RenderOptions.isUnmarked, Bool.and_eq_true, decide_eq_true_eq, Option.any_eq_true] at h
  obtain ⟨mode, p, given, blank⟩ := h
  have own : options.watermark = p.text := by
    rw [RenderOptions.watermark, RenderOptions.guard, given, Option.getD_some]
  rw [of_settled_of_previewProtected mode, own, if_pos blank]

/-- The text that is used where none is given is not blank. -/
theorem isBlank_watermark (mode : options.mode = .previewProtected)
    (marked : options.isUnmarked = false) : options.watermark.isBlank = false := by
  cases given : options.protection with
  | none =>
    rw [RenderOptions.watermark, RenderOptions.guard, given]
    decide
  | some p =>
    simpa [RenderOptions.isUnmarked, RenderOptions.watermark, RenderOptions.guard, mode, given]
      using marked

theorem hasHalf_watermark (mode : options.mode = .previewProtected) :
    options.watermark.hasHalf = options.isUnencodable := by
  cases given : options.protection with
  | none =>
    rw [RenderOptions.watermark, RenderOptions.guard, RenderOptions.isUnencodable, given]
    exact (Bool.and_false _).symm
  | some p =>
    simp [RenderOptions.isUnencodable, RenderOptions.watermark, RenderOptions.guard, mode, given]

theorem of_settled_of_isUnencodable (marked : options.isUnmarked = false)
    (h : options.isUnencodable) : of options.settled = .error (.misuse .unencodable) := by
  have mode : options.mode = .previewProtected := by
    simpa using (Bool.and_eq_true_iff.mp h).1
  rw [of_settled_of_previewProtected mode, isBlank_watermark mode marked,
    if_neg Bool.false_ne_true,
    Checked.bind_of_error (Text.Points.encodable_of_hasHalf (hasHalf_watermark mode ▸ h))]

/-- A mode adds its layer unless a preview cannot be protected by its text. -/
theorem exists_of_settled (marked : options.isUnmarked = false)
    (whole : options.isUnencodable = false) : ∃ layer, of options.settled = .ok layer := by
  by_cases mode : options.mode = .previewProtected
  · obtain ⟨text, own⟩ := Text.Points.exists_chars (hasHalf_watermark mode ▸ whole)
    rw [of_settled_of_previewProtected mode, isBlank_watermark mode marked,
      if_neg Bool.false_ne_true, own, Checked.bind_of_ok (Text.Points.encodable_eq_ok_iff.mpr rfl)]
    exact ⟨_, rfl⟩
  · unfold of
    split
    · exact ⟨_, rfl⟩
    · exact ⟨_, rfl⟩
    all_goals
      next other _ => exact absurd other mode

end ModeLayer

/-- The elements of a content that was read have distinct ids under any style that resolves. -/
theorem identify_assemble {value style : Json} {content : Content} {tokens : StyleTokens}
    (read : Content.ofJson value = .ok content) (resolved : StyleTokens.ofJson style = .ok tokens) :
    (DocumentTree.assemble content tokens.layout).identify
      = .ok ((DocumentTree.assemble content tokens.layout).mapHeads ElementHead.withPathId) := by
  obtain ⟨distinct, complete⟩ := StyleTokens.sectionOrder_complete resolved
  exact DocumentTree.identify_of_nodup
    (nodup_pathIds_assemble (Content.isTidy_ofJson read) distinct complete)

/-- The ids of a content that was read are known under any style that resolves. -/
theorem knownIds_eq {value style : Json} {content : Content} {tokens : StyleTokens}
    (read : Content.ofJson value = .ok content) (resolved : StyleTokens.ofJson style = .ok tokens) :
    knownIds content tokens.layout
      = .ok (DocumentTree.assemble content tokens.layout).pathIds := by
  rw [knownIds, Checked.bind_of_ok (identify_assemble read resolved)]
  rfl

theorem exists_compiledTree {value style : Json} {content : Content} {tokens : StyleTokens}
    (read : Content.ofJson value = .ok content) (resolved : StyleTokens.ofJson style = .ok tokens)
    {overrides : OverrideSet} (named : ∀ o ∈ overrides.entries, o.id.isText) :
    ∃ tree, compiledTree content tokens.layout overrides = .ok tree :=
  ⟨_, compiledTree_eq_ok_iff.mpr ⟨named, _, identify_assemble read resolved, rfl⟩⟩

theorem compile_of_fullName {content : Content} (some : Text.isBlankText content.fullName = false)
    (style : Checked StyleTokens) (overrides : OverrideSet) (options : RenderOptions) :
    compile content style overrides options
      = style >>= fun tokens => compileWith content tokens overrides options := by
  have name : content.requireName = .ok () := by simp [Content.requireName, some]
  rw [compile, Checked.bind_of_ok name]

/-- Once there is a tree, the mode decides. -/
theorem compileWith_of_compiledTree {content : Content} {tokens : StyleTokens}
    {overrides : OverrideSet} {tree : DocumentTree}
    (built : compiledTree content tokens.layout overrides = .ok tree) (options : RenderOptions) :
    compileWith content tokens overrides options = ModeLayer.of options.settled >>= fun layer =>
      .ok (tree.page tokens layer (pageTitle content)).text := by
  rw [compileWith, Checked.bind_of_ok built]
  rfl

theorem isBlankText_of_compile {content : Content} {style : Checked StyleTokens}
    {overrides : OverrideSet} {options : RenderOptions} {document : String}
    (h : compile content style overrides options = .ok document) :
    Text.isBlankText content.fullName = false := by
  obtain ⟨⟨⟩, named, -⟩ := Checked.bind_eq_ok.mp h
  unfold Content.requireName at named
  split at named
  · simp at named
  · next some => simpa using some

/-- With a name, a style and a layer, a tree makes a document. -/
theorem compile_of_compiledTree {content : Content} {style : Checked StyleTokens}
    {tokens : StyleTokens} {overrides : OverrideSet} {options : RenderOptions}
    {tree : DocumentTree} {layer : ModeLayer}
    (some : Text.isBlankText content.fullName = false) (resolved : style = .ok tokens)
    (built : compiledTree content tokens.layout overrides = .ok tree)
    (mode : ModeLayer.of options.settled = .ok layer) :
    compile content style overrides options
      = .ok (tree.page tokens layer (pageTitle content)).text := by
  rw [compile_of_fullName some, Checked.bind_of_ok resolved, compileWith_of_compiledTree built,
    Checked.bind_of_ok mode]

/-- An override whose id is no text is not passed over, although it names no element either. -/
theorem compile_of_not_isText {value style : Json} {content : Content} {tokens : StyleTokens}
    (read : Content.ofJson value = .ok content) (some : Text.isBlankText content.fullName = false)
    (resolved : StyleTokens.ofJson style = .ok tokens) {overrides : OverrideSet}
    {o : ElementOverride} (mem : o ∈ overrides.entries) (unnamed : o.id.isText = false)
    (options : RenderOptions) :
    compile content (StyleTokens.ofJson style) overrides options = .error (.misuse .wrongType) := by
  have unbuilt : compiledTree content tokens.layout overrides = .error (.misuse .wrongType) := by
    unfold compiledTree
    rw [Checked.bind_of_ok (identify_assemble read resolved),
      Checked.bind_of_error (DocumentTree.applyOverrides_of_not_isText mem unnamed _)]
  rw [compile_of_fullName some, Checked.bind_of_ok resolved, compileWith,
    Checked.bind_of_error unbuilt]

/-- Compiling fails for five reasons only. A content without a name comes first, then a style that
does not resolve, whose fault is passed on, then an override whose id is no text, then a preview
that is to be protected by a blank text, or by one without a UTF-8 form. In every other case there
is a document, whatever the content leaves out, whatever the style asks for and whatever elements
the overrides name. -/
theorem compile_fails_exactly {value : Json} {content : Content}
    (read : Content.ofJson value = .ok content) (style : Json) (overrides : OverrideSet)
    (options : RenderOptions) :
    (Text.isBlankText content.fullName →
        compile content (StyleTokens.ofJson style) overrides options = .error (.render .unnamed))
      ∧ (Text.isBlankText content.fullName = false →
        (∀ fault, StyleTokens.ofJson style = .error fault →
          compile content (StyleTokens.ofJson style) overrides options = .error fault)
        ∧ ∀ tokens, StyleTokens.ofJson style = .ok tokens →
          (∀ o ∈ overrides.entries, o.id.isText = false →
            compile content (StyleTokens.ofJson style) overrides options
              = .error (.misuse .wrongType))
          ∧ ((∀ o ∈ overrides.entries, o.id.isText) →
            (options.isUnmarked →
              compile content (StyleTokens.ofJson style) overrides options
                = .error (.render .blankWatermark))
            ∧ (options.isUnmarked = false → options.isUnencodable →
              compile content (StyleTokens.ofJson style) overrides options
                = .error (.misuse .unencodable))
            ∧ (options.isUnmarked = false → options.isUnencodable = false →
              ∃ document,
                compile content (StyleTokens.ofJson style) overrides options = .ok document))) := by
  refine ⟨fun blank => ?_, fun some => ⟨fun fault unresolved => ?_, fun tokens resolved =>
    ⟨fun o mem unnamed => compile_of_not_isText read some resolved mem unnamed options,
      fun named => ?_⟩⟩⟩
  · have name : content.requireName = .error (.render .unnamed) := by
      simp [Content.requireName, blank]
    rw [compile, Checked.bind_of_error name]
  · rw [compile_of_fullName some, Checked.bind_of_error unresolved]
  · obtain ⟨tree, built⟩ := exists_compiledTree read resolved named
    rw [compile_of_fullName some, Checked.bind_of_ok resolved, compileWith_of_compiledTree built]
    refine ⟨fun unmarked => ?_, fun marked half => ?_, fun marked whole => ?_⟩
    · rw [Checked.bind_of_error (ModeLayer.of_settled_of_isUnmarked unmarked)]
    · rw [Checked.bind_of_error (ModeLayer.of_settled_of_isUnencodable marked half)]
    · obtain ⟨layer, mode⟩ := ModeLayer.exists_of_settled marked whole
      rw [Checked.bind_of_ok mode]
      exact ⟨_, rfl⟩

def adaJson : Json := .object [("fullName", .string "Ada"), ("headline", .string "Engineer")]

theorem isBlankText_fullName_ada {content : Content} (read : Content.ofJson adaJson = .ok content) :
    Text.isBlankText content.fullName = false := by
  have fullName : (Content.ofJson adaJson).map (fun c => Text.isBlankText c.fullName)
      = .ok false := by decide +kernel
  rw [read] at fullName
  exact Except.ok.inj fullName

theorem compile_fails_exactly_ada :
    ∃ content, Content.ofJson adaJson = .ok content
      ∧ (∀ o ∈ headlineHidden.entries, o.id.isText)
      ∧ compile content (StyleTokens.ofJson (.object [])) headlineHidden
          { mode := .previewProtected, protection := some { text := " " } }
        = .error (.render .blankWatermark)
      ∧ compile content (StyleTokens.ofJson (.object [])) headlineHidden
          { mode := .previewProtected, protection := some { text := .halved "" 0 "" } }
        = .error (.misuse .unencodable)
      ∧ ∃ document, compile content (StyleTokens.ofJson (.object [])) headlineHidden
          { mode := .previewProtected } = .ok document := by
  have readable : (Content.ofJson adaJson).isOk := by decide +kernel
  have resolvable : (StyleTokens.ofJson (.object [])).isOk := by decide +kernel
  obtain ⟨content, read⟩ := Checked.exists_of_isOk readable
  obtain ⟨tokens, resolved⟩ := Checked.exists_of_isOk resolvable
  have named : ∀ o ∈ headlineHidden.entries, o.id.isText := by decide
  have some := isBlankText_fullName_ada read
  have outcome (options : RenderOptions) := (((compile_fails_exactly read (.object [])
    headlineHidden options).2 some).2 tokens resolved).2 named
  obtain ⟨unmarked, -, -⟩ := outcome
    { mode := .previewProtected, protection := Option.some { text := " " } }
  obtain ⟨-, halved, -⟩ := outcome
    { mode := .previewProtected, protection := Option.some { text := .halved "" 0 "" } }
  obtain ⟨-, -, standard⟩ := outcome { mode := .previewProtected }
  exact ⟨content, read, named, unmarked (by decide), halved (by decide) (by decide),
    standard (by decide) (by decide)⟩

/-- An override of an element that is a number. -/
def numberedJson : Json :=
  .object [("overrides", .list [.object [("elementId", .int 5), ("elementType", .string "field")]])]

theorem exists_not_isText_numbered {overrides : OverrideSet}
    (stored : OverrideSet.ofJson numberedJson = .ok overrides) :
    ∃ o ∈ overrides.entries, o.id.isText = false := by
  have entry : (OverrideSet.ofJson numberedJson).map
      (fun set => set.entries.any fun o => !o.id.isText) = .ok true := by decide +kernel
  rw [stored] at entry
  simpa using Except.ok.inj entry

/-- A set of overrides that can be read need not lead to a document, even where name, style and
watermark are in order. -/
theorem compile_numbered_override :
    ∃ content tokens overrides, Content.ofJson adaJson = .ok content
      ∧ Text.isBlankText content.fullName = false
      ∧ StyleTokens.ofJson (.object []) = .ok tokens
      ∧ OverrideSet.ofJson numberedJson = .ok overrides
      ∧ RenderOptions.isUnmarked {} = false ∧ RenderOptions.isUnencodable {} = false
      ∧ ¬ ∃ document,
        compile content (StyleTokens.ofJson (.object [])) overrides {} = .ok document := by
  have readable : (Content.ofJson adaJson).isOk := by decide +kernel
  have resolvable : (StyleTokens.ofJson (.object [])).isOk := by decide +kernel
  have accepted : (OverrideSet.ofJson numberedJson).isOk := by decide +kernel
  obtain ⟨content, read⟩ := Checked.exists_of_isOk readable
  obtain ⟨tokens, resolved⟩ := Checked.exists_of_isOk resolvable
  obtain ⟨overrides, stored⟩ := Checked.exists_of_isOk accepted
  have some := isBlankText_fullName_ada read
  obtain ⟨o, mem, unnamed⟩ := exists_not_isText_numbered stored
  have fault := compile_of_not_isText read some resolved mem unnamed {}
  refine ⟨content, tokens, overrides, read, some, resolved, stored, by decide, by decide, ?_⟩
  rintro ⟨document, compiled⟩
  rw [fault] at compiled
  exact absurd compiled (by simp)

end Vitae
