import Vitae.Proofs.Style.Reading

/-!
When a style resolves. A choice that is wrong is a fault of configuration, whatever stands in its
place. The order of the sections is the one exception: it is gone through before it is looked at.
-/

namespace Vitae

open Checked (FailsBy failsBy_ok failsBy_error)

/-- A fault in what was configured. -/
def Fault.IsConfiguration (fault : Fault) : Prop := ∃ cause, fault = .configuration cause

/-- A truth value or a number. -/
def Json.isScalar : Json → Bool
  | .bool _ | .int _ | .float _ => true
  | _ => false

/-- The order of the sections is given as something that has no items, and that does not count as
no order. -/
def Json.IsUnlistable (order : Json) : Prop := order.truthy ∧ order.isScalar

/-- The faults of a style whose members are given: of configuration, but for an order of sections
that cannot be gone through. -/
def StyleDescriptor.Allowed (members : List (String × Json)) (fault : Fault) : Prop :=
  fault.IsConfiguration
    ∨ fault = .misuse .wrongType ∧ (Json.getOrNull "sectionOrder" members).IsUnlistable

/-! Choices -/

theorem failsBy_configuration {α : Type} (cause : ConfigurationFault) :
    FailsBy Fault.IsConfiguration (.error (.configuration cause) : Checked α) :=
  failsBy_error ⟨cause, rfl⟩

theorem Vocabulary.failsBy_read {α : Type} [Vocabulary α] (field : String) (value : Json) :
    FailsBy Fault.IsConfiguration (read field value : Checked α) := by
  unfold read
  split
  · exact failsBy_ok _
  · exact failsBy_configuration _

theorem failsBy_readFlag (field : String) (value : Json) :
    FailsBy Fault.IsConfiguration (readFlag field value) := by
  unfold readFlag
  split
  · exact failsBy_ok _
  · exact failsBy_configuration _

theorem Color.failsBy_read (field : String) (value : Json) :
    FailsBy Fault.IsConfiguration (read field value) := by
  unfold read
  split
  · split
    · exact failsBy_ok _
    · exact failsBy_configuration _
  · exact failsBy_configuration _

theorem Palette.failsBy_build {α : Type} {allowed : Fault → Prop} {entry : String → Checked α}
    (h : ∀ name, FailsBy allowed (entry name)) : FailsBy allowed (build entry) :=
  (h _).bind fun _ => (h _).bind fun _ => (h _).bind fun _ => (h _).bind fun _ =>
    (h _).bind fun _ => failsBy_ok _

namespace StyleDescriptor

variable {α : Type} [Vocabulary α] (members : List (String × Json)) (key : String)

theorem failsBy_optionalWord :
    FailsBy Fault.IsConfiguration (optionalWord members key : Checked (Option α)) := by
  unfold optionalWord
  split
  · exact failsBy_ok _
  · exact (Vocabulary.failsBy_read key _).map some

theorem failsBy_wordOr (default : α) :
    FailsBy Fault.IsConfiguration (wordOr default members key) := by
  unfold wordOr
  split
  · exact failsBy_ok _
  · exact Vocabulary.failsBy_read key _

theorem failsBy_optionalFlag : FailsBy Fault.IsConfiguration (optionalFlag members key) := by
  unfold optionalFlag
  split
  · exact failsBy_ok _
  · exact (failsBy_readFlag key _).map some

theorem failsBy_flagOr (default : Bool) :
    FailsBy Fault.IsConfiguration (flagOr default members key) :=
  (failsBy_optionalFlag members key).map _

theorem failsBy_readColors (value : Json) :
    FailsBy Fault.IsConfiguration (readColors value) := by
  unfold readColors
  split
  · exact failsBy_ok _
  · next colors =>
    have built : FailsBy Fault.IsConfiguration (Palette.build fun name =>
        Color.read ("colors." ++ name) (Json.getOrNull name colors)) :=
      Palette.failsBy_build fun name => Color.failsBy_read _ _
    dsimp only
    split
    · exact (failsBy_configuration _).bind fun _ => built.bind fun _ => failsBy_ok _
    · exact built.bind fun _ => failsBy_ok _
  · exact failsBy_configuration _

theorem failsBy_readDeclarations (value : Json) :
    FailsBy Fault.IsConfiguration (readDeclarations value) := by
  unfold readDeclarations
  split
  · exact failsBy_ok _
  · split
    · exact failsBy_configuration _
    · exact failsBy_ok _

theorem readOrder_of_isUnlistable {order : Json} (h : order.IsUnlistable) :
    readOrder order = .error (.misuse .wrongType) := by
  obtain ⟨counts, scalar⟩ := h
  rw [readOrder, if_pos counts]
  cases order with
  | bool b => rfl
  | int n => rfl
  | float x => rfl
  | _ => cases scalar

theorem failsBy_readOrder (order : Json) :
    FailsBy (fun fault => fault = .misuse .wrongType ∧ order.IsUnlistable) (readOrder order) := by
  by_cases h : order.IsUnlistable
  · rw [readOrder_of_isUnlistable h]
    exact failsBy_error ⟨rfl, h⟩
  · unfold readOrder
    split
    · next counts =>
      cases order with
      | null => cases counts
      | bool b => exact absurd ⟨counts, rfl⟩ h
      | int n => exact absurd ⟨counts, rfl⟩ h
      | float x => exact absurd ⟨counts, rfl⟩ h
      | string s => exact failsBy_ok _
      | list items => exact failsBy_ok _
      | object members => exact failsBy_ok _
    · exact failsBy_ok _

/-- Reading a style fails in its choices, one after another. -/
theorem failsBy_ofMembers : FailsBy (Allowed members) (ofMembers members) := by
  have word {β : Type} [Vocabulary β] (default : β) (key : String) :
      FailsBy (Allowed members) (wordOr default members key) :=
    (failsBy_wordOr members key default).mono fun _ => .inl
  have choice (β : Type) [Vocabulary β] (key : String) :
      FailsBy (Allowed members) (optionalWord members key : Checked (Option β)) :=
    (failsBy_optionalWord members key).mono fun _ => .inl
  have flag (default : Bool) (key : String) :
      FailsBy (Allowed members) (flagOr default members key) :=
    (failsBy_flagOr members key default).mono fun _ => .inl
  have optional (key : String) : FailsBy (Allowed members) (optionalFlag members key) :=
    (failsBy_optionalFlag members key).mono fun _ => .inl
  have order : FailsBy (Allowed members) (readOrder (Json.getOrNull "sectionOrder" members)) :=
    (failsBy_readOrder _).mono fun _ => .inr
  unfold ofMembers
  refine ((failsBy_readColors _).mono fun _ => .inl).bind fun colors => ?_
  refine ((failsBy_readDeclarations _).mono fun _ => .inl).bind fun declarations => ?_
  refine (word _ _).bind fun theme => (choice _ _).bind fun font => ?_
  refine (word _ _).bind fun scale => (word _ _).bind fun spacing => ?_
  refine (choice _ _).bind fun header => (choice _ _).bind fun sections => ?_
  refine (choice _ _).bind fun skills => (word _ _).bind fun decorations => ?_
  refine (word _ _).bind fun layout => (word _ _).bind fun format => ?_
  refine order.bind fun kinds => (flag _ _).bind fun photo => (optional _).bind fun corners => ?_
  refine (choice _ _).bind fun contact => (choice _ _).bind fun gradient => ?_
  refine (optional _).bind fun bleed => (flag _ _).bind fun icons => ?_
  exact (word _ _).bind fun decoration => (flag _ _).bind fun fix => failsBy_ok _

end StyleDescriptor

/-! Resolving -/

theorem Style.failsBy_sanitize (zone : String) (value : Json) :
    FailsBy Fault.IsConfiguration (sanitize zone value) := by
  unfold sanitize
  split
  · exact failsBy_ok _
  · exact failsBy_configuration _

theorem failsBy_resolveDeclarations (given : List (String × Json)) :
    FailsBy Fault.IsConfiguration (resolveDeclarations given) := by
  refine FailsBy.bind (.mapM (fun entry => ?_) _) fun _ => failsBy_ok _
  exact (Vocabulary.failsBy_read _ _).bind fun zone =>
    (Style.failsBy_sanitize _ _).bind fun text => failsBy_ok _

theorem failsBy_resolveSectionOrder (requested : List Json) :
    FailsBy Fault.IsConfiguration (resolveSectionOrder requested) :=
  (FailsBy.mapM (Vocabulary.failsBy_read _) _).bind fun _ => failsBy_ok _

theorem StyleDescriptor.failsBy_resolve (d : StyleDescriptor) :
    FailsBy Fault.IsConfiguration d.resolve :=
  (failsBy_resolveDeclarations _).bind fun _ =>
    (failsBy_resolveSectionOrder _).bind fun _ => failsBy_ok _

namespace StyleTokens

/-- A style that gives an order of sections that cannot be gone through. -/
def MisordersSections (style : Json) : Prop :=
  ∃ order, style.member? "sectionOrder" = some order ∧ order.IsUnlistable

theorem misordersSections_object {members : List (String × Json)} :
    MisordersSections (.object members)
      ↔ (Json.getOrNull "sectionOrder" members).IsUnlistable := by
  have null : ¬ Json.null.IsUnlistable := fun h => nomatch h.1
  rw [MisordersSections, Json.member?, Json.getOrNull]
  cases Json.get? "sectionOrder" members with
  | none => simpa using null
  | some order => simp

end StyleTokens

/-- A style that would be read without its order of sections fails at that order. -/
theorem StyleDescriptor.ofMembers_of_isUnlistable {members : List (String × Json)}
    {d : StyleDescriptor} (order : (Json.getOrNull "sectionOrder" members).IsUnlistable)
    (others : ofMembers (members.filter fun entry => entry.1 ≠ "sectionOrder") = .ok d) :
    ofMembers members = .error (.misuse .wrongType) := by
  unfold ofMembers at others ⊢
  simp (disch := decide) only [Json.getOrNull_filter_other, optionalWord_filter_other,
    wordOr_filter_other] at others
  -- The two readings go side by side up to the order of the sections.
  iterate 12
    obtain ⟨_, found, others⟩ := Checked.bind_eq_ok.mp others
    rw [Checked.bind_of_ok found]
  exact Checked.bind_of_error (readOrder_of_isUnlistable order) _

/-- No style with such an order is read. -/
theorem StyleDescriptor.ofMembers_ne_ok {members : List (String × Json)}
    (order : (Json.getOrNull "sectionOrder" members).IsUnlistable) (d : StyleDescriptor) :
    ofMembers members ≠ .ok d := by
  intro h
  unfold ofMembers at h
  -- the colours, the declarations and ten choices are read before the order
  iterate 12 obtain ⟨_, -, h⟩ := Checked.bind_eq_ok.mp h
  obtain ⟨kinds, listed, -⟩ := Checked.bind_eq_ok.mp h
  rw [readOrder_of_isUnlistable order] at listed
  cases listed

namespace StyleTokens

theorem ofJson_eq_error_of_ofMembers {members : List (String × Json)} {fault : Fault}
    (h : StyleDescriptor.ofMembers members = .error fault) :
    ofJson (.object members) = .error fault :=
  Checked.bind_of_error (Checked.bind_of_error h _) _

theorem ofMembers_of_ofJson {members : List (String × Json)} {tokens : StyleTokens}
    (h : ofJson (.object members) = .ok tokens) :
    ∃ d, StyleDescriptor.ofMembers members = .ok d := by
  obtain ⟨r, resolved, -⟩ := Checked.bind_eq_ok.mp h
  obtain ⟨d, read, -⟩ := Checked.bind_eq_ok.mp resolved
  exact ⟨d, read⟩

theorem failsBy_ofJson (style : Json) :
    FailsBy (fun fault => fault.IsConfiguration
      ∨ fault = .misuse .wrongType ∧ MisordersSections style) (ofJson style) := by
  refine FailsBy.bind ?_ fun _ => failsBy_ok _
  cases style with
  | object members =>
    simp only [misordersSections_object]
    exact (StyleDescriptor.failsBy_ofMembers members).bind fun d =>
      d.failsBy_resolve.mono fun _ => .inl
  | _ => exact (failsBy_configuration _).mono fun _ => .inl

/-- A style resolves or has a fault of configuration, unless it gives the order of its sections as
something that has no items: `true`, or a number other than zero. No such style resolves, and one
whose other choices do fails with the wrong type that it gives. -/
theorem ofJson_fails_exactly (style : Json) :
    ((∃ tokens, ofJson style = .ok tokens)
        ∨ (∃ cause, ofJson style = .error (.configuration cause))
        ∨ ofJson style = .error (.misuse .wrongType) ∧ MisordersSections style)
      ∧ (MisordersSections style → (∀ tokens, ofJson style ≠ .ok tokens)
        ∧ ∀ tokens, ofJson (style.without "sectionOrder") = .ok tokens →
          ofJson style = .error (.misuse .wrongType)) := by
  constructor
  · cases outcome : ofJson style with
    | ok tokens => exact .inl ⟨tokens, rfl⟩
    | error fault =>
      rcases failsBy_ofJson style fault outcome with ⟨cause, rfl⟩ | ⟨rfl, misordered⟩
      · exact .inr (.inl ⟨cause, rfl⟩)
      · exact .inr (.inr ⟨rfl, misordered⟩)
  · intro misordered
    cases style with
    | object members =>
      have order := misordersSections_object.mp misordered
      constructor
      · intro tokens resolved
        obtain ⟨d, read⟩ := ofMembers_of_ofJson resolved
        exact StyleDescriptor.ofMembers_ne_ok order d read
      · intro tokens resolved
        obtain ⟨d, read⟩ := ofMembers_of_ofJson resolved
        exact ofJson_eq_error_of_ofMembers (StyleDescriptor.ofMembers_of_isUnlistable order read)
    | _ => obtain ⟨order, given, -⟩ := misordered; cases given

def countedOrder : Json := .object [("themeBase", .string "bold"), ("sectionOrder", .int 5)]

theorem ofJson_fails_exactly_counted :
    MisordersSections countedOrder ∧ ∃ tokens,
      ofJson (countedOrder.without "sectionOrder") = .ok tokens
        ∧ ofJson countedOrder = .error (.misuse .wrongType) := by
  have misordered : MisordersSections countedOrder := ⟨.int 5, rfl, rfl, rfl⟩
  have resolvable : (ofJson (countedOrder.without "sectionOrder")).isOk := by decide +kernel
  obtain ⟨tokens, resolved⟩ := Checked.exists_of_isOk resolvable
  exact ⟨misordered, tokens, resolved,
    ((ofJson_fails_exactly countedOrder).2 misordered).2 tokens resolved⟩

/-- A style with a number for the order of its sections neither resolves nor has a fault of
configuration. -/
theorem ofJson_of_counted_order :
    ¬ ∀ style fault, ofJson style = .error fault → fault.IsConfiguration := by
  intro every
  have wrong : ofJson (.object [("sectionOrder", .int 5)]) = .error (.misuse .wrongType) := rfl
  obtain ⟨cause, same⟩ := every _ _ wrong
  cases same

end StyleTokens

end Vitae
