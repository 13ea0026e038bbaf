import Vitae.Proofs.Fault
import Vitae.Proofs.Json
import Vitae.Style.Tokens

/-!
Reading a style with one of its members left out. Every choice is read from its own member, so the
others are what they were; and declarations are read and resolved apart from everything else.
-/

namespace Vitae

namespace StyleDescriptor

section

variable {key other : String} (differs : other ≠ key) (members : List (String × Json))

include differs

theorem optionalWord_filter_other {α : Type} [Vocabulary α] :
    optionalWord (members.filter fun entry => entry.1 ≠ key) other
      = (optionalWord members other : Checked (Option α)) := by
  rw [optionalWord, optionalWord, Json.getOrNull_filter_other differs]

theorem wordOr_filter_other {α : Type} [Vocabulary α] (default : α) :
    wordOr default (members.filter fun entry => entry.1 ≠ key) other
      = wordOr default members other := by
  rw [wordOr, wordOr, Json.get?_filter_other differs]

theorem optionalFlag_filter_other :
    optionalFlag (members.filter fun entry => entry.1 ≠ key) other
      = optionalFlag members other := by
  rw [optionalFlag, optionalFlag, Json.getOrNull_filter_other differs]

theorem flagOr_filter_other (default : Bool) :
    flagOr default (members.filter fun entry => entry.1 ≠ key) other
      = flagOr default members other := by
  rw [flagOr, flagOr, optionalFlag_filter_other differs]

end

/-- A style is read member by member, in whatever order they are given. -/
theorem ofMembers_congr {members others : List (String × Json)}
    (same : ∀ key, Json.get? key members = Json.get? key others) :
    ofMembers members = ofMembers others := by
  unfold ofMembers
  simp only [optionalWord, wordOr, optionalFlag, flagOr, Json.getOrNull, same]

/-- Where declarations can be read, nothing else of a style depends on them. -/
theorem ofMembers_of_readDeclarations {members : List (String × Json)}
    {rules : List (String × Json)}
    (read : readDeclarations (Json.getOrNull "customCSS" members) = .ok rules) :
    ofMembers members = (ofMembers (members.filter fun entry => entry.1 ≠ "customCSS")).map
      fun bare => { bare with declarations := rules } := by
  have none : readDeclarations .null = .ok [] := rfl
  unfold ofMembers
  simp (disch := decide) only [Json.getOrNull_filter_self, Json.getOrNull_filter_other,
    optionalWord_filter_other, wordOr_filter_other, optionalFlag_filter_other, flagOr_filter_other,
    read, none, Checked.ok_bind, Checked.map_bind, Checked.map_pure]

theorem declarations_of_ofMembers_filter {members : List (String × Json)} {bare : StyleDescriptor}
    (h : ofMembers (members.filter fun entry => entry.1 ≠ "customCSS") = .ok bare) :
    bare.declarations = [] := by
  have none : readDeclarations (Json.getOrNull "customCSS"
      (members.filter fun entry => entry.1 ≠ "customCSS")) = .ok [] := by
    rw [Json.getOrNull_filter_self]
    rfl
  rw [ofMembers_of_readDeclarations none, Checked.map_eq_ok] at h
  obtain ⟨_, -, rfl⟩ := h
  rfl

/-- A style is read if and only if its declarations are and the rest of it is. -/
theorem ofMembers_eq_ok_iff {members : List (String × Json)} {d : StyleDescriptor} :
    ofMembers members = .ok d
      ↔ ofMembers (members.filter fun entry => entry.1 ≠ "customCSS")
          = .ok { d with declarations := [] }
        ∧ readDeclarations (Json.getOrNull "customCSS" members) = .ok d.declarations := by
  constructor
  · intro h
    have declared : ∃ rules,
        readDeclarations (Json.getOrNull "customCSS" members) = .ok rules := by
      obtain ⟨colors, -, rest⟩ := Checked.bind_eq_ok.mp h
      obtain ⟨rules, read, -⟩ := Checked.bind_eq_ok.mp rest
      exact ⟨rules, read⟩
    obtain ⟨rules, read⟩ := declared
    rw [ofMembers_of_readDeclarations read, Checked.map_eq_ok] at h
    obtain ⟨bare, others, rfl⟩ := h
    have none := declarations_of_ofMembers_filter others
    have same : { bare with declarations := [] } = bare := by rw [← none]
    exact ⟨others.trans (congrArg Except.ok same.symm), read⟩
  · rintro ⟨others, read⟩
    rw [ofMembers_of_readDeclarations read, Checked.map_eq_ok]
    exact ⟨_, others, rfl⟩

theorem resolvePalette_with_declarations (d : StyleDescriptor) (rules : List (String × Json)) :
    ({ d with declarations := rules } : StyleDescriptor).resolvePalette = d.resolvePalette := by
  have header : ({ d with declarations := rules } : StyleDescriptor).header = d.header := rfl
  unfold resolvePalette
  rw [header]

theorem resolveDeclarations_nil : resolveDeclarations [] = .ok [] := by
  rw [resolveDeclarations, List.mergeSort_nil]
  rfl

/-- Declarations are resolved apart from the rest of a style. -/
theorem resolve_with_declarations (d : StyleDescriptor) (rules : List (String × Json)) :
    ({ d with declarations := rules } : StyleDescriptor).resolve
      = resolveDeclarations rules >>= fun declarations =>
        ({ d with declarations := [] } : StyleDescriptor).resolve.map fun bare =>
          ⟨{ bare.tokens with declarations }, bare.fixes⟩ := by
  have header (rules : List (String × Json)) :
      ({ d with declarations := rules } : StyleDescriptor).header = d.header := rfl
  unfold resolve
  rw [resolvePalette_with_declarations d rules, resolvePalette_with_declarations d [],
    header rules, header [], resolveDeclarations_nil]
  simp only [Checked.ok_bind, Checked.map_bind, Checked.map_pure]

/-- A style resolves if and only if its declarations do and the rest of it does. -/
theorem resolve_eq_ok_iff {d : StyleDescriptor} {r : Resolution} :
    d.resolve = .ok r
      ↔ ({ d with declarations := [] } : StyleDescriptor).resolve
          = .ok ⟨{ r.tokens with declarations := [] }, r.fixes⟩
        ∧ resolveDeclarations d.declarations = .ok r.tokens.declarations := by
  have whole := d.resolve_with_declarations d.declarations
  have bare := d.resolve_with_declarations []
  rw [resolveDeclarations_nil, Checked.ok_bind] at bare
  constructor
  · intro h
    obtain ⟨declarations, resolved, rest⟩ := Checked.bind_eq_ok.mp (whole.symm.trans h)
    obtain ⟨others, found, rfl⟩ := Checked.map_eq_ok.mp rest
    exact ⟨bare.trans (Checked.map_eq_ok.mpr ⟨others, found, rfl⟩), resolved⟩
  · rintro ⟨others, resolved⟩
    exact whole.trans (Checked.bind_eq_ok.mpr ⟨_, resolved,
      Checked.map_eq_ok.mpr ⟨_, others, rfl⟩⟩)

end StyleDescriptor

namespace StyleTokens

theorem ofJson_without_congr {key : String} {members others : List (String × Json)}
    (same : Json.SameBut key (.object members) (.object others)) :
    ofJson ((Json.object members).without key) = ofJson ((Json.object others).without key) := by
  have read := StyleDescriptor.ofMembers_congr same.get?_filter
  exact congrArg (fun read : Checked StyleDescriptor => do
    return (← read >>= StyleDescriptor.resolve).tokens) read

/-- A style resolves if and only if it does without its declarations and these do on their own. -/
theorem ofJson_object_eq_ok_iff {members : List (String × Json)} {tokens : StyleTokens} :
    ofJson (.object members) = .ok tokens
      ↔ ofJson ((Json.object members).without "customCSS")
          = .ok { tokens with declarations := [] }
        ∧ ∃ rules, StyleDescriptor.readDeclarations (Json.getOrNull "customCSS" members) = .ok rules
          ∧ resolveDeclarations rules = .ok tokens.declarations := by
  constructor
  · intro h
    obtain ⟨r, resolved, rest⟩ := Checked.bind_eq_ok.mp h
    obtain rfl := Except.ok.inj rest
    obtain ⟨d, read, resolved⟩ := Checked.bind_eq_ok.mp resolved
    obtain ⟨others, declared⟩ := StyleDescriptor.ofMembers_eq_ok_iff.mp read
    obtain ⟨bare, declarations⟩ := StyleDescriptor.resolve_eq_ok_iff.mp resolved
    exact ⟨Checked.bind_eq_ok.mpr ⟨_, Checked.bind_eq_ok.mpr ⟨_, others, bare⟩, rfl⟩,
      d.declarations, declared, declarations⟩
  · rintro ⟨h, rules, declared, declarations⟩
    obtain ⟨r, resolved, rest⟩ := Checked.bind_eq_ok.mp h
    obtain ⟨bare, others, resolved⟩ := Checked.bind_eq_ok.mp resolved
    have none := StyleDescriptor.declarations_of_ofMembers_filter others
    let d : StyleDescriptor := { bare with declarations := rules }
    have same : { d with declarations := [] } = bare := by rw [← none]
    have read : StyleDescriptor.ofMembers members = .ok d :=
      StyleDescriptor.ofMembers_eq_ok_iff.mpr ⟨others.trans (congrArg Except.ok same.symm), declared⟩
    have whole : d.resolve = .ok ⟨tokens, r.fixes⟩ := by
      refine StyleDescriptor.resolve_eq_ok_iff.mpr ⟨?_, declarations⟩
      rw [same, resolved, ← Except.ok.inj rest]
    exact Checked.bind_eq_ok.mpr ⟨_, Checked.bind_eq_ok.mpr ⟨d, read, whole⟩, rfl⟩

end StyleTokens

end Vitae
