import Vitae.Document.Assembly
import Vitae.Proofs.Keyed
import Vitae.Proofs.Style.Explicit
import Vitae.Proofs.Style.Outcome

/-!
Sections in the order that is requested. The requested kinds come first, each where it is named
first, then all others in an order of their own; and a document shows those that have content.
-/

namespace Vitae

open Vocabulary (word)

/-- A value that is no word for a section. -/
def NamesNoSection (value : Json) : Prop := ∀ kind : SectionKind, value ≠ .string (word kind)

/-- Some kinds as a style requests them. -/
def requestOf (kinds : List SectionKind) : List Json := kinds.map fun kind => .string (word kind)

/-- An order that has every kind once: those that were requested, in the order in which they were
named first, and behind them all others as they stand in the list of all kinds. -/
structure KeepsRequest (kinds order : List SectionKind) : Prop where
  once : ∀ kind, order.count kind = 1
  split : ∃ first, order = first ++ SectionKind.all.filter (· ∉ kinds)
    ∧ (∀ kind, kind ∈ first ↔ kind ∈ kinds)
    ∧ first.Pairwise fun a b => kinds.idxOf a < kinds.idxOf b

variable {kinds order : List SectionKind}

/-! Requests -/

theorem namesNoSection_or (value : Json) :
    NamesNoSection value ∨ ∃ kind : SectionKind, value = .string (word kind) := by
  by_cases named : ∃ kind : SectionKind, value = .string (word kind)
  · exact .inr named
  · exact .inl fun kind same => named ⟨kind, same⟩

theorem read_of_namesNoSection {field : String} {value : Json} (h : NamesNoSection value) :
    (Vocabulary.read field value : Checked SectionKind)
      = .error (.configuration (.unknownWord field value (Vocabulary.words SectionKind))) := by
  cases read : (Vocabulary.read field value : Checked SectionKind) with
  | ok kind => exact absurd (Vocabulary.eq_of_read read) (h kind)
  | error fault =>
    unfold Vocabulary.read at read
    split at read
    · cases read
    · exact read.symm

/-- A request names kinds only, or it names some kinds and then something else. -/
theorem exists_requestOf (requested : List Json) :
    (∃ kinds, requested = requestOf kinds)
      ∨ ∃ kinds value rest, requested = requestOf kinds ++ value :: rest ∧ NamesNoSection value := by
  induction requested with
  | nil => exact .inl ⟨[], rfl⟩
  | cons value requested ih =>
    rcases namesNoSection_or value with unknown | ⟨kind, rfl⟩
    · exact .inr ⟨[], value, requested, rfl, unknown⟩
    · rcases ih with ⟨kinds, rfl⟩ | ⟨kinds, other, rest, rfl, unknown⟩
      · exact .inl ⟨kind :: kinds, rfl⟩
      · exact .inr ⟨kind :: kinds, other, rest, rfl, unknown⟩

theorem not_namesNoSection_of_mem {value : Json} (mem : value ∈ requestOf kinds) :
    ¬ NamesNoSection value := by
  obtain ⟨kind, -, rfl⟩ := List.mem_map.mp mem
  exact fun unknown => unknown kind rfl

theorem resolveSectionOrder_requestOf (kinds : List SectionKind) :
    resolveSectionOrder (requestOf kinds) = .ok (completeOrder kinds) :=
  Checked.bind_of_ok (Checked.mapM_word "sectionOrder" kinds) _

/-- The first value that names no section is the one that is complained of. -/
theorem resolveSectionOrder_of_unknown (kinds : List SectionKind) {value : Json}
    (unknown : NamesNoSection value) (rest : List Json) :
    resolveSectionOrder (requestOf kinds ++ value :: rest) = .error (.configuration
      (.unknownWord "sectionOrder" value (Vocabulary.words SectionKind))) := by
  have stopped : (value :: rest).mapM (Vocabulary.read "sectionOrder")
      = (.error (.configuration (.unknownWord "sectionOrder" value
          (Vocabulary.words SectionKind))) : Checked (List SectionKind)) := by
    rw [List.mapM_cons]
    exact Checked.bind_of_error (read_of_namesNoSection unknown) _
  refine Checked.bind_of_error ?_ _
  rw [List.mapM_append, requestOf, Checked.bind_of_ok (Checked.mapM_word "sectionOrder" kinds)]
  exact Checked.bind_of_error stopped _

/-! Orders -/

/-- To add a kind is to put it under itself. -/
theorem addKind_eq_upsert (order : List SectionKind) (kind : SectionKind) :
    addKind order kind = Keyed.upsert id kind order := by
  by_cases known : kind ∈ order
  · rw [addKind_of_mem known]
    have same : (Keyed.upsert id kind order).map id = order.map id :=
      Keyed.map_upsert_of_mem (by simpa using known)
    simpa using same.symm
  · rw [addKind_of_not_mem known, Keyed.upsert_of_not_mem (by simpa using known)]

theorem isCollected_foldl_addKind (kinds : List SectionKind) :
    Keyed.IsCollected id kinds (kinds.foldl addKind []) := by
  have each : addKind = fun order kind => Keyed.upsert id kind order :=
    funext fun order => funext fun kind => addKind_eq_upsert order kind
  rw [each]
  exact Keyed.isCollected_foldl kinds

/-- Of distinct kinds those are added that are not there yet. -/
theorem foldl_addKind_eq_append (distinct : kinds.Nodup) (order : List SectionKind) :
    kinds.foldl addKind order = order ++ kinds.filter (· ∉ order) := by
  induction kinds generalizing order with
  | nil => simp
  | cons kind kinds ih =>
    obtain ⟨once, distinct⟩ := List.nodup_cons.mp distinct
    rw [List.foldl_cons, ih distinct]
    by_cases known : kind ∈ order
    · rw [addKind_of_mem known, List.filter_cons_of_neg (by simpa using known)]
    · have others : kinds.filter (· ∉ order ++ [kind]) = kinds.filter (· ∉ order) := by
        refine List.filter_congr fun other mem => ?_
        have differs : other ≠ kind := fun same => once (same ▸ mem)
        simp [differs]
      rw [addKind_of_not_mem known, others, List.filter_cons_of_pos (by simpa using known),
        List.append_assoc, List.singleton_append]

theorem keepsRequest_completeOrder (kinds : List SectionKind) :
    KeepsRequest kinds (completeOrder kinds) := by
  have collected := isCollected_foldl_addKind kinds
  have members : ∀ kind, kind ∈ kinds.foldl addKind [] ↔ kind ∈ kinds := by
    simpa using collected.keys
  constructor
  · intro kind
    exact List.count_eq_one_of_mem (nodup_completeOrder kinds) (mem_completeOrder kinds kind)
  · refine ⟨kinds.foldl addKind [], ?_, members, by simpa using collected.order⟩
    have others : SectionKind.all.filter (· ∉ kinds.foldl addKind [])
        = SectionKind.all.filter (· ∉ kinds) :=
      List.filter_congr fun kind _ => by simp [members]
    rw [completeOrder, foldl_addKind_eq_append (by decide), others]

/-- What was resolved requests itself. -/
theorem completeOrder_completeOrder (kinds : List SectionKind) :
    completeOrder (completeOrder kinds) = completeOrder kinds :=
  completeOrder_of_complete (nodup_completeOrder kinds) (mem_completeOrder kinds)

/-! Sections -/

/-- The sections of a document are those of the kinds that have content, in the order of the
layout. -/
structure Assembly.FollowsOrder (content : Content) (layout : LayoutTokens) : Prop where
  kinds : (sections content layout).map SectionTree.kind
    = layout.sectionOrder.filter (hasContent content)
  once : ((sections content layout).map SectionTree.kind).Nodup
  exact : ∀ kind, kind ∈ (sections content layout).map SectionTree.kind ↔ hasContent content kind

theorem Assembly.followsOrder {content : Content} {layout : LayoutTokens}
    (distinct : layout.sectionOrder.Nodup) (complete : ∀ kind, kind ∈ layout.sectionOrder) :
    FollowsOrder content layout := by
  have kinds : (sections content layout).map SectionTree.kind
      = layout.sectionOrder.filter (hasContent content) := by
    simp [sections, Function.comp_def]
  refine ⟨kinds, kinds ▸ distinct.filter _, fun kind => ?_⟩
  rw [kinds, List.mem_filter]
  exact and_iff_right (complete kind)

namespace StyleDescriptor

theorem sectionOrder_of_ofMembers {members : List (String × Json)} {d : StyleDescriptor}
    (h : ofMembers members = .ok d) :
    readOrder (Json.getOrNull "sectionOrder" members) = .ok d.sectionOrder := by
  unfold ofMembers at h
  -- the colours, the declarations and ten choices are read before the order
  iterate 12 obtain ⟨_, -, h⟩ := Checked.bind_eq_ok.mp h
  obtain ⟨requested, read, h⟩ := Checked.bind_eq_ok.mp h
  -- and eight choices behind it
  iterate 8 obtain ⟨_, -, h⟩ := Checked.bind_eq_ok.mp h
  obtain rfl := Except.ok.inj h
  exact read

end StyleDescriptor

/-- The order of a resolved style is the one that its request comes to. -/
theorem StyleTokens.sectionOrder_of_ofJson {members : List (String × Json)} {tokens : StyleTokens}
    {requested : List Json}
    (request : StyleDescriptor.readOrder (Json.getOrNull "sectionOrder" members) = .ok requested)
    (h : ofJson (.object members) = .ok tokens) :
    resolveSectionOrder requested = .ok tokens.layout.sectionOrder := by
  obtain ⟨r, resolved, h⟩ := Checked.bind_eq_ok.mp h
  obtain rfl := Except.ok.inj h
  obtain ⟨d, read, made⟩ := Checked.bind_eq_ok.mp resolved
  have same := (StyleDescriptor.sectionOrder_of_ofMembers read).symm.trans request
  rw [← Except.ok.inj same]
  exact StyleDescriptor.sectionOrder_of_resolve made

/-- Sections keep the requested order. A request is refused, as a fault of configuration, exactly if
some value in it is no word for a section. Any other comes to an order that has every kind once:
first those that were requested, where they are named first, then all others in their own order. What
it comes to requests itself. And a document in a style that resolves has the sections of exactly the
kinds that have content, each once, in the order that the request of the style comes to. -/
theorem sections_keep_requested_order (requested : List Json) :
    ((∃ cause, resolveSectionOrder requested = .error (.configuration cause))
        ↔ ∃ value ∈ requested, NamesNoSection value)
      ∧ ((∀ value ∈ requested, ¬ NamesNoSection value) →
        ∃ kinds order, requested = requestOf kinds ∧ resolveSectionOrder requested = .ok order
          ∧ KeepsRequest kinds order ∧ resolveSectionOrder (requestOf order) = .ok order)
      ∧ ∀ members tokens,
        StyleDescriptor.readOrder (Json.getOrNull "sectionOrder" members) = .ok requested →
        StyleTokens.ofJson (.object members) = .ok tokens →
        resolveSectionOrder requested = .ok tokens.layout.sectionOrder
          ∧ ∀ content, Assembly.FollowsOrder content tokens.layout := by
  refine ⟨?_, fun known => ?_, fun members tokens request resolved => ?_⟩
  · rcases exists_requestOf requested with ⟨kinds, rfl⟩ | ⟨kinds, value, rest, rfl, unknown⟩
    · refine iff_of_false ?_ fun ⟨value, mem, unknown⟩ => not_namesNoSection_of_mem mem unknown
      rintro ⟨cause, failed⟩
      rw [resolveSectionOrder_requestOf] at failed
      cases failed
    · exact iff_of_true ⟨_, resolveSectionOrder_of_unknown kinds unknown rest⟩
        ⟨value, by simp, unknown⟩
  · rcases exists_requestOf requested with ⟨kinds, rfl⟩ | ⟨kinds, value, rest, rfl, unknown⟩
    · refine ⟨kinds, completeOrder kinds, rfl, resolveSectionOrder_requestOf kinds,
        keepsRequest_completeOrder kinds, ?_⟩
      rw [resolveSectionOrder_requestOf, completeOrder_completeOrder]
    · exact absurd unknown (known value (by simp))
  · obtain ⟨distinct, complete⟩ := StyleTokens.sectionOrder_complete resolved
    exact ⟨StyleTokens.sectionOrder_of_ofJson request resolved,
      fun content => Assembly.followsOrder distinct complete⟩

/-- A style that asks for the skills first, twice, and for the summary in between. -/
def skillsFirst : List (String × Json) :=
  [("sectionOrder", .list [.string "skills", .string "summary", .string "skills"])]

/-- A content with a summary, a skill and a certificate. -/
def certifiedContent : Content :=
  { fullName := "Ada", summary := some "Engines.", skills := { technical := ["Looms"], soft := [] },
    certifications := ["Analysis"] }

theorem sections_keep_requested_order_skills :
    (∀ value ∈ requestOf [.skills, .summary, .skills], ¬ NamesNoSection value)
      ∧ (∃ kinds order, requestOf [.skills, .summary, .skills] = requestOf kinds
        ∧ resolveSectionOrder (requestOf [.skills, .summary, .skills]) = .ok order
        ∧ KeepsRequest kinds order)
      ∧ ∃ tokens, StyleTokens.ofJson (.object skillsFirst) = .ok tokens
        ∧ tokens.layout.sectionOrder
          = [.skills, .summary, .experience, .education, .languages, .certifications]
        ∧ (Assembly.sections certifiedContent tokens.layout).map SectionTree.kind
          = [.skills, .summary, .certifications] := by
  have known : ∀ value ∈ requestOf [.skills, .summary, .skills], ¬ NamesNoSection value :=
    fun value mem => not_namesNoSection_of_mem mem
  have request : StyleDescriptor.readOrder (Json.getOrNull "sectionOrder" skillsFirst)
      = .ok (requestOf [.skills, .summary, .skills]) := rfl
  have resolvable : (StyleTokens.ofJson (.object skillsFirst)).isOk := by decide +kernel
  obtain ⟨tokens, resolved⟩ := Checked.exists_of_isOk resolvable
  obtain ⟨-, accepted, shown⟩ :=
    sections_keep_requested_order (requestOf [.skills, .summary, .skills])
  obtain ⟨kinds, order, named, made, keeps, -⟩ := accepted known
  obtain ⟨ordered, follows⟩ := shown skillsFirst tokens request resolved
  have whole : tokens.layout.sectionOrder
      = [.skills, .summary, .experience, .education, .languages, .certifications] :=
    Except.ok.inj (ordered.symm.trans (resolveSectionOrder_requestOf [.skills, .summary, .skills]))
  refine ⟨known, ⟨kinds, order, named, made, keeps⟩, tokens, resolved, whole, ?_⟩
  rw [(follows certifiedContent).kinds, whole]
  rfl

end Vitae
