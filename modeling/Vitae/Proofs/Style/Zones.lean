import Mathlib.Data.List.Forall2
import Mathlib.Data.List.Sort
import Vitae.Proofs.Fault
import Vitae.Proofs.Json
import Vitae.Proofs.Style.Cleaning
import Vitae.Proofs.Text.Lacks
import Vitae.Proofs.Vocabulary
import Vitae.Style.Tokens

/-!
Declarations zone by zone. What is resolved of them is the safe part of what each zone is given, in
the order of the zones' words, whatever order they were written in.
-/

namespace Vitae

open Style (safePart)

namespace Checked

variable {α β : Type} {f : α → Checked β} {items : List α} {results : List β}

/-- A step for each item succeeds if it does for every one of them. -/
theorem mapM_eq_ok_iff :
    items.mapM f = .ok results ↔ List.Forall₂ (fun a b => f a = .ok b) items results := by
  induction items generalizing results with
  | nil =>
    rw [List.forall₂_nil_left_iff]
    simp [pure, Except.pure, eq_comm]
  | cons a items ih =>
    rw [List.mapM_cons, List.forall₂_cons_left_iff, bind_eq_ok]
    constructor
    · rintro ⟨b, found, rest⟩
      obtain ⟨more, others, same⟩ := bind_eq_ok.mp rest
      exact ⟨b, more, found, ih.mp others, (Except.ok.inj same).symm⟩
    · rintro ⟨b, more, found, others, rfl⟩
      exact ⟨b, found, bind_eq_ok.mpr ⟨more, ih.mpr others, rfl⟩⟩

end Checked

/-- What is given for a zone, and what is left of it. -/
structure StyleZone.Cleans (given : String × Json) (left : StyleZone × String) : Prop where
  zone : given.1 = left.1.word
  css : ∃ s, given.2 = .string s ∧ safePart s = left.2

theorem StyleZone.Cleans.unique {given : String × Json} {left other : StyleZone × String}
    (h : Cleans given left) (h' : Cleans given other) : left = other := by
  obtain ⟨s, written, safe⟩ := h.css
  obtain ⟨t, written', safe'⟩ := h'.css
  obtain rfl := Json.string.inj (written.symm.trans written')
  exact Prod.ext (Vocabulary.word_injective (h.zone.symm.trans h'.zone)) (safe.symm.trans safe')

namespace StyleZone

/-- The zones in the order of their words. -/
def byWord : List StyleZone :=
  [.avatar, .divider, .header, .headline, .highlights, .item, .itemSubtitle, .itemTitle, .name,
    .sectionBox, .sectionTitle, .skillTag, .skills, .summary]

theorem pairwise_byWord : byWord.Pairwise fun a b => a.word < b.word := by decide

theorem mem_byWord (zone : StyleZone) : zone ∈ byWord := by cases zone <;> decide

/-- What is left of the text given for a zone; nothing, if there is none. -/
def cssIn (given : List (String × Json)) (zone : StyleZone) : String :=
  match Json.get? zone.word given with
  | some (.string s) => safePart s
  | _ => ""

theorem exists_of_cssIn {given : List (String × Json)} {zone : StyleZone}
    (some : (zone.cssIn given).isEmpty = false) :
    ∃ s, (zone.word, .string s) ∈ given ∧ safePart s = zone.cssIn given := by
  unfold cssIn at some ⊢
  split at some
  · next s found => exact ⟨s, Json.mem_of_get? found, rfl⟩
  · simp at some

theorem isClean_cssIn (given : List (String × Json)) (zone : StyleZone) :
    Style.IsClean (zone.cssIn given).toList := by
  unfold cssIn
  split
  · exact Style.isClean_safePart _
  · exact Style.isClean_nil

end StyleZone

/-- The order of the words. -/
def wordOrder (a b : String × Json) : Bool := a.1 ≤ b.1

section

variable {given : List (String × Json)} {declarations : List (StyleZone × String)}

theorem pairwise_mergeSort_wordOrder (given : List (String × Json)) :
    (given.mergeSort wordOrder).Pairwise fun a b => a.1 ≤ b.1 := by
  have sorted : (given.mergeSort wordOrder).Pairwise fun a b => wordOrder a b := by
    refine List.pairwise_mergeSort (fun a b c first second => ?_) (fun a b => ?_) given
    · simp only [wordOrder, decide_eq_true_eq] at first second ⊢
      exact String.le_trans first second
    · simpa [wordOrder] using String.le_total a.1 b.1
  simpa [wordOrder] using sorted

/-- Declarations are what is left of the members in the order of their words. -/
theorem resolveDeclarations_eq_ok_iff : resolveDeclarations given = .ok declarations
    ↔ ∃ cleaned, List.Forall₂ StyleZone.Cleans (given.mergeSort wordOrder) cleaned
      ∧ cleaned.filter (fun entry => !entry.2.isEmpty) = declarations := by
  have step (entry : String × Json) (left : StyleZone × String) :
      ((Vocabulary.read "customCSS" (.string entry.1) : Checked StyleZone) >>= fun zone =>
        Style.sanitize zone.word entry.2 >>= fun text => Except.ok (zone, text)) = .ok left
        ↔ StyleZone.Cleans entry left := by
    obtain ⟨zone, text⟩ := left
    constructor
    · intro h
      obtain ⟨found, read, h⟩ := Checked.bind_eq_ok.mp h
      obtain ⟨cleaned, clean, h⟩ := Checked.bind_eq_ok.mp h
      obtain ⟨rfl, rfl⟩ := Prod.mk.inj (Except.ok.inj h)
      exact ⟨Json.string.inj (Vocabulary.eq_of_read read), Style.sanitize_eq_ok.mp clean⟩
    · rintro ⟨word, css⟩
      have read : (Vocabulary.read "customCSS" (.string entry.1) : Checked StyleZone) = .ok zone :=
        word ▸ Vocabulary.read_word "customCSS" zone
      exact Checked.bind_eq_ok.mpr ⟨zone, read,
        Checked.bind_eq_ok.mpr ⟨text, Style.sanitize_eq_ok.mpr css, rfl⟩⟩
  unfold resolveDeclarations
  rw [Checked.bind_eq_ok]
  constructor
  · rintro ⟨cleaned, all, rest⟩
    refine ⟨cleaned, ?_, Except.ok.inj rest⟩
    exact (Checked.mapM_eq_ok_iff.mp all).imp fun entry left => (step entry left).mp
  · rintro ⟨cleaned, all, rest⟩
    refine ⟨cleaned, ?_, congrArg Except.ok rest⟩
    exact Checked.mapM_eq_ok_iff.mpr (all.imp fun entry left => (step entry left).mpr)

theorem map_word_of_cleans {given : List (String × Json)} {cleaned : List (StyleZone × String)}
    (h : List.Forall₂ StyleZone.Cleans given cleaned) :
    cleaned.map (fun entry => entry.1.word) = given.map Prod.fst := by
  induction h with
  | nil => rfl
  | cons first _ ih => rw [List.map_cons, ih, ← first.zone, List.map_cons]

theorem mem_of_cleans {given : List (String × Json)} {cleaned : List (StyleZone × String)}
    (h : List.Forall₂ StyleZone.Cleans given cleaned) {left : StyleZone × String} :
    left ∈ cleaned ↔ ∃ entry ∈ given, StyleZone.Cleans entry left := by
  induction h with
  | nil => simp
  | cons first _ ih =>
    rw [List.mem_cons, ih]
    constructor
    · rintro (rfl | ⟨entry, mem, cleans⟩)
      · exact ⟨_, List.mem_cons_self, first⟩
      · exact ⟨entry, List.mem_cons_of_mem _ mem, cleans⟩
    · rintro ⟨entry, mem, cleans⟩
      rcases List.mem_cons.mp mem with rfl | mem
      · exact .inl (cleans.unique first)
      · exact .inr ⟨entry, mem, cleans⟩

/-- A zone has declarations if something is left of what it is given. -/
theorem mem_resolveDeclarations (h : resolveDeclarations given = .ok declarations)
    {zone : StyleZone} {css : String} : (zone, css) ∈ declarations
      ↔ css.isEmpty = false ∧ ∃ s, (zone.word, .string s) ∈ given ∧ safePart s = css := by
  obtain ⟨cleaned, all, rfl⟩ := resolveDeclarations_eq_ok_iff.mp h
  rw [List.mem_filter, mem_of_cleans all]
  constructor
  · rintro ⟨⟨⟨word, value⟩, mem, rfl, s, rfl, safe⟩, some⟩
    exact ⟨by simpa using some, s, List.mem_mergeSort.mp mem, safe⟩
  · rintro ⟨some, s, mem, safe⟩
    exact ⟨⟨_, List.mem_mergeSort.mpr mem, rfl, s, rfl, safe⟩, by simpa using some⟩

theorem pairwise_resolveDeclarations (h : resolveDeclarations given = .ok declarations) :
    declarations.Pairwise fun a b => a.1.word ≤ b.1.word := by
  obtain ⟨cleaned, all, rfl⟩ := resolveDeclarations_eq_ok_iff.mp h
  have words : (cleaned.map fun entry => entry.1.word).Pairwise (· ≤ ·) := by
    rw [map_word_of_cleans all, List.pairwise_map]
    exact pairwise_mergeSort_wordOrder given
  exact (List.pairwise_map.mp words).filter _

/-- What is resolved of declarations resolves to itself. -/
theorem resolveDeclarations_of_safe (sorted : declarations.Pairwise fun a b => a.1.word ≤ b.1.word)
    (safe : ∀ entry ∈ declarations, entry.2.isEmpty = false ∧ safePart entry.2 = entry.2) :
    resolveDeclarations (declarations.map fun entry => (entry.1.word, .string entry.2))
      = .ok declarations := by
  let given := declarations.map fun entry => (entry.1.word, Json.string entry.2)
  have order : given.mergeSort wordOrder = given := by
    refine List.mergeSort_of_pairwise (List.pairwise_map.mpr (sorted.imp fun below => ?_))
    simpa [wordOrder] using below
  have cleans : List.Forall₂ StyleZone.Cleans given declarations := by
    rw [List.forall₂_map_left_iff, List.forall₂_same]
    exact fun entry mem => ⟨rfl, entry.2, rfl, (safe entry mem).2⟩
  refine resolveDeclarations_eq_ok_iff.mpr ⟨declarations, order.symm ▸ cleans, ?_⟩
  exact List.filter_eq_self.mpr fun entry mem => by simp [(safe entry mem).1]

section

variable (distinct : (given.map Prod.fst).Nodup)

include distinct

theorem strict_resolveDeclarations (h : resolveDeclarations given = .ok declarations) :
    declarations.Pairwise fun a b => a.1.word < b.1.word := by
  have apart : declarations.Pairwise fun a b => a.1.word ≠ b.1.word := by
    obtain ⟨cleaned, all, rfl⟩ := resolveDeclarations_eq_ok_iff.mp h
    have words : (cleaned.map fun entry => entry.1.word).Nodup := by
      rw [map_word_of_cleans all]
      exact ((List.mergeSort_perm given wordOrder).map Prod.fst).nodup_iff.mpr distinct
    exact (List.pairwise_map.mp words).filter _
  exact ((pairwise_resolveDeclarations h).and apart).imp fun ⟨below, differs⟩ =>
    String.not_le.mp fun above => differs (String.le_antisymm below above)

/-- Zone by zone in the order of the words, what is left of the declarations stands there unless it
is nothing. -/
theorem resolveDeclarations_eq_byWord (h : resolveDeclarations given = .ok declarations) :
    declarations = (StyleZone.byWord.map fun zone => (zone, zone.cssIn given)).filter
      fun entry => !entry.2.isEmpty := by
  let below (a b : StyleZone × String) : Prop := a.1.word < b.1.word
  have irrefl : Std.Irrefl below := ⟨fun a => String.lt_irrefl a.1.word⟩
  have antisymm : Std.Antisymm below := ⟨fun a b first second => absurd second (String.lt_asymm first)⟩
  have sorted : (StyleZone.byWord.map fun zone => (zone, zone.cssIn given)).Pairwise below :=
    List.pairwise_map.mpr StyleZone.pairwise_byWord
  refine (strict_resolveDeclarations distinct h).eq_of_mem_iff (sorted.filter _) ?_
  rintro ⟨zone, css⟩
  rw [mem_resolveDeclarations h, List.mem_filter, List.mem_map]
  constructor
  · rintro ⟨some, s, mem, safe⟩
    have own : zone.cssIn given = css := by
      rw [StyleZone.cssIn, (Json.get?_eq_some_iff distinct).mpr mem, ← safe]
    exact ⟨⟨zone, zone.mem_byWord, by rw [own]⟩, by simpa using some⟩
  · rintro ⟨⟨other, -, same⟩, some⟩
    obtain ⟨rfl, rfl⟩ := Prod.mk.inj same
    have left : (other.cssIn given).isEmpty = false := by simpa using some
    obtain ⟨s, mem, safe⟩ := other.exists_of_cssIn left
    exact ⟨left, s, mem, safe⟩

/-- The order in which declarations are given does not matter. -/
theorem resolveDeclarations_perm {others : List (String × Json)} (same : given.Perm others) :
    resolveDeclarations given = resolveDeclarations others := by
  have sorted : given.mergeSort wordOrder = others.mergeSort wordOrder := by
    have perm := ((List.mergeSort_perm given wordOrder).trans same).trans
      (List.mergeSort_perm others wordOrder).symm
    refine perm.eq_of_pairwise (fun a b mem mem' first second => ?_)
      (pairwise_mergeSort_wordOrder given) (pairwise_mergeSort_wordOrder others)
    exact List.inj_on_of_nodup_map distinct (List.mem_mergeSort.mp mem)
      (same.mem_iff.mpr (List.mem_mergeSort.mp mem')) (String.le_antisymm first second)
  exact congrArg (fun sorted : List (String × Json) => sorted.mapM _ >>= _) sorted

end

end

namespace StyleTokens

theorem exists_descriptor_of_ofJson {style : Json} {tokens : StyleTokens}
    (h : ofJson style = .ok tokens) :
    ∃ (d : StyleDescriptor) (r : Resolution), d.resolve = .ok r ∧ r.tokens = tokens := by
  obtain ⟨r, resolved, rest⟩ := Checked.bind_eq_ok.mp h
  unfold resolutionOf at resolved
  split at resolved
  · obtain ⟨d, -, made⟩ := Checked.bind_eq_ok.mp resolved
    exact ⟨d, r, made, Except.ok.inj rest⟩
  · simp [throw, throwThe, MonadExceptOf.throw] at resolved

/-- The declarations of a resolved style are clean. -/
theorem lacks_declarations {style : Json} {tokens : StyleTokens} (h : ofJson style = .ok tokens)
    {mark : Char} (css : Style.isCssMark mark) : ∀ entry ∈ tokens.declarations, Lacks mark entry.2 := by
  obtain ⟨d, r, resolved, rfl⟩ := exists_descriptor_of_ofJson h
  unfold StyleDescriptor.resolve at resolved
  obtain ⟨declarations, clean, rest⟩ := Checked.bind_eq_ok.mp resolved
  obtain ⟨order, -, rest⟩ := Checked.bind_eq_ok.mp rest
  obtain rfl := Except.ok.inj rest
  rintro ⟨zone, text⟩ mem
  obtain ⟨-, s, -, rfl⟩ := (mem_resolveDeclarations clean).mp mem
  exact fun inside => absurd ((Style.isClean_safePart s).marks mark inside) (by simp [css])

end StyleTokens

end Vitae
