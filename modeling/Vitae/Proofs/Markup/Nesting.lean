import Vitae.Proofs.Markup.Tree

/-!
The tokens of trees nest into those trees. Whatever is open around them stays open, and text that
came before them goes on in them.
-/

namespace Vitae

namespace Html

namespace Nesting

/-- The same nesting with other ends understood. -/
def leaving (n : Nesting) (names : List String) : Nesting := { n with understood := names }

theorem add_leaving (n : Nesting) (names : List String) (html : Html) :
    (n.leaving names).add html = (n.add html).leaving names := by
  unfold leaving add
  cases n.frames <;> rfl

theorem textChild_leaving (n : Nesting) (names : List String) (s : String) :
    (n.leaving names).textChild s = n.textChild s := rfl

theorem flush_leaving (n : Nesting) (names : List String) :
    (n.leaving names).flush = n.flush.leaving names := by
  by_cases h : n.pending.isEmpty
  · simp [flush, leaving, h]
  · have held := add_leaving n names (n.textChild n.pending)
    rw [← textChild_leaving n names] at held
    simp only [flush, leaving, h, Bool.false_eq_true, if_false] at held ⊢
    rw [held]
    rfl

theorem pending_add (n : Nesting) (html : Html) : (n.add html).pending = n.pending := by
  unfold add
  split <;> rfl

theorem understood_add (n : Nesting) (html : Html) : (n.add html).understood = n.understood := by
  unfold add
  split <;> rfl

theorem pending_flush (n : Nesting) : n.flush.pending = "" := by
  unfold flush
  split
  · next h => exact String.isEmpty_iff.mp h
  · rfl

theorem understood_flush (n : Nesting) : n.flush.understood = n.understood := by
  unfold flush
  split
  · rfl
  · exact understood_add n _

/-- What is inside an element that is not raw is told by the name of the element alone. -/
def IsPlain (n : Nesting) : Prop := ∀ s, n.textChild s = .text s

theorem IsPlain.add {n : Nesting} (h : n.IsPlain) (html : Html) : (n.add html).IsPlain := by
  intro s
  have plain := h s
  unfold Nesting.add textChild at *
  cases frames : n.frames with
  | nil => rfl
  | cons frame rest => simpa [frames] using plain

theorem IsPlain.flush {n : Nesting} (h : n.IsPlain) : n.flush.IsPlain := by
  unfold Nesting.flush
  split
  · exact h
  · exact h.add _

/-- What a tree does to a nesting, once its own end is reached. -/
def put (n : Nesting) : Html → Nesting
  | .text s => { n with pending := n.pending ++ s }
  | html => n.flush.add html.asRead

theorem put_leaving (n : Nesting) (names : List String) (html : Html) :
    (n.leaving names).put html = (n.put html).leaving names := by
  cases html <;> first | rfl | simp only [put, flush_leaving, add_leaving]

theorem foldl_put_leaving (htmls : List Html) (n : Nesting) (names : List String) :
    htmls.foldl put (n.leaving names) = (htmls.foldl put n).leaving names := by
  induction htmls generalizing n with
  | nil => rfl
  | cons html htmls ih => rw [List.foldl_cons, put_leaving, ih, List.foldl_cons]

theorem IsPlain.put {n : Nesting} (h : n.IsPlain) (html : Html) : (n.put html).IsPlain := by
  cases html with
  | text s => exact h
  | verbatim s => exact h.flush.add _
  | bracketed bracket s => exact h.flush.add _
  | element tag children => exact h.flush.add _

theorem flush_eq_foldl_add {n : Nesting} (h : n.IsPlain) :
    n.flush = (heldText n.pending).foldl add { n with pending := "" } := by
  by_cases empty : n.pending.isEmpty
  · have : n.pending = "" := String.isEmpty_iff.mp empty
    simp [flush, heldText, ← this]
  · simp only [flush, heldText, empty, Bool.false_eq_true, if_false, h n.pending]
    unfold add
    cases n.frames <;> rfl

/-- Trees end up as they are read, one after another. -/
theorem flush_foldl_put (htmls : List Html) {n : Nesting} (h : n.IsPlain) :
    (htmls.foldl put n).flush = (asReadAll n.pending htmls).foldl add { n with pending := "" } := by
  have solid {html : Html} {htmls : List Html} {n : Nesting} (h : n.IsPlain)
      (ih : ∀ {n : Nesting}, n.IsPlain → (htmls.foldl put n).flush
        = (asReadAll n.pending htmls).foldl add { n with pending := "" }) :
      (htmls.foldl put (n.flush.add html.asRead)).flush
        = (heldText n.pending ++ html.asRead :: asReadAll "" htmls).foldl add
          { n with pending := "" } := by
    have pending : (n.flush.add html.asRead).pending = "" := by rw [pending_add, pending_flush]
    rw [ih (h.flush.add _), pending, List.foldl_append, ← flush_eq_foldl_add h, List.foldl_cons]
    congr 1
    rw [← pending]
  induction htmls generalizing n with
  | nil => exact flush_eq_foldl_add h
  | cons html htmls ih =>
    cases html with
    | text s => exact ih (n := { n with pending := n.pending ++ s }) h
    | verbatim s => exact solid h ih
    | bracketed bracket s => exact solid h ih
    | element tag children => exact solid h ih

/-- Trees behind no text end up as they are read from their beginning. -/
theorem flush_foldl_put_of_pending (htmls : List Html) {n : Nesting} (h : n.IsPlain)
    (none : n.pending = "") :
    (htmls.foldl put n).flush = (asReadAll "" htmls).foldl add n := by
  have start : ({ n with pending := "" } : Nesting) = n := by rw [← none]
  rw [flush_foldl_put htmls h, none, start]

theorem foldl_add_of_frames (htmls : List Html) {n : Nesting} {frame : Frame} {rest : List Frame}
    (h : n.frames = frame :: rest) :
    htmls.foldl add n
      = { n with
        frames := { frame with children := htmls.reverse ++ frame.children } :: rest } := by
  induction htmls generalizing n frame with
  | nil => simp [← h]
  | cons html htmls ih =>
    have added : n.add html
        = { n with frames := { frame with children := html :: frame.children } :: rest } := by
      simp [add, h]
    rw [List.foldl_cons, added, ih rfl]
    simp

theorem foldl_add_of_roots (htmls : List Html) {n : Nesting} (h : n.frames = []) :
    htmls.foldl add n = { n with roots := htmls.reverse ++ n.roots } := by
  induction htmls generalizing n with
  | nil => rfl
  | cons html htmls ih =>
    have added : n.add html = { n with roots := html :: n.roots } := by simp [add, h]
    rw [List.foldl_cons, added, ih (n := { n with roots := html :: n.roots }) h]
    simp

/-- An end tag closes the element that was opened last, if that is its own. -/
theorem endElement_of_frames {n : Nesting} {frame : Frame} {rest : List Frame}
    (frames : n.flush.frames = frame :: rest) (unknown : frame.tag.name ∉ n.understood) :
    n.endElement frame.tag.name
      = ({ n.flush with frames := rest } : Nesting).add frame.element := by
  have depth : n.flush.depthOf frame.tag.name = 1 := by simp [depthOf, frames, List.findIdx?_cons]
  simp [endElement, unknown, depth, closeMany, close, frames]

/-- An element whose content was put into it is an element with that content. -/
theorem endElement_of_content {n k : Nesting} {name : String} {attributes : List (String × String)}
    {content : List Html} (inside : k.flush = content.foldl add (n.flush.push name attributes))
    (names : List String) (unknown : name ∉ names) :
    (k.leaving names).endElement name
      = (n.flush.add (.paired name attributes content)).leaving names := by
  have held := foldl_add_of_frames content (n := n.flush.push name attributes) rfl
  have frames : (k.leaving names).flush.frames
      = ⟨{ name, attributes }, content.reverse ++ []⟩ :: n.flush.frames := by
    rw [flush_leaving, inside, held]
    rfl
  have closed := endElement_of_frames frames unknown
  have outside : ({ (k.leaving names).flush with frames := n.flush.frames } : Nesting)
      = n.flush.leaving names := by
    rw [flush_leaving, inside, held]
    rfl
  rw [closed, outside, add_leaving]
  simp [Frame.element, Html.paired]

/-- Nesting some tokens is the same as putting some trees, but for the ends that void elements leave
behind. -/
def Nests (tokens : List Token) (htmls : List Html) : Prop :=
  ∀ n : Nesting, n.IsPlain → (∀ name ∈ n.understood, name ∈ voidNames) →
    ∃ names, (∀ name ∈ names, name ∈ voidNames) ∧
      tokens.foldl step n = (htmls.foldl put n).leaving names

theorem nests_tokensAll {htmls : List Html} (each : ∀ html ∈ htmls, Nests (tokens html) [html]) :
    Nests (tokensAll htmls) htmls := by
  induction htmls with
  | nil => exact fun n _ known => ⟨n.understood, known, rfl⟩
  | cons html htmls ih =>
    intro n plain known
    obtain ⟨names, void, first⟩ := each html (by simp) n plain known
    obtain ⟨names', void', later⟩ := ih (fun h mem => each h (by simp [mem]))
      ((n.put html).leaving names) (plain.put html) void
    refine ⟨names', void', ?_⟩
    rw [tokensAll, List.foldl_append, first]
    simp only [List.foldl_cons, List.foldl_nil]
    rw [later, foldl_put_leaving]
    rfl

theorem isPlain_push (n : Nesting) {name : String} (attributes : List (String × String))
    (h : Token.isRaw name = false) : (n.push name attributes).IsPlain := by
  intro s
  simp [push, textChild, h]

theorem foldl_step_paired {tag : Tag} (form : tag.form = .paired) (known : tag.name ∉ voidNames)
    (children : List Html) (n : Nesting) : (tokens (.element tag children)).foldl step n
      = ((tokensAll children).foldl step
        (n.flush.push tag.name (Token.readBack tag))).endElement tag.name := by
  simp [tokens, form, step, openElement, known]

theorem flush_push_raw {n : Nesting} (empty : n.pending = "") {name : String}
    (attributes : List (String × String)) (raw : Token.isRaw name) {s : String}
    (begun : s.isEmpty = false) :
    (step (n.push name attributes) (.text s)).flush
      = [.verbatim s].foldl add (n.push name attributes) := by
  have some : s ≠ "" := by simpa using begun
  simp [step, push, empty, flush, some, textChild, raw, add]

theorem nests_tokens {html : Html} (h : Writable html) : Nests (tokens html) [html] := by
  induction h with
  | text s => exact fun n _ known => ⟨n.understood, known, rfl⟩
  | doctype s begun free =>
    intro n plain known
    refine ⟨n.understood, known, ?_⟩
    have content : n.contentOf s = s := by simp [contentOf, begun]
    have kept := understood_add n.flush (.bracketed .doctype s)
    rw [understood_flush] at kept
    simp only [tokens, List.foldl_cons, List.foldl_nil, step, content, put, asRead, leaving, ← kept]
  | void tag names form known =>
    intro n plain understood
    refine ⟨tag.name :: n.understood, by simpa [known] using understood, ?_⟩
    have kept := understood_add n.flush (.void tag.name (Token.readBack tag))
    rw [understood_flush] at kept
    simp [tokens, tokensAll, form, step, openElement, known, put, asRead, asReadAll, heldText,
      Tag.asRead, leaving, ← kept, Html.void]
  | selfClosed tag names form known =>
    intro n plain understood
    refine ⟨n.understood, understood, ?_⟩
    have kept := understood_add n.flush (.paired tag.name (Token.readBack tag) [])
    rw [understood_flush] at kept
    simp [tokens, tokensAll, form, step, openElement, known, put, asRead, asReadAll, heldText,
      Tag.asRead, leaving, ← kept, Html.paired]
  | raw tag s names form known begun free =>
    intro n plain understood
    have void := not_mem_voidNames_of_isRaw known
    refine ⟨n.understood, understood, ?_⟩
    have inside := flush_push_raw (pending_flush n) (Token.readBack tag) known begun
    have closed := endElement_of_content inside n.understood
      fun mem => void (understood _ mem)
    have kept : (step (n.flush.push tag.name (Token.readBack tag)) (.text s)).leaving n.understood
        = step (n.flush.push tag.name (Token.readBack tag)) (.text s) := by
      simp [step, leaving, push, understood_flush]
    rw [kept] at closed
    rw [foldl_step_paired form void]
    simpa [tokensAll, tokens, put, asRead, asReadAll, heldText, Tag.asRead, form, Html.paired]
      using closed
  | paired tag children names form known notRaw each ih =>
    intro n plain understood
    have inner := isPlain_push n.flush (Token.readBack tag) notRaw
    obtain ⟨left, void, content⟩ := nests_tokensAll ih (n.flush.push tag.name (Token.readBack tag))
      inner (by simpa [push, understood_flush] using understood)
    refine ⟨left, void, ?_⟩
    have inside := flush_foldl_put_of_pending children inner (pending_flush n)
    have closed := endElement_of_content inside left fun mem => known (void _ mem)
    rw [foldl_step_paired form known, content, closed]
    simp [put, asRead, Tag.asRead, form, Html.paired]

end Nesting

/-- A text that is read as some tokens is parsed into the trees that they put. -/
theorem parse_of_readsBack {cs : List Char} {tokens : List Token} (reads : ReadsBack cs tokens)
    {htmls : List Html} {names : List String}
    (nested : tokens.foldl Nesting.step {} = (htmls.foldl Nesting.put {}).leaving names) :
    parse cs = asReadAll "" htmls := by
  have alone := reads [] [] (Token.reads_nil {})
  simp only [List.append_nil] at alone
  have alike := (alone _ (Nat.le_refl _)).nesting {}
  have plain : Nesting.IsPlain {} := fun _ => rfl
  have inside := Nesting.flush_foldl_put_of_pending htmls plain rfl
  have roots := Nesting.foldl_add_of_roots (asReadAll "" htmls) (n := {}) rfl
  rw [parse, ofTokens, Token.read, alike, nested, Nesting.finish, Nesting.flush_leaving, inside,
    roots]
  simp [Nesting.closeMany, Nesting.leaving]

/-- Only a text with an unknown section among its tokens is refused. -/
theorem isRefused_of_readsBack {cs : List Char} {tokens : List Token} (reads : ReadsBack cs tokens)
    (known : .unknownSection ∉ tokens) : isRefused cs = false := by
  have alone := reads [] [] (Token.reads_nil {})
  simp only [List.append_nil] at alone
  have unknown := (alone _ (Nat.le_refl _)).unknown
  rw [isRefused, Token.read, List.contains_eq_mem, decide_eq_false_iff_not, unknown]
  exact known

/-- Writing trees out and parsing the text gives the trees as they are read. -/
theorem parse_charsAll {htmls : List Html} (h : ∀ html ∈ htmls, Writable html) :
    parse (charsAll escapeMarkup htmls) = asReadAll "" htmls := by
  obtain ⟨names, -, nested⟩ := Nesting.nests_tokensAll
    (fun html mem => Nesting.nests_tokens (h html mem)) {} (fun _ => rfl) (by simp)
  exact parse_of_readsBack (readsBack_charsAll fun html mem => readsBack_chars (h html mem)) nested

theorem mem_tokensAll {token : Token} {htmls : List Html} :
    token ∈ tokensAll htmls ↔ ∃ html ∈ htmls, token ∈ tokens html := by
  induction htmls with
  | nil => simp [tokensAll]
  | cons html htmls ih => simp [tokensAll, ih]

theorem unknownSection_not_mem_tokens {html : Html} (h : Writable html) :
    Token.unknownSection ∉ tokens html := by
  induction h with
  | text s => simp [tokens]
  | doctype s begun free => simp [tokens]
  | void tag names form known => simp [tokens, tokensAll, form]
  | selfClosed tag names form known => simp [tokens, tokensAll, form]
  | raw tag s names form known begun free => simp [tokens, tokensAll, form]
  | paired tag children names form known notRaw each ih =>
    simpa [tokens, form, mem_tokensAll] using ih

/-- What is written out is never refused. -/
theorem isRefused_charsAll {htmls : List Html} (h : ∀ html ∈ htmls, Writable html) :
    isRefused (charsAll escapeMarkup htmls) = false := by
  refine isRefused_of_readsBack
    (readsBack_charsAll fun html mem => readsBack_chars (h html mem)) ?_
  rw [mem_tokensAll]
  exact fun ⟨html, mem, token⟩ => unknownSection_not_mem_tokens (h html mem) token

end Html

end Vitae
