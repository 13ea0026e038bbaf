import Vitae.Proofs.Markup.Found

/-!
The trees of any text. What a reader finds is put together without losing it: elements that never
have content have none, a raw element holds one text at most, and that text can be written in such
an element again.
-/

namespace Vitae

open Token (IsFoundName AreFoundAttributes StandsAlone FillsRaw PassesRaw)

/-- A tag as it is found. -/
structure Tag.IsFound (tag : Tag) : Prop where
  name : IsFoundName tag.name
  attributes : AreFoundAttributes tag.name tag.attributes
  form : tag.form ≠ .selfClosed

namespace Html

/-- A tree as it is found, in a preformatted element or not. -/
inductive IsFound : Bool → Html → Prop where
  | text (preformatted : Bool) (s : String) : IsFound preformatted (.text s)
  | bracketed (preformatted : Bool) (bracket : Bracket) (s : String)
      (begun : s = "" → preformatted) (alone : bracket ≠ .declaration → StandsAlone bracket s) :
      IsFound preformatted (.bracketed bracket s)
  | void (preformatted : Bool) (tag : Tag) (found : tag.IsFound) (form : tag.form = .void)
      (known : tag.name ∈ voidNames) : IsFound preformatted (.element tag [])
  | hollow (preformatted : Bool) (tag : Tag) (found : tag.IsFound) (form : tag.form = .paired)
      (raw : Token.isRaw tag.name) : IsFound preformatted (.element tag [])
  | raw (preformatted : Bool) (tag : Tag) (s : String) (found : tag.IsFound)
      (form : tag.form = .paired) (raw : Token.isRaw tag.name) (begun : s.isEmpty = false)
      (fills : FillsRaw tag.name s.toList) : IsFound preformatted (.element tag [.verbatim s])
  | paired (preformatted : Bool) (tag : Tag) (children : List Html) (found : tag.IsFound)
      (form : tag.form = .paired) (known : tag.name ∉ voidNames)
      (notRaw : Token.isRaw tag.name = false)
      (each : ∀ child ∈ children,
        IsFound (preformattedNames.contains tag.name || preformatted) child) :
      IsFound preformatted (.element tag children)

/-- Open elements as they are found, none of them raw. -/
inductive AreOpen : List Frame → Prop where
  | nil : AreOpen []
  | cons (frame : Frame) (outer : List Frame) (found : frame.tag.IsFound)
      (form : frame.tag.form = .paired) (known : frame.tag.name ∉ voidNames)
      (notRaw : Token.isRaw frame.tag.name = false)
      (each : ∀ child ∈ frame.children, IsFound ((frame :: outer).any fun frame =>
        preformattedNames.contains frame.tag.name) child)
      (open_ : AreOpen outer) : AreOpen (frame :: outer)

namespace Nesting

/-- A nesting outside raw elements. -/
structure IsFound (n : Nesting) : Prop where
  frames : AreOpen n.frames
  roots : ∀ html ∈ n.roots, html.IsFound false
  understood : ∀ name ∈ n.understood, name ∈ voidNames

theorem isPreformatted_add (n : Nesting) (html : Html) :
    (n.add html).isPreformatted = n.isPreformatted := by
  unfold add isPreformatted
  cases n.frames <;> rfl

theorem isPreformatted_flush (n : Nesting) : n.flush.isPreformatted = n.isPreformatted := by
  unfold flush
  split
  · rfl
  · exact isPreformatted_add n _

namespace IsFound

variable {n : Nesting}

theorem isPlain (h : n.IsFound) : n.IsPlain := by
  obtain ⟨frames, roots, pending, understood⟩ := n
  intro s
  cases frames with
  | nil => rfl
  | cons frame outer =>
    cases h.frames with
    | cons _ _ found form known notRaw each open_ => simp [textChild, notRaw]

theorem add (h : n.IsFound) {html : Html} (found : html.IsFound n.isPreformatted) :
    (n.add html).IsFound := by
  obtain ⟨frames, roots, pending, understood⟩ := n
  cases frames with
  | nil => exact ⟨.nil, List.forall_mem_cons.mpr ⟨found, h.roots⟩, h.understood⟩
  | cons frame outer =>
    cases h.frames with
    | cons _ _ tag form known notRaw each open_ =>
      exact ⟨.cons _ _ tag form known notRaw (List.forall_mem_cons.mpr ⟨found, each⟩) open_,
        h.roots, h.understood⟩

theorem flush (h : n.IsFound) : n.flush.IsFound := by
  unfold Nesting.flush
  split
  · exact h
  · have text : (n.textChild n.pending).IsFound n.isPreformatted := by
      rw [h.isPlain]
      exact .text _ _
    have added := h.add text
    exact ⟨added.frames, added.roots, added.understood⟩

theorem close (h : n.IsFound) : n.close.IsFound := by
  obtain ⟨frames, roots, pending, understood⟩ := n
  cases frames with
  | nil => exact h
  | cons frame outer =>
    cases h.frames with
    | cons _ _ tag form known notRaw each open_ =>
      have outside : Nesting.IsFound ⟨outer, roots, pending, understood⟩ :=
        ⟨open_, h.roots, h.understood⟩
      exact outside.add (.paired _ _ _ tag form known notRaw
        fun child mem => each child (List.mem_reverse.mp mem))

theorem closeMany (h : n.IsFound) (count : Nat) : (closeMany count n).IsFound := by
  induction count generalizing n with
  | zero => exact h
  | succ count ih => exact ih h.close

theorem endElement (h : n.IsFound) (name : String) : (n.endElement name).IsFound := by
  unfold Nesting.endElement
  split
  · exact ⟨h.frames, h.roots, fun other mem => h.understood other (List.mem_of_mem_erase mem)⟩
  · exact h.flush.closeMany _

theorem push (h : n.IsFound) {name : String} {attributes : List (String × String)}
    (found : Tag.IsFound { name, attributes }) (known : name ∉ voidNames)
    (notRaw : Token.isRaw name = false) : (n.push name attributes).IsFound :=
  ⟨.cons _ _ found rfl known notRaw (by simp) h.frames, h.roots, h.understood⟩

/-- A tag that opens no raw element. -/
theorem openElement (h : n.IsFound) {name : String} {attributes : List (String × String)}
    (found : Tag.IsFound { name, attributes }) {closed : Bool}
    (ordinary : Token.isRaw name = false ∨ closed) :
    (n.openElement name attributes closed).IsFound := by
  unfold Nesting.openElement
  split
  · next known =>
    have member : name ∈ voidNames := by simpa using known
    have added := h.add (.void _ { name, attributes, form := .void }
      ⟨found.name, found.attributes, by simp⟩ rfl member)
    cases closed with
    | true => exact added
    | false =>
      exact ⟨added.frames, added.roots, List.forall_mem_cons.mpr ⟨member, added.understood⟩⟩
  · next known =>
    have member : name ∉ voidNames := by simpa using known
    split
    · apply h.add
      cases raw : Token.isRaw name with
      | true => exact .hollow _ _ found rfl raw
      | false => exact .paired _ _ _ found rfl member raw (by simp)
    · next open_ => exact h.push found member (ordinary.resolve_right open_)

theorem contentOf (n : Nesting) {bracket : Bracket} {s : String}
    (alone : bracket ≠ .declaration → StandsAlone bracket s) :
    (Html.bracketed bracket (n.contentOf s)).IsFound n.isPreformatted := by
  unfold Nesting.contentOf
  split
  · next hollow =>
    refine .bracketed _ _ _ (fun empty => absurd empty (by decide)) fun known => ?_
    have free : '>' ∉ [' '] := by decide
    exact Token.standsAlone_of_not_mem known free
  · next filled =>
    refine .bracketed _ _ _ (fun empty => ?_) alone
    simpa [empty] using filled

/-- Outside raw elements, and not at the beginning of one. -/
theorem step (h : n.IsFound) {token : Token} (found : token.IsFound)
    (ordinary : Token.rawIn [token] = none) : (n.step token).IsFound := by
  cases found with
  | text s => exact ⟨h.frames, h.roots, h.understood⟩
  | bracketed bracket s alone =>
    have content := contentOf n alone
    rw [← isPreformatted_flush] at content
    exact h.flush.add content
  | opening name attributes closed named found =>
    refine h.flush.openElement ⟨named, found, by simp⟩ ?_
    cases closed with
    | true => exact .inr rfl
    | false => exact .inl (by simpa [Token.rawIn] using ordinary)
  | closing name => exact h.endElement name
  | unknownSection => exact h

end IsFound

/-- A nesting in a raw element, with the text that has been passed over in it. -/
structure IsInRaw (name : String) (n : Nesting) : Prop where
  raw : Token.isRaw name
  inside : ∃ (outer : Nesting) (attributes : List (String × String)) (passed : List Char),
    outer.IsFound ∧ outer.pending = "" ∧ Tag.IsFound { name, attributes } ∧ PassesRaw name passed
      ∧ n = { outer.push name attributes with pending := String.ofList passed }

namespace IsInRaw

variable {n : Nesting} {name : String}

theorem pass (h : n.IsInRaw name) {passed : List Char} (passes : PassesRaw name passed) :
    (n.step (.text (String.ofList passed))).IsInRaw name := by
  obtain ⟨raw, outer, attributes, before, found, none, tag, passes', rfl⟩ := h
  refine ⟨raw, outer, attributes, before ++ passed, found, none, tag, passes'.append passes, ?_⟩
  simp [Nesting.step]

/-- The raw element with what has been passed over in it and what is still in front of its end. -/
theorem finish (h : n.IsInRaw name) {content : List Char} (fills : FillsRaw name content) :
    ((n.step (.text (String.ofList content))).endElement name).IsFound := by
  obtain ⟨raw, outer, attributes, before, found, none, tag, passes, rfl⟩ := h
  have whole := passes.append_fills fills
  have unknown : name ∉ outer.understood := fun mem =>
    not_mem_voidNames_of_isRaw raw (found.understood _ mem)
  have flushed : outer.flush = outer := by simp [Nesting.flush, none]
  have text : Nesting.step { outer.push name attributes with pending := String.ofList before }
      (.text (String.ofList content))
      = (outer.push name attributes).step (.text (String.ofList (before ++ content))) := by
    simp [Nesting.step, push, none]
  have closed {children : List Html} (filled : (Html.paired name attributes children).IsFound
      outer.isPreformatted)
      (inside :
        ((outer.push name attributes).step (.text (String.ofList (before ++ content)))).flush
          = children.foldl Nesting.add (outer.flush.push name attributes)) :
      (((outer.push name attributes).step
        (.text (String.ofList (before ++ content)))).endElement name).IsFound := by
    have ended := endElement_of_content inside outer.understood unknown
    have added := found.add filled
    rw [flushed] at ended
    have same : ((outer.push name attributes).step
        (.text (String.ofList (before ++ content)))).leaving outer.understood
      = (outer.push name attributes).step (.text (String.ofList (before ++ content))) := rfl
    rw [same] at ended
    rw [ended]
    exact ⟨added.frames, added.roots, found.understood⟩
  rw [text]
  cases begun : (String.ofList (before ++ content)).isEmpty with
  | true =>
    refine closed (.hollow _ _ tag rfl raw) ?_
    have nothing : String.ofList (before ++ content) = "" := String.isEmpty_iff.mp begun
    simp [Nesting.step, nothing, push, none, Nesting.flush]
  | false =>
    refine closed (.raw _ _ _ tag rfl raw begun (by rwa [String.toList_ofList])) ?_
    rw [flush_push_raw none attributes raw begun, flushed]

end IsInRaw

/-- A nesting as it is found by a reader that is in a raw element or not. -/
def IsFoundIn : Option String → Nesting → Prop
  | none, n => n.IsFound
  | some name, n => n.IsInRaw name

theorem IsFound.open_raw {n : Nesting} (h : n.IsFound) {name : String}
    {attributes : List (String × String)} (found : Tag.IsFound { name, attributes })
    (raw : Token.isRaw name) : (n.step (.opening name attributes false)).IsInRaw name := by
  have known : voidNames.contains name = false := by
    simpa using not_mem_voidNames_of_isRaw raw
  refine ⟨raw, n.flush, attributes, [], h.flush, pending_flush n, found, Token.passesRaw_nil name,
    ?_⟩
  have opened : n.step (.opening name attributes false) = n.flush.push name attributes := by
    rw [Nesting.step, Nesting.openElement, known, if_neg (by simp), if_neg (by simp)]
  have pending : (n.flush.push name attributes).pending = String.ofList [] := pending_flush n
  rw [opened, ← pending]

/-- One step of the reader. -/
theorem isFoundIn_step {s : Token.State} {n : Nesting} (h : IsFoundIn s.raw n) (cs : List Char) :
    IsFoundIn (Token.step s cs).1.raw ((Token.step s cs).2.1.foldl step n) := by
  cases raw : s.raw with
  | none =>
    have found : n.IsFound := by rwa [raw] at h
    obtain ⟨finds, after⟩ := Token.step_finds raw cs
    rw [after]
    generalize (Token.step s cs).2.1 = tokens at finds
    cases finds with
    | nothing => exact found
    | one token isFound =>
      cases opens : Token.rawIn [token] with
      | none => exact found.step isFound opens
      | some name =>
        cases isFound with
        | opening name' attributes closed named attributesFound =>
          cases closed with
          | true => cases opens
          | false =>
            rw [Token.rawIn] at opens
            split at opens
            · next isRaw =>
              cases opens
              exact found.open_raw ⟨named, attributesFound, by simp⟩ isRaw
            · cases opens
        | _ => cases opens
  | some name =>
    have inside : n.IsInRaw name := by rwa [raw] at h
    have own : Token.step s cs = Token.rawStep s name cs := by rw [Token.step, raw]
    rw [own]
    rcases Token.rawStep_cases inside.raw s cs with
      same | ⟨content, rest, fills, same⟩ | ⟨passed, rest, passes, same⟩
    · rwa [same]
    · rw [same]
      have alike := (Token.alike_textOf content [.closing name]).nesting n
      rw [alike]
      exact inside.finish fills
    · rw [same, raw]
      have alike := (Token.alike_textOf passed []).nesting n
      rw [List.append_nil] at alike
      rw [alike]
      exact inside.pass passes

theorem exists_isFoundIn_readFrom (fuel : Nat) {s : Token.State} (cs : List Char) {n : Nesting}
    (h : IsFoundIn s.raw n) : ∃ raw, IsFoundIn raw ((Token.readFrom fuel s cs).foldl step n) := by
  induction fuel generalizing s cs n with
  | zero => exact ⟨s.raw, h⟩
  | succ fuel ih =>
    cases cs with
    | nil => exact ⟨s.raw, h⟩
    | cons c cs =>
      have taken : Token.step s (c :: cs) = ((Token.step s (c :: cs)).1,
        (Token.step s (c :: cs)).2.1, (Token.step s (c :: cs)).2.2) := rfl
      rw [Token.readFrom_succ taken (List.cons_ne_nil c cs), List.foldl_append]
      exact ih _ (isFoundIn_step h (c :: cs))

theorem IsFound.finish {n : Nesting} (h : n.IsFound) :
    ∀ html ∈ n.finish, html.IsFound false := by
  intro html mem
  rw [Nesting.finish, List.mem_reverse] at mem
  exact (h.flush.closeMany _).roots html mem

theorem finish_eq_close {n : Nesting} {frame : Frame} {rest : List Frame}
    (frames : n.flush.frames = frame :: rest) : n.finish = n.flush.close.finish := by
  have closed : n.flush.close = ({ n.flush with frames := rest } : Nesting).add frame.element := by
    rw [close, frames]
  have pending : n.flush.close.pending = "" := by
    rw [closed, pending_add]
    exact pending_flush n
  have flushed : n.flush.close.flush = n.flush.close := by
    rw [Nesting.flush, pending]
    rfl
  have length : n.flush.close.frames.length = rest.length := by
    rw [closed, add]
    cases rest <;> rfl
  simp only [finish, flushed, length, frames, List.length_cons, closeMany]

/-- A raw element without an end ends with the text. -/
theorem IsInRaw.finish_eq {n : Nesting} {name : String} (h : n.IsInRaw name) :
    n.finish = (n.endElement name).finish := by
  obtain ⟨raw, outer, attributes, passed, found, none, tag, -, rfl⟩ := h
  have unknown : name ∉ outer.understood := fun mem =>
    not_mem_voidNames_of_isRaw raw (found.understood _ mem)
  generalize whole :
    ({ outer.push name attributes with pending := String.ofList passed } : Nesting) = n
  have frames : ∃ children, n.flush.frames = ⟨{ name, attributes }, children⟩ :: outer.frames := by
    rw [← whole, Nesting.flush]
    split <;> exact ⟨_, rfl⟩
  obtain ⟨children, frames⟩ := frames
  have ended : n.endElement name = n.flush.close := by
    have unknown' : name ∉ n.understood := whole ▸ unknown
    rw [close, frames]
    exact endElement_of_frames frames unknown'
  rw [ended]
  exact finish_eq_close frames

end Nesting

/-- The trees of any text. -/
theorem isFound_of_mem_parse {cs : List Char} {html : Html} (mem : html ∈ parse cs) :
    html.IsFound false := by
  have empty : Nesting.IsFound {} := ⟨.nil, by simp, by simp⟩
  have start : Nesting.IsFoundIn (Token.State.raw {}) {} := empty
  obtain ⟨raw, h⟩ := Nesting.exists_isFoundIn_readFrom cs.length cs start
  cases raw with
  | none => exact h.finish html mem
  | some name =>
    have inside : Nesting.IsInRaw name ((Token.read cs).foldl Nesting.step {}) := h
    have text : Nesting.step ((Token.read cs).foldl Nesting.step {}) (.text (String.ofList []))
        = (Token.read cs).foldl Nesting.step {} := by simp [Nesting.step]
    have ended := inside.finish (Token.fillsRaw_nil inside.raw)
    rw [text] at ended
    rw [parse, ofTokens, inside.finish_eq] at mem
    exact ended.finish html mem

end Html

end Vitae
