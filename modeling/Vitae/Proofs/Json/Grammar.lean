import Vitae.Json.Reader

/-!
JSON as a grammar. The rules say which texts stand for which values, and nothing about how they are
read. A text may be limited in how many digits a whole number has, in how deep values are nested,
and to strings that consist of characters.
-/

namespace Vitae.Json

open Decimal (Binary64)
open Text (CodePoint Points)

/-! Strings -/

/-- Texts that begin with an escaped second half of a surrogate pair. -/
def StartsLow (cs : List Char) : Prop :=
  ∃ e f g h m rest, cs = '\\' :: 'u' :: e :: f :: g :: h :: rest
    ∧ hexValue? [e, f, g, h] = some m ∧ isLowSurrogate m

/-- What stands between the quotes of a string, and the code points it stands for. Two halves of a
surrogate pair in a row stand for one character. -/
inductive IsQuoted : List Char → List CodePoint → Prop where
  | nil : IsQuoted [] []
  | plain {c : Char} {cs : List Char} {s : List CodePoint} (quote : c ≠ '"') (escape : c ≠ '\\')
    (control : 32 ≤ c.toNat) (rest : IsQuoted cs s) : IsQuoted (c :: cs) (.char c :: s)
  | escape {c e : Char} {cs : List Char} {s : List CodePoint} (simple : simpleEscape? c = some e)
    (rest : IsQuoted cs s) : IsQuoted ('\\' :: c :: cs) (.char e :: s)
  | unit {a b c d : Char} {n : Nat} {cs : List Char} {s : List CodePoint}
    (hex : hexValue? [a, b, c, d] = some n) (alone : isHighSurrogate n → ¬ StartsLow cs)
    (rest : IsQuoted cs s) :
    IsQuoted ('\\' :: 'u' :: a :: b :: c :: d :: cs) (.ofNat n :: s)
  | pair {a b c d e f g h : Char} {n m : Nat} {cs : List Char} {s : List CodePoint}
    (hex : hexValue? [a, b, c, d] = some n) (high : isHighSurrogate n)
    (hex' : hexValue? [e, f, g, h] = some m) (low : isLowSurrogate m) (rest : IsQuoted cs s) :
    IsQuoted ('\\' :: 'u' :: a :: b :: c :: d :: '\\' :: 'u' :: e :: f :: g :: h :: cs)
      (.char (joinSurrogates n m) :: s)

/-- What a JSON text may hold: so many digits in a whole number, and halves of surrogate pairs on
their own or none. -/
structure Limits where
  digits : Nat
  halves : Bool

/-- What stands between the quotes of a string, and the text it stands for. A string with half of a
pair in it stands for no text here, so that where such a string is let through, any will do. -/
inductive IsSaid (halves : Bool) (cs : List Char) (s : String) : Prop where
  | text {codes : List CodePoint} (quoted : IsQuoted cs codes)
    (chars : Points.ofCodes codes = .chars s)
  | halved {codes : List CodePoint} (quoted : IsQuoted cs codes)
    (lone : (Points.ofCodes codes).hasHalf) (allowed : halves)

/-! Numbers -/

/-- Digits, at least one. -/
structure IsDigits (ds : List Char) : Prop where
  some : ds ≠ []
  all : ∀ d ∈ ds, isDigit d

/-- The whole part of a number, which begins with a zero only if it is one. -/
structure IsWhole (ds : List Char) : Prop where
  digits : IsDigits ds
  lead : ∀ rest, ds = '0' :: rest → rest = []

inductive IsSign : List Char → Bool → Prop where
  | none : IsSign [] false
  | minus : IsSign ['-'] true

/-- A fraction, and its digits. -/
inductive IsFraction : List Char → List Char → Prop where
  | none : IsFraction [] []
  | some {ds : List Char} (digits : IsDigits ds) : IsFraction ('.' :: ds) ds

/-- An exponent, and its value. -/
inductive IsExponent : List Char → Option Int → Prop where
  | none : IsExponent [] none
  | bare {e : Char} {ds : List Char} (mark : e = 'e' ∨ e = 'E') (digits : IsDigits ds) :
    IsExponent (e :: ds) (some (digitsValue ds))
  | plus {e : Char} {ds : List Char} (mark : e = 'e' ∨ e = 'E') (digits : IsDigits ds) :
    IsExponent (e :: '+' :: ds) (some (digitsValue ds))
  | minus {e : Char} {ds : List Char} (mark : e = 'e' ∨ e = 'E') (digits : IsDigits ds) :
    IsExponent (e :: '-' :: ds) (some (-digitsValue ds))

/-- Numbers with at most so many digits where they are whole; those with a fraction or an exponent
are binary. -/
inductive IsNumber (limit : Nat) : List Char → Json → Prop where
  | whole {sign ds : List Char} {negative : Bool} (signed : IsSign sign negative)
    (whole : IsWhole ds) (short : ds.length ≤ limit) : IsNumber limit (sign ++ ds)
      (.int (if negative then -(digitsValue ds : Int) else digitsValue ds))
  | binary {sign ds fraction ds' exponent : List Char} {negative : Bool} {power : Option Int}
    (signed : IsSign sign negative) (whole : IsWhole ds) (fractional : IsFraction fraction ds')
    (powered : IsExponent exponent power) (marked : fraction ++ exponent ≠ []) :
    IsNumber limit (sign ++ (ds ++ (fraction ++ exponent)))
      (.float (Binary64.ofDecimal negative (digitsValue (ds ++ ds')) (power.getD 0 - ds'.length)))

/-! Values -/

def IsBlanks (cs : List Char) : Prop := ∀ c ∈ cs, isJsonBlank c

/-- What a piece of a text is: a value, or what stands in a list or an object behind its opening
bracket, up to the closing one. -/
inductive Meaning where
  | value (v : Json)
  | items (items : List Json)
  | members (members : List (String × Json))

/-- An object has the members that are put one after the other. -/
def collectMembers (members : List (String × Json)) : List (String × Json) :=
  members.foldl (fun all member => putMember member.1 member.2 all) []

/-- The pieces of JSON text, nested so deep at most. -/
inductive Means (limits : Limits) : Nat → List Char → Meaning → Prop where
  | string {depth : Nat} {cs : List Char} {s : String} (said : IsSaid limits.halves cs s) :
    Means limits depth ('"' :: (cs ++ ['"'])) (.value (.string s))
  | literal {depth : Nat} {word : List Char} {v : Json} (known : (word, v) ∈ literals) :
    Means limits depth word (.value v)
  | number {depth : Nat} {cs : List Char} {v : Json} (number : IsNumber limits.digits cs v) :
    Means limits depth cs (.value v)
  | emptyList {depth : Nat} {bs : List Char} (blank : IsBlanks bs) :
    Means limits (depth + 1) ('[' :: (bs ++ [']'])) (.value (.list []))
  | list {depth : Nat} {bs cs : List Char} {items : List Json} (blank : IsBlanks bs)
    (inner : Means limits depth cs (.items items)) :
    Means limits (depth + 1) ('[' :: (bs ++ cs)) (.value (.list items))
  | emptyObject {depth : Nat} {bs : List Char} (blank : IsBlanks bs) :
    Means limits (depth + 1) ('\x7b' :: (bs ++ ['\x7d'])) (.value (.object []))
  | object {depth : Nat} {bs cs : List Char} {members : List (String × Json)} (blank : IsBlanks bs)
    (inner : Means limits depth cs (.members members)) :
    Means limits (depth + 1) ('\x7b' :: (bs ++ cs)) (.value (.object (collectMembers members)))
  | lastItem {depth : Nat} {cs bs : List Char} {v : Json} (first : Means limits depth cs (.value v))
    (blank : IsBlanks bs) : Means limits depth (cs ++ (bs ++ [']'])) (.items [v])
  | item {depth : Nat} {cs bs bs' more : List Char} {v : Json} {items : List Json}
    (first : Means limits depth cs (.value v)) (blank : IsBlanks bs) (blank' : IsBlanks bs')
    (rest : Means limits depth more (.items items)) :
    Means limits depth (cs ++ (bs ++ ',' :: (bs' ++ more))) (.items (v :: items))
  | lastMember {depth : Nat} {key cs bs bs' bs'' : List Char} {s : String} {v : Json}
    (said : IsSaid limits.halves key s) (blank : IsBlanks bs) (blank' : IsBlanks bs')
    (first : Means limits depth cs (.value v)) (blank'' : IsBlanks bs'') :
    Means limits depth ('"' :: (key ++ '"' :: (bs ++ ':' :: (bs' ++ (cs ++ (bs'' ++ ['\x7d']))))))
      (.members [(s, v)])
  | member {depth : Nat} {key cs bs bs' bs'' gap more : List Char} {s : String} {v : Json}
    {members : List (String × Json)} (said : IsSaid limits.halves key s) (blank : IsBlanks bs)
    (blank' : IsBlanks bs') (first : Means limits depth cs (.value v)) (blank'' : IsBlanks bs'')
    (spaced : IsBlanks gap) (rest : Means limits depth more (.members members)) :
    Means limits depth
      ('"' :: (key ++ '"' :: (bs ++ ':' :: (bs' ++ (cs ++ (bs'' ++ ',' :: (gap ++ more)))))))
      (.members ((s, v) :: members))

/-- A text that is one value with blanks around it. -/
def IsDocument (limits : Limits) (depth : Nat) (text : List Char) (v : Json) : Prop :=
  ∃ before cs after, text = before ++ (cs ++ after) ∧ IsBlanks before
    ∧ Means limits depth cs (.value v) ∧ IsBlanks after

/-- Texts that are JSON, however long their numbers and however deep their values are, with halves
of surrogate pairs or without. -/
def IsJson (text : List Char) : Prop := ∃ limits depth v, IsDocument limits depth text v

end Vitae.Json
