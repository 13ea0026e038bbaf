import Vitae.Text.Printable
import Vitae.Text.Digit

/-!
Quoted text for messages: single quotes, unless the text holds a single quote and no double one.
The quote in use, backslashes and characters without a visible form are escaped.
-/

namespace Vitae.Text

def quoteFor (cs : List Char) : Char :=
  if cs.contains '\'' && !cs.contains '"' then '"' else '\''

def escapeQuoted (quote c : Char) : List Char :=
  if c == quote || c == '\\' then ['\\', c]
  else if c == '\t' then ['\\', 't']
  else if c == '\n' then ['\\', 'n']
  else if c == '\r' then ['\\', 'r']
  else if isPrintable c then [c]
  else
    let n := c.toNat
    if n ≤ 0xff then '\\' :: 'x' :: hexDigits 2 n
    else if n ≤ 0xffff then '\\' :: 'u' :: hexDigits 4 n
    else '\\' :: 'U' :: hexDigits 8 n

def quotedChars (cs : List Char) : List Char :=
  let quote := quoteFor cs
  quote :: cs.flatMap (escapeQuoted quote) ++ [quote]

def quoted (s : String) : String := String.ofList (quotedChars s.toList)

end Vitae.Text
