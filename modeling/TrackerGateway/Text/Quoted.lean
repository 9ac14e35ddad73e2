import TrackerGateway.Text.Category

/-!
# Text in quotes, for messages

A quote, a backslash and the usual control characters have short escapes; every other character that
has no visible form of its own, and every one that would merge with the character before it, is
written by its code point.
-/

namespace TrackerGateway.Text.Quoted

/-- A character by its code point. -/
def byCode (c : Char) : List Char :=
  ['\\', 'u', '\x7b'] ++ Nat.toDigits 16 c.toNat ++ ['\x7d']

/-- A character as it stands between quotes. -/
def escape (c : Char) : List Char :=
  if c = '"' then ['\\', '"']
  else if c = '\\' then ['\\', '\\']
  else if c = '\n' then ['\\', 'n']
  else if c = '\r' then ['\\', 'r']
  else if c = '\t' then ['\\', 't']
  else if c.toNat = 0 then ['\\', '0']
  else if isExtending c || !isPrintable c then byCode c
  else [c]

/-- The text in quotes. -/
def encode (text : String) : String :=
  String.ofList ('"' :: text.toList.flatMap escape ++ ['"'])

end TrackerGateway.Text.Quoted
