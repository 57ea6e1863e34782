import SignedToken.Json.Basic
import SignedToken.Number.Layout
import SignedToken.Text.Hex

/-!
# Writing JSON

Documents are written compactly, without blanks and with members in their order.  In text the quote,
the backslash and the characters below U+0020 are escaped, five of these by a letter; all other
characters stand for themselves.
-/

namespace SignedToken.Json

def escape (char : Char) : List Char :=
  if char = '"' then ['\\', '"']
  else if char = '\\' then ['\\', '\\']
  else if char.toNat < 0x20 then
    if char = '\n' then ['\\', 'n']
    else if char = '\r' then ['\\', 'r']
    else if char = '\t' then ['\\', 't']
    else if char.toNat = 8 then ['\\', 'b']
    else if char.toNat = 12 then ['\\', 'f']
    else '\\' :: 'u' :: Hex.digits 4 char.toNat
  else [char]

def renderText (text : String) : List Char := '"' :: text.toList.flatMap escape ++ ['"']

def renderInt : Int → List Char
  | .ofNat size => Nat.toDigits 10 size
  | .negSucc size => '-' :: Nat.toDigits 10 (size + 1)

mutual

def render : Json → List Char
  | .null => "null".toList
  | .bool value => (if value then "true" else "false").toList
  | .int value => renderInt value
  | .float value => FloatLayout.json.render value
  | .text value => renderText value
  | .array items => '[' :: renderItems items ++ [']']
  | .object members => '{' :: renderMembers members ++ ['}']

def renderItems : List Json → List Char
  | [] => []
  | [item] => render item
  | item :: rest => render item ++ ',' :: renderItems rest

def renderMembers : List (String × Json) → List Char
  | [] => []
  | [(name, value)] => renderText name ++ ':' :: render value
  | (name, value) :: rest => renderText name ++ ':' :: render value ++ ',' :: renderMembers rest

end

end SignedToken.Json
