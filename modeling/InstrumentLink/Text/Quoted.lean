import InstrumentLink.Text.Hexadecimal
import InstrumentLink.Text.Unprintable

/-!
Text between quotation marks, as error messages show what they were given.

A quotation mark and a backslash are written behind a backslash, the usual control characters by
their letter, and every other character that has no printed form of its own by its code point.
-/

set_option autoImplicit false

namespace InstrumentLink.Text.Quoted

def codePoint (character : Char) : List Char :=
  ['\\', 'u', '\x7b'] ++ Hexadecimal.digits character.toNat ++ ['\x7d']

def escape (character : Char) : List Char :=
  if character = '\x00' then ['\\', '0']
  else if character = '\t' then ['\\', 't']
  else if character = '\r' then ['\\', 'r']
  else if character = '\n' then ['\\', 'n']
  else if character = '\\' then ['\\', '\\']
  else if character = '"' then ['\\', '"']
  else if Unprintable.contains character then codePoint character
  else [character]

def encode (text : String) : String :=
  String.ofList (['"'] ++ text.toList.flatMap escape ++ ['"'])

end InstrumentLink.Text.Quoted
