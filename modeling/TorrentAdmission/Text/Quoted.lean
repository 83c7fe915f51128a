import TorrentAdmission.Text.Hex
import TorrentAdmission.Text.Unprintable

/-!
# Quoted text

A text between double quotes in which every character can be seen: the quote, the backslash and the
usual control characters are written with a backslash, and every other character that has no glyph
of its own is written by its number.
-/

namespace TorrentAdmission.Text.Quoted

def encodeChar (c : Char) : List Char :=
  if c = '\x00' then ['\\', '0']
  else if c = '\t' then ['\\', 't']
  else if c = '\n' then ['\\', 'n']
  else if c = '\r' then ['\\', 'r']
  else if c = '"' then ['\\', '"']
  else if c = '\\' then ['\\', '\\']
  else if isUnprintable c then ['\\', 'u', '\x7b'] ++ Hex.digits c.toNat ++ ['\x7d']
  else [c]

def encode (s : List Char) : List Char :=
  '"' :: s.flatMap encodeChar ++ ['"']

def render (s : String) : String :=
  .ofList (encode s.toList)

end TorrentAdmission.Text.Quoted
