import ScreenCapture.Text.Unseen

namespace ScreenCapture.Text

def codePoint (c : Char) : String := String.ofList (Nat.toDigits 16 c.toNat)

def escaped (c : Char) : String :=
  if c = '\x00' then "\\0"
  else if c = '\t' then "\\t"
  else if c = '\n' then "\\n"
  else if c = '\r' then "\\r"
  else if c = '"' then "\\\""
  else if c = '\\' then "\\\\"
  else if isUnseen c then "\\u\x7b" ++ codePoint c ++ "\x7d"
  else String.singleton c

def quoted (text : String) : String := "\"" ++ String.join (text.toList.map escaped) ++ "\""

end ScreenCapture.Text
