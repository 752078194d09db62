import BufferBridge.Text.Hidden

/-! Text between double quotes, with what a reader could not see or tell apart written as escapes. -/
namespace BufferBridge.Quoted

/-- A number in base 16, without leading zeros. -/
def hex (n : Nat) : List Char := Nat.toDigits 16 n

/-- A character as it stands between the quotes. -/
def escape (char : Char) : List Char :=
  if char = '"' then ['\\', '"']
  else if char = '\\' then ['\\', '\\']
  else if char = '\n' then ['\\', 'n']
  else if char = '\r' then ['\\', 'r']
  else if char = '\t' then ['\\', 't']
  else if char.toNat = 0 then ['\\', '0']
  else if Text.isHidden char then "\\u\x7b".toList ++ hex char.toNat ++ "\x7d".toList
  else [char]

/-- A text between quotes. -/
def quote (text : String) : String :=
  "\"" ++ String.ofList (text.toList.flatMap escape) ++ "\""

end BufferBridge.Quoted
