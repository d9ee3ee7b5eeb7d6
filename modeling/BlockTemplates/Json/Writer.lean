import BlockTemplates.Json

/-! JSON text. `compactText` writes data on one line; `bracketed` writes a container with one item a
line and two blanks for each level. Quotes, backslashes and control characters are escaped in
strings and nothing else is. -/

namespace BlockTemplates.Json

def hexChar (n : Nat) : Char := (Nat.toDigits 16 n).headD '0'

def escapeChar (c : Char) : List Char :=
  if c = '"' then ['\\', '"']
  else if c = '\\' then ['\\', '\\']
  else if c = '\x08' then ['\\', 'b']
  else if c = '\x0c' then ['\\', 'f']
  else if c = '\n' then ['\\', 'n']
  else if c = '\r' then ['\\', 'r']
  else if c = '\t' then ['\\', 't']
  else if c.toNat < 0x20 then ['\\', 'u', '0', '0', hexChar (c.toNat / 16), hexChar (c.toNat % 16)]
  else [c]

def quote (s : String) : String :=
  String.ofList ('"' :: s.toList.flatMap escapeChar ++ ['"'])

mutual

def compactText : Data → String
  | .null => "null"
  | .bool b => if b then "true" else "false"
  | .int n => Decimal.intText n
  | .float x => Decimal.compact.write x
  | .string s => quote s
  | .list items => "[" ++ ", ".intercalate (compactItems items) ++ "]"
  | .table entries => "\x7b" ++ ", ".intercalate (compactEntries entries) ++ "\x7d"

def compactItems : List Data → List String
  | [] => []
  | item :: rest => compactText item :: compactItems rest

def compactEntries : List (String × Data) → List String
  | [] => []
  | (key, value) :: rest => (quote key ++ ": " ++ compactText value) :: compactEntries rest

end

def newLine (level : Nat) : String := String.ofList ('\n' :: List.replicate (2 * level) ' ')

/-- The parts of a container, one a line, or nothing between the brackets when there are none. -/
def bracketed (level : Nat) (opening closing : String) (parts : List String) : String :=
  if parts.isEmpty then opening ++ closing
  else
    opening ++ newLine (level + 1) ++ ("," ++ newLine (level + 1)).intercalate parts
      ++ newLine level ++ closing

def stringLines (level : Nat) (items : List String) : String :=
  bracketed level "[" "]" (items.map quote)

def memberLines (level : Nat) (members : List (String × String)) : String :=
  bracketed level "\x7b" "\x7d" (members.map (fun member => quote member.1 ++ ": " ++ member.2))

end BlockTemplates.Json
