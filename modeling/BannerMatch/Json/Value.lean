/-!
# JSON values and how they are written

`Value.compact` writes a value without white space, `Value.pretty` with one member or item on a
line and two blanks for every level.
-/

namespace BannerMatch.Json

/-- A JSON value; numbers are kept as they are written. -/
inductive Value
  | null
  | number (digits : String)
  | text (s : String)
  | list (items : List Value)
  | object (members : List (String × Value))

/-- A hexadecimal digit. -/
def hexDigit (n : Nat) : Char := if n < 10 then Char.ofNat (48 + n) else Char.ofNat (87 + n)

/-- A character inside a string. -/
def escapeChar (c : Char) : List Char :=
  if c = '"' then ['\\', '"']
  else if c = '\\' then ['\\', '\\']
  else if c = '\x08' then ['\\', 'b']
  else if c = '\x0c' then ['\\', 'f']
  else if c = '\n' then ['\\', 'n']
  else if c = '\r' then ['\\', 'r']
  else if c = '\t' then ['\\', 't']
  else if c.toNat < 0x20 then
    ['\\', 'u', '0', '0', hexDigit (c.toNat / 16), hexDigit (c.toNat % 16)]
  else [c]

/-- A text as a string. -/
def quote (cs : List Char) : List Char := '"' :: (cs.flatMap escapeChar ++ ['"'])

mutual

/-- The value without white space. -/
def Value.compact : Value → List Char
  | .null => "null".toList
  | .number digits => digits.toList
  | .text s => quote s.toList
  | .list items => '[' :: (compactItems items ++ [']'])
  | .object members => '\x7b' :: (compactMembers members ++ ['\x7d'])

/-- Items with commas between them. -/
def compactItems : List Value → List Char
  | [] => []
  | v :: rest => v.compact ++ (if rest.isEmpty then [] else ',' :: compactItems rest)

/-- Members with commas between them. -/
def compactMembers : List (String × Value) → List Char
  | [] => []
  | (k, v) :: rest =>
      quote k.toList ++ ':' :: v.compact ++
        (if rest.isEmpty then [] else ',' :: compactMembers rest)

end

/-- A new line with blanks for `depth` levels. -/
def newLine (depth : Nat) : List Char := '\n' :: List.replicate (2 * depth) ' '

mutual

/-- The value on several lines; `depth` is the level at which it stands. -/
def Value.pretty (depth : Nat) : Value → List Char
  | .null => "null".toList
  | .number digits => digits.toList
  | .text s => quote s.toList
  | .list items =>
      if items.isEmpty then ['[', ']']
      else '[' :: (prettyItems (depth + 1) items ++ newLine depth ++ [']'])
  | .object members =>
      if members.isEmpty then ['\x7b', '\x7d']
      else '\x7b' :: (prettyMembers (depth + 1) members ++ newLine depth ++ ['\x7d'])

/-- Items on lines of their own. -/
def prettyItems (depth : Nat) : List Value → List Char
  | [] => []
  | v :: rest =>
      newLine depth ++ v.pretty depth ++
        (if rest.isEmpty then [] else ',' :: prettyItems depth rest)

/-- Members on lines of their own. -/
def prettyMembers (depth : Nat) : List (String × Value) → List Char
  | [] => []
  | (k, v) :: rest =>
      newLine depth ++ quote k.toList ++ ':' :: ' ' :: v.pretty depth ++
        (if rest.isEmpty then [] else ',' :: prettyMembers depth rest)

end

end BannerMatch.Json
