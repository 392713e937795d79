/-!
# JSON values and their text

* `Json` : the values, with natural numbers as the only numbers; members keep their order;
* `Json.quoted` : a string in its quotes, with the escapes that it needs;
* `Json.compact` : the text of a value on one line;
* `Json.pretty` : the text of a value with one item or member on each line, two blanks deeper than what holds it.
-/

namespace BuilderAudit

inductive Json
  | null
  | bool (b : Bool)
  | number (n : Nat)
  | string (s : String)
  | array (items : List Json)
  | object (members : List (String × Json))

namespace Json

def hexDigit (n : Nat) : Char := if n < 10 then Char.ofNat (0x30 + n) else Char.ofNat (0x57 + n)

/-- A character inside quotes: quotes, backslashes and control characters are escaped. -/
def escapeChar (c : Char) : List Char :=
  if c = '"' then ['\\', '"']
  else if c = '\\' then ['\\', '\\']
  else if c = '\x08' then ['\\', 'b']
  else if c = '\t' then ['\\', 't']
  else if c = '\n' then ['\\', 'n']
  else if c = '\x0C' then ['\\', 'f']
  else if c = '\r' then ['\\', 'r']
  else if c.toNat < 0x20 then ['\\', 'u', '0', '0', hexDigit (c.toNat / 16), hexDigit (c.toNat % 16)]
  else [c]

def quoted (s : List Char) : List Char := '"' :: s.flatMap escapeChar ++ ['"']

def decimal (n : Nat) : List Char := Nat.toDigits 10 n

def boolText (b : Bool) : List Char := if b then "true".toList else "false".toList

mutual

/-- The text of a value on one line. -/
def compact : Json → List Char
  | null => "null".toList
  | bool b => boolText b
  | number n => decimal n
  | string s => quoted s.toList
  | array items => '[' :: compactItems items
  | object members => '{' :: compactMembers members
termination_by structural j => j

def compactItems : List Json → List Char
  | [] => [']']
  | [item] => item.compact ++ [']']
  | item :: items => item.compact ++ ',' :: compactItems items
termination_by structural items => items

def compactMembers : List (String × Json) → List Char
  | [] => ['}']
  | [(key, value)] => quoted key.toList ++ ':' :: value.compact ++ ['}']
  | (key, value) :: members => quoted key.toList ++ ':' :: value.compact ++ ',' :: compactMembers members
termination_by structural members => members

end

def newline (depth : Nat) : List Char := '\n' :: List.replicate (2 * depth) ' '

mutual

/-- The text of a value that stands at a given depth, over several lines. -/
def pretty (depth : Nat) : Json → List Char
  | null => "null".toList
  | bool b => boolText b
  | number n => decimal n
  | string s => quoted s.toList
  | array [] => ['[', ']']
  | array items => '[' :: prettyItems depth items
  | object [] => ['{', '}']
  | object members => '{' :: prettyMembers depth members
termination_by structural j => j

def prettyItems (depth : Nat) : List Json → List Char
  | [] => newline depth ++ [']']
  | [item] => newline (depth + 1) ++ item.pretty (depth + 1) ++ newline depth ++ [']']
  | item :: items => newline (depth + 1) ++ item.pretty (depth + 1) ++ ',' :: prettyItems depth items
termination_by structural items => items

def prettyMembers (depth : Nat) : List (String × Json) → List Char
  | [] => newline depth ++ ['}']
  | [(key, value)] =>
    newline (depth + 1) ++ quoted key.toList ++ ':' :: ' ' :: value.pretty (depth + 1) ++ newline depth ++ ['}']
  | (key, value) :: members =>
    newline (depth + 1) ++ quoted key.toList ++ ':' :: ' ' :: value.pretty (depth + 1) ++ ',' ::
      prettyMembers depth members
termination_by structural members => members

end

end Json

end BuilderAudit
