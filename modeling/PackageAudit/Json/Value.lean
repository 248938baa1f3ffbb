import PackageAudit.Json.Quoted

/-!
# JSON values

A value is written over several lines (`Value.pretty`): each member and each item stands on a line of its own,
indented by two blanks for every level.
-/

namespace PackageAudit.Json

/-- A JSON value. Numbers are kept as they are written, members in their order. -/
inductive Value where
  | null
  | bool (b : Bool)
  | number (literal : List Char)
  | string (text : List Char)
  | array (items : List Value)
  | object (members : List (List Char × Value))

def Value.nat (n : Nat) : Value :=
  .number (toString n).toList

def Value.text (s : String) : Value :=
  .string s.toList

/-- The value of an object, with its keys as texts. -/
def Value.record (members : List (String × Value)) : Value :=
  .object (members.map fun (key, value) => (key.toList, value))

def newLine (depth : Nat) : List Char :=
  '\n' :: List.replicate (2 * depth) ' '

mutual

/-- A value that begins at a depth, over several lines. -/
def Value.prettyAt (depth : Nat) : Value → List Char
  | .null => ['n', 'u', 'l', 'l']
  | .bool true => ['t', 'r', 'u', 'e']
  | .bool false => ['f', 'a', 'l', 's', 'e']
  | .number literal => literal
  | .string text => quote text
  | .array [] => ['[', ']']
  | .array (item :: items) =>
    '[' :: newLine (depth + 1) ++ item.prettyAt (depth + 1) ++ prettyItems (depth + 1) items
      ++ newLine depth ++ [']']
  | .object [] => ['\x7b', '\x7d']
  | .object ((key, value) :: members) =>
    '\x7b' :: newLine (depth + 1) ++ quote key ++ [':', ' '] ++ value.prettyAt (depth + 1)
      ++ prettyMembers (depth + 1) members ++ newLine depth ++ ['\x7d']

def Value.prettyItems (depth : Nat) : List Value → List Char
  | [] => []
  | item :: items => ',' :: newLine depth ++ item.prettyAt depth ++ prettyItems depth items

/-- The members after the first. -/
def Value.prettyMembers (depth : Nat) : List (List Char × Value) → List Char
  | [] => []
  | (key, value) :: members =>
    ',' :: newLine depth ++ quote key ++ [':', ' '] ++ value.prettyAt depth ++ prettyMembers depth members

end

def Value.pretty (v : Value) : String :=
  String.ofList (v.prettyAt 0)

end PackageAudit.Json
