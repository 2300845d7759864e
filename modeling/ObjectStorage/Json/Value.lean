import ObjectStorage.Json.Quoted

/-! JSON values and their compact text. Numbers are whole. -/

namespace ObjectStorage

/-- A JSON value. The members of an object keep their order. -/
inductive Json where
  | null
  | bool (value : Bool)
  | number (value : Int)
  | string (value : String)
  | array (items : List Json)
  | object (members : List (String × Json))

namespace Json

/-- A whole number in decimal digits. -/
def decimal : Int → List Char
  | .ofNat n => Nat.toDigits 10 n
  | .negSucc n => '-' :: Nat.toDigits 10 (n + 1)

mutual

/-- The characters of a value, without blanks. -/
def render : Json → List Char
  | .null => ['n', 'u', 'l', 'l']
  | .bool true => ['t', 'r', 'u', 'e']
  | .bool false => ['f', 'a', 'l', 's', 'e']
  | .number value => decimal value
  | .string value => quoted value
  | .array [] => ['[', ']']
  -- Only the parts behind the first have a comma in front.
  | .array (item :: items) => '[' :: render item ++ renderItems items ++ [']']
  | .object [] => ['\x7b', '\x7d']
  | .object (member :: members) =>
    '\x7b' :: renderMember member ++ renderMembers members ++ ['\x7d']

/-- The items of an array after its first. -/
def renderItems : List Json → List Char
  | [] => []
  | item :: items => ',' :: render item ++ renderItems items

/-- One member of an object. -/
def renderMember : String × Json → List Char
  | (name, value) => quoted name ++ ':' :: render value

/-- The members of an object after its first. -/
def renderMembers : List (String × Json) → List Char
  | [] => []
  | member :: members => ',' :: renderMember member ++ renderMembers members

end

/-- The compact text of a value. -/
def text (value : Json) : String := String.ofList value.render

/-- An object whose members are ordered by the code points of their names. -/
def sortedObject (members : List (String × Json)) : Json :=
  .object (members.mergeSort fun first second => first.1 ≤ second.1)

end Json

end ObjectStorage
