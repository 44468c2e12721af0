import AggregateGateway.Text.Bytes

/-!
The target of a request: a path and perhaps a query. Both are kept as they were sent; `decoded`
resolves the escapes of a part of them.
-/

namespace AggregateGateway.Http

structure Target where
  path : String
  query : Option String
  deriving DecidableEq

namespace Target

/-- What follows the scheme and the authority of an absolute target. -/
def local? (cs : List Char) : Option (List Char) :=
  match cs.dropWhile fun c => c != ':' && c != '/' && c != '?' with
  | ':' :: '/' :: '/' :: rest => some (rest.dropWhile fun c => c != '/' && c != '?')
  | _ => none

/-- A fragment is not part of a target. -/
def ofText (s : String) : Target :=
  let cs := s.toList.takeWhile (· != '#')
  let cs := (local? cs).getD cs
  let path := String.ofList (cs.takeWhile (· != '?'))
  { path := if path.isEmpty then "/" else path
    query := match cs.dropWhile (· != '?') with
      | [] => none
      | _ :: query => some (String.ofList query) }

end Target

/-- Resolves escapes of a percent sign and two hexadecimal digits; other percent signs stand for
themselves. -/
def decoded : Bytes → Bytes
  | [] => []
  | [b] => [b]
  | [b, c] => [b, c]
  | b :: c :: d :: rest =>
    if b == 0x25 then
      match Text.hexValue? c, Text.hexValue? d with
      | some high, some low => (16 * high + low).toUInt8 :: decoded rest
      | _, _ => b :: decoded (c :: d :: rest)
    else b :: decoded (c :: d :: rest)

/-- The parts of a text between separators. -/
def parts (separator : Char) (cs : List Char) : List (List Char) :=
  match cs with
  | [] => [[]]
  | c :: cs =>
    if c == separator then [] :: parts separator cs
    else
      match parts separator cs with
      | [] => [[c]]
      | first :: more => (c :: first) :: more

end AggregateGateway.Http
