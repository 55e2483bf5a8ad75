import StyleUsage.Yaml.Error

/-!
# Bytes of a YAML document

Bytes are written in base 64, in lines of 76 characters. When they are read, characters outside the
alphabet are passed over.
-/

namespace StyleUsage.Yaml

def sixBits? (c : Char) : Option Nat :=
  if 'A' ≤ c ∧ c ≤ 'Z' then some (c.toNat - 65)
  else if 'a' ≤ c ∧ c ≤ 'z' then some (c.toNat - 71)
  else if c.isDigit then some (c.toNat + 4)
  else if c = '+' then some 62
  else if c = '/' then some 63
  else none

/-- The bytes of a text from a place in a group of four characters on: `bits` are those that the
group has left over, and `pads` counts the equals signs just before. -/
def bytesFrom (place bits pads : Nat) : List Char → Except YamlError (List Nat)
  | [] =>
    if place = 0 then .ok [] else .error (.badValue "failed to decode base64 data")
  | c :: rest =>
    if c = '=' then
      if 2 ≤ place ∧ 4 ≤ place + pads + 1 then .ok []
      else bytesFrom place bits (if 2 ≤ place then pads + 1 else pads) rest
    else match sixBits? c with
      | none => bytesFrom place bits pads rest
      | some n =>
        match place with
        | 0 => bytesFrom 1 n 0 rest
        | 1 => (bytesFrom 2 (n % 16) 0 rest).map ((bits * 4 + n / 16) :: ·)
        | 2 => (bytesFrom 3 (n % 4) 0 rest).map ((bits * 16 + n / 4) :: ·)
        | _ => (bytesFrom 0 0 0 rest).map ((bits * 64 + n) :: ·)

/-- The bytes that are written in base 64. -/
def readBinary (text : String) : Except YamlError (List Nat) :=
  let cs := text.toList
  if cs.any fun c => 0x7F < c.toNat then
    .error (.badValue "failed to convert base64 data into ascii")
  else bytesFrom 0 0 0 cs

/-! ## Writing -/

def sixBitsChar (n : Nat) : Char :=
  if n < 26 then Char.ofNat (n + 65)
  else if n < 52 then Char.ofNat (n + 71)
  else if n < 62 then Char.ofNat (n - 4)
  else if n = 62 then '+'
  else '/'

/-- Bytes in base 64; a group that is not full is filled up with equals signs. -/
def base64 : List Nat → List Char
  | a :: b :: c :: rest =>
    sixBitsChar (a / 4) :: sixBitsChar (a % 4 * 16 + b / 16) ::
      sixBitsChar (b % 16 * 4 + c / 64) :: sixBitsChar (c % 64) :: base64 rest
  | [a, b] =>
    [sixBitsChar (a / 4), sixBitsChar (a % 4 * 16 + b / 16), sixBitsChar (b % 16 * 4), '=']
  | [a] => [sixBitsChar (a / 4), sixBitsChar (a % 4 * 16), '=', '=']
  | [] => []

def lineBytes : Nat := 57

/-- Bytes in base 64 in lines, each with a line feed at its end. -/
def base64Lines (bytes : List Nat) : String :=
  let count := (bytes.length + lineBytes - 1) / lineBytes
  let lines := (List.range count).map fun n => base64 ((bytes.drop (n * lineBytes)).take lineBytes)
  String.ofList (lines.flatMap fun line => line ++ ['\n'])

end StyleUsage.Yaml
