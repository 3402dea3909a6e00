set_option autoImplicit false

namespace FormCompiler.Text

inductive Base64Fault where
  | leftOver (count : Nat)
  | padding
deriving Repr, DecidableEq

def Base64Fault.message : Base64Fault → String
  | .leftOver count =>
    s!"Invalid base64-encoded string: number of data characters ({count}) cannot be 1 more "
      ++ "than a multiple of 4"
  | .padding => "Incorrect padding"

def sextet? (c : Char) : Option Nat :=
  if 'A' ≤ c ∧ c ≤ 'Z' then some (c.toNat - 'A'.toNat)
  else if 'a' ≤ c ∧ c ≤ 'z' then some (c.toNat - 'a'.toNat + 26)
  else if '0' ≤ c ∧ c ≤ '9' then some (c.toNat - '0'.toNat + 52)
  else if c = '+' then some 62
  else if c = '/' then some 63
  else none

structure Base64Group where
  place : Nat := 0
  bits : Nat := 0
  pads : Nat := 0

def Base64Group.finish (group : Base64Group) (bytes : Array UInt8) :
    Except Base64Fault (List UInt8) :=
  if group.place = 0 then .ok bytes.toList
  else if group.place = 1 then .error (.leftOver (bytes.size / 3 * 4 + 1))
  else .error .padding

def base64From : Base64Group → Array UInt8 → List Char → Except Base64Fault (List UInt8)
  | group, bytes, [] => group.finish bytes
  | group, bytes, c :: rest =>
    if c = '=' then
      if 2 ≤ group.place then
        let pads := group.pads + 1
        if 4 ≤ group.place + pads then .ok bytes.toList
        else base64From { group with pads } bytes rest
      else base64From group bytes rest
    else
      match sextet? c with
      | none => base64From group bytes rest
      | some n =>
        match group.place with
        | 0 => base64From { place := 1, bits := n } bytes rest
        | 1 =>
          base64From { place := 2, bits := n % 16 } (bytes.push (.ofNat (group.bits * 4 + n / 16)))
            rest
        | 2 =>
          base64From { place := 3, bits := n % 4 } (bytes.push (.ofNat (group.bits * 16 + n / 4)))
            rest
        | _ => base64From {} (bytes.push (.ofNat (group.bits * 64 + n))) rest

def decodeBase64 (chars : List Char) : Except Base64Fault (List UInt8) :=
  base64From {} #[] chars

end FormCompiler.Text
