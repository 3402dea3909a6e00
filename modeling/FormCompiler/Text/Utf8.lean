import FormCompiler.Text.Digit

set_option autoImplicit false

namespace FormCompiler.Text

inductive Utf8Cause where
  | startByte
  | continuationByte
  | endOfData
deriving Repr, DecidableEq

structure Utf8Fault where
  cause : Utf8Cause
  byte : UInt8
  start : Nat
  length : Nat
deriving Repr, DecidableEq

def Utf8Cause.text : Utf8Cause → String
  | .startByte => "invalid start byte"
  | .continuationByte => "invalid continuation byte"
  | .endOfData => "unexpected end of data"

def Utf8Fault.placeText (fault : Utf8Fault) : String :=
  if fault.length = 1 then s!"byte 0x{hexText 2 fault.byte.toNat} in position {fault.start}"
  else s!"bytes in position {fault.start}-{fault.start + fault.length - 1}"

def Utf8Fault.message (fault : Utf8Fault) : String :=
  s!"'utf-8' codec can't decode {fault.placeText}: {fault.cause.text}"

def isContinuation (byte : UInt8) : Bool :=
  128 ≤ byte.toNat && byte.toNat < 192

def secondByteFits (first second : UInt8) : Bool :=
  isContinuation second &&
    (if first.toNat = 0xE0 then 0xA0 ≤ second.toNat
     else if first.toNat = 0xED then second.toNat < 0xA0
     else if first.toNat = 0xF0 then 0x90 ≤ second.toNat
     else if first.toNat = 0xF4 then second.toNat < 0x90
     else true)

def sequenceLength? (first : UInt8) : Option Nat :=
  let n := first.toNat
  if n < 0x80 then some 1
  else if n < 0xC2 then none
  else if n < 0xE0 then some 2
  else if n < 0xF0 then some 3
  else if n < 0xF5 then some 4
  else none

def tailBits (byte : UInt8) : Nat := byte.toNat % 64

def decodeChar (start : Nat) : List UInt8 → Except Utf8Fault (Option (Char × Nat × List UInt8))
  | [] => .ok none
  | first :: rest =>
    let fail (cause : Utf8Cause) (length : Nat) :
        Except Utf8Fault (Option (Char × Nat × List UInt8)) :=
      .error ⟨cause, first, start, length⟩
    match sequenceLength? first, rest with
    | none, _ => fail .startByte 1
    | some 1, _ => .ok (some (Char.ofNat first.toNat, 1, rest))
    | some _, [] => fail .endOfData 1
    | some length, second :: rest =>
      if !secondByteFits first second then fail .continuationByte 1
      else if length = 2 then
        .ok (some (Char.ofNat (first.toNat % 32 * 64 + tailBits second), 2, rest))
      else
        match rest with
        | [] => fail .endOfData 2
        | third :: rest =>
          if !isContinuation third then fail .continuationByte 2
          else if length = 3 then
            .ok (some (Char.ofNat
              ((first.toNat % 16 * 64 + tailBits second) * 64 + tailBits third), 3, rest))
          else
            match rest with
            | [] => fail .endOfData 3
            | fourth :: rest =>
              if !isContinuation fourth then fail .continuationByte 3
              else
                .ok (some (Char.ofNat (((first.toNat % 8 * 64 + tailBits second) * 64
                  + tailBits third) * 64 + tailBits fourth), 4, rest))

def decodeFrom : Nat → Nat → List Char → List UInt8 → Except Utf8Fault (List Char)
  | 0, _, decoded, _ => .ok decoded.reverse
  | steps + 1, start, decoded, bytes =>
    match decodeChar start bytes with
    | .error fault => .error fault
    | .ok none => .ok decoded.reverse
    | .ok (some (c, width, rest)) => decodeFrom steps (start + width) (c :: decoded) rest

def decodeUtf8 (bytes : List UInt8) : Except Utf8Fault (List Char) :=
  decodeFrom (bytes.length + 1) 0 [] bytes

def unifyLineEnds : List Char → List Char
  | '\r' :: '\n' :: rest => '\n' :: unifyLineEnds rest
  | '\r' :: rest => '\n' :: unifyLineEnds rest
  | c :: rest => c :: unifyLineEnds rest
  | [] => []

def ofFileBytes (bytes : List UInt8) : Except Utf8Fault String :=
  (decodeUtf8 bytes).map fun chars => String.ofList (unifyLineEnds chars)

end FormCompiler.Text
