/-!
Text as UTF-8 bytes. Writing is exact; reading never fails, and shows each maximal part of a sequence that
cannot be completed as one replacement character.
-/

namespace RailLayout
namespace Utf8

def encode (text : String) : List UInt8 :=
  text.toList.flatMap String.utf8EncodeChar

def replacement : Char := Char.ofNat 0xFFFD

/--
A sequence being read: the bits gathered so far, and the bounds that each byte still to come must keep.
With no byte to come, the reader stands between two characters.
-/
structure Pending where
  bits : Nat
  bounds : List (UInt8 × UInt8)
  deriving DecidableEq

def Pending.none : Pending := ⟨0, []⟩

/-- The bounds of a continuation byte that the lead byte does not narrow. -/
def continuation : UInt8 × UInt8 := (0x80, 0xBF)

/--
What a lead byte promises. The first bound after `E0`, `ED`, `F0` and `F4` is narrower, which excludes
overlong forms, surrogates and values past the last code point.
-/
def lead? (b : UInt8) : Option Pending :=
  if b < 0x80 then some ⟨b.toNat, []⟩
  else if b < 0xC2 then Option.none
  else if b < 0xE0 then some ⟨b.toNat % 32, [continuation]⟩
  else if b < 0xF0 then
    let second := if b = 0xE0 then (0xA0, 0xBF) else if b = 0xED then (0x80, 0x9F) else continuation
    some ⟨b.toNat % 16, [second, continuation]⟩
  else if b < 0xF5 then
    let second := if b = 0xF0 then (0x90, 0xBF) else if b = 0xF4 then (0x80, 0x8F) else continuation
    some ⟨b.toNat % 8, [second, continuation, continuation]⟩
  else Option.none

/-- A sequence that has all its bytes is a character; any other stays pending. -/
def settle (p : Pending) : List Char × Pending :=
  match p.bounds with
  | [] => ([Char.ofNat p.bits], Pending.none)
  | _ => ([], p)

def start (b : UInt8) : List Char × Pending :=
  match lead? b with
  | some p => settle p
  | Option.none => ([replacement], Pending.none)

/-- Read one byte: the characters it completes, and the sequence it leaves pending. -/
def step (p : Pending) (b : UInt8) : List Char × Pending :=
  match p.bounds with
  | [] => start b
  | (low, high) :: rest =>
    if low ≤ b ∧ b ≤ high then
      settle ⟨p.bits * 64 + b.toNat % 64, rest⟩
    else
      let (chars, next) := start b
      (replacement :: chars, next)

/-- Read bytes after a pending sequence; one that the end cuts off is a replacement character. -/
def decodeFrom (p : Pending) : List UInt8 → List Char
  | [] => match p.bounds with
    | [] => []
    | _ => [replacement]
  | b :: rest => (step p b).1 ++ decodeFrom (step p b).2 rest

def decode (bytes : List UInt8) : List Char :=
  decodeFrom Pending.none bytes

end Utf8
end RailLayout
