import UriTemplate.Text.Numeral

/-
This file lays code points out as UTF-8 octets and reads octets back.
Surrogates have a three-octet form when written, and are refused when read.
-/

namespace UriTemplate

abbrev Octet := Fin 256

namespace Utf8

/-- The largest code point needs four octets; a surrogate gets its plain three. -/
def octets (codePoint : CodePoint) : List Octet :=
  let value := codePoint.value
  have inRange : value < 0x110000 := codePoint.inRange
  if oneOctet : value < 0x80 then [⟨value, by omega⟩]
  else if twoOctets : value < 0x800 then
    [⟨0xC0 + value / 64, by omega⟩, ⟨0x80 + value % 64, by omega⟩]
  else if threeOctets : value < 0x10000 then
    [⟨0xE0 + value / 4096, by omega⟩, ⟨0x80 + value / 64 % 64, by omega⟩,
      ⟨0x80 + value % 64, by omega⟩]
  else
    [⟨0xF0 + value / 262144, by omega⟩, ⟨0x80 + value / 4096 % 64, by omega⟩,
      ⟨0x80 + value / 64 % 64, by omega⟩, ⟨0x80 + value % 64, by omega⟩]

def encode (text : Text) : List Octet :=
  text.flatMap octets

/-- The number that was asked for is no code point. -/
structure OutOfRange where
  number : Int
  deriving DecidableEq

def OutOfRange.message (fault : OutOfRange) : Text :=
  "Code point out of range: " ++ Numeral.hexadecimal fault.number

def octetsOfInt (number : Int) : Except OutOfRange (List Octet) :=
  match CodePoint.ofInt? number with
  | some codePoint => .ok (octets codePoint)
  | none => .error ⟨number⟩

/-- What a first octet promises: the number of octets that must follow, its own share of the
value, and the range of the second octet, which excludes long forms, surrogates and values
that are too large. -/
structure Lead where
  following : Nat
  share : Nat
  lowest : Nat
  highest : Nat

def lead? (octet : Octet) : Option Lead :=
  if octet.val < 0x80 then some ⟨0, octet.val, 0x80, 0xBF⟩
  else if octet.val < 0xC2 then none
  else if octet.val < 0xE0 then some ⟨1, octet.val - 0xC0, 0x80, 0xBF⟩
  else if octet.val = 0xE0 then some ⟨2, 0, 0xA0, 0xBF⟩
  else if octet.val = 0xED then some ⟨2, 0xD, 0x80, 0x9F⟩
  else if octet.val < 0xF0 then some ⟨2, octet.val - 0xE0, 0x80, 0xBF⟩
  else if octet.val = 0xF0 then some ⟨3, 0, 0x90, 0xBF⟩
  else if octet.val < 0xF4 then some ⟨3, octet.val - 0xF0, 0x80, 0xBF⟩
  else if octet.val = 0xF4 then some ⟨3, 4, 0x80, 0x8F⟩
  else none

def replacement : CodePoint :=
  CodePoint.ofChar '\uFFFD'

/-- The reader stands between characters, or inside one whose next octet has a range. -/
inductive Progress
  | between
  | inside (following share lowest highest : Nat)
  deriving DecidableEq

/-- A first octet is read. -/
def start (octet : Octet) : Text × Progress :=
  match lead? octet with
  | none => ([replacement], .between)
  | some lead =>
      if lead.following = 0 then ([(CodePoint.ofNat? lead.share).getD replacement], .between)
      else ([], .inside lead.following lead.share lead.lowest lead.highest)

/-- One octet is read. An octet that cannot continue a character ends it with a replacement
and is read again as a first octet. -/
def step (progress : Progress) (octet : Octet) : Text × Progress :=
  match progress with
  | .between => start octet
  | .inside following share lowest highest =>
      if lowest ≤ octet.val ∧ octet.val ≤ highest then
        let value := share * 64 + octet.val % 64
        if following ≤ 1 then ([(CodePoint.ofNat? value).getD replacement], .between)
        else ([], .inside (following - 1) value 0x80 0xBF)
      else
        let (text, next) := start octet
        (replacement :: text, next)

/-- A character that is cut off at the end leaves one replacement. -/
def finish : Progress → Text
  | .between => []
  | .inside .. => [replacement]

def decodeFrom (progress : Progress) : List Octet → Text
  | [] => finish progress
  | octet :: rest => (step progress octet).1 ++ decodeFrom (step progress octet).2 rest

/-- Each longest beginning of a character that is not completed becomes one replacement. -/
def decode (octets : List Octet) : Text :=
  decodeFrom .between octets

end Utf8

end UriTemplate
