/-!
# UTF-8

Strict decoding.  A text is refused at its first bad sequence, and the refusal tells which
octets that sequence has: those that could still have become a character.
-/

namespace BilingualScript.Text.Utf8

inductive Cause where
  | invalidStart
  | invalidContinuation
  | unexpectedEnd
  deriving DecidableEq, Repr, Inhabited

def Cause.message : Cause → String
  | .invalidStart => "invalid start byte"
  | .invalidContinuation => "invalid continuation byte"
  | .unexpectedEnd => "unexpected end of data"

/-- A bad sequence: its cause, its first octet, that octet's place and the number of octets. -/
structure Fault where
  cause : Cause
  octet : UInt8
  place : Nat
  length : Nat
  deriving DecidableEq, Repr, Inhabited

def hex (octet : UInt8) : String :=
  .ofList [Nat.digitChar (octet.toNat / 16), Nat.digitChar (octet.toNat % 16)]

def Fault.message (fault : Fault) : String :=
  let subject :=
    if fault.length = 1 then
      "byte 0x" ++ hex fault.octet ++ " in position " ++ toString fault.place
    else
      "bytes in position " ++ toString fault.place ++ "-" ++
        toString (fault.place + fault.length - 1)
  "'utf-8' codec can't decode " ++ subject ++ ": " ++ fault.cause.message

/-- A character of which some octets are known.  The next octet has to lie between two
bounds. -/
structure Partial where
  first : UInt8
  known : Nat
  owed : Nat
  low : Nat
  high : Nat
  code : Nat
  deriving DecidableEq, Repr, Inhabited

/-- The start of a character of several octets.  The bounds of the second octet exclude what
a shorter form could express, surrogates, and what lies past the last character. -/
def start? (octet : UInt8) : Option Partial :=
  let value := octet.toNat
  if value < 0xC2 then none
  else if value < 0xE0 then some ⟨octet, 1, 1, 0x80, 0xBF, value - 0xC0⟩
  else if value < 0xF0 then
    let low := if value = 0xE0 then 0xA0 else 0x80
    let high := if value = 0xED then 0x9F else 0xBF
    some ⟨octet, 1, 2, low, high, value - 0xE0⟩
  else if value < 0xF5 then
    let low := if value = 0xF0 then 0x90 else 0x80
    let high := if value = 0xF4 then 0x8F else 0xBF
    some ⟨octet, 1, 3, low, high, value - 0xF0⟩
  else none

/-- Decodes octets from a place on.  The characters so far are given in reverse. -/
def decodeFrom (place : Nat) (pending : Option Partial) (chars : List Char) :
    List UInt8 → Except Fault (List Char)
  | [] =>
    match pending with
    | none => .ok chars.reverse
    | some partly => .error ⟨.unexpectedEnd, partly.first, place - partly.known, partly.known⟩
  | octet :: rest =>
    match pending with
    | none =>
      if octet.toNat < 0x80 then
        decodeFrom (place + 1) none (Char.ofNat octet.toNat :: chars) rest
      else
        match start? octet with
        | none => .error ⟨.invalidStart, octet, place, 1⟩
        | some partly => decodeFrom (place + 1) (some partly) chars rest
    | some partly =>
      if partly.low ≤ octet.toNat ∧ octet.toNat ≤ partly.high then
        let code := partly.code * 64 + octet.toNat % 64
        if partly.owed = 1 then decodeFrom (place + 1) none (Char.ofNat code :: chars) rest
        else
          let further := ⟨partly.first, partly.known + 1, partly.owed - 1, 0x80, 0xBF, code⟩
          decodeFrom (place + 1) (some further) chars rest
      else .error ⟨.invalidContinuation, partly.first, place - partly.known, partly.known⟩

def decode (octets : List UInt8) : Except Fault (List Char) := decodeFrom 0 none [] octets

end BilingualScript.Text.Utf8
