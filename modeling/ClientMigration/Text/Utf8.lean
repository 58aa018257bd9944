import ClientMigration.Text.Quoted

/-! # Text as bytes

Encoding to UTF-8 and strict decoding, which names the first bytes that are no character and why. -/

namespace ClientMigration.Text

/-- A file's content. -/
abbrev Bytes := List UInt8

/-- The bytes of a text. -/
def encode (s : String) : Bytes := s.toList.flatMap String.utf8EncodeChar

/-- Why bytes are no character. -/
inductive DecodeReason where
  | badStart
  | badContinuation
  | cutOff
deriving DecidableEq, Repr

/-- The first `length` bytes from `position` on, the first of them `byte`, are no character. -/
structure DecodeError where
  position : Nat
  length : Nat
  byte : UInt8
  reason : DecodeReason
deriving DecidableEq, Repr

def DecodeReason.text : DecodeReason → String
  | .badStart => "invalid start byte"
  | .badContinuation => "invalid continuation byte"
  | .cutOff => "unexpected end of data"

/-- The message of a decoding failure. -/
def DecodeError.message (e : DecodeError) : String :=
  "'utf-8' codec can't decode " ++
    (if e.length = 1 then "byte 0x" ++ hex 2 e.byte.toNat ++ s!" in position {e.position}"
     else s!"bytes in position {e.position}-{e.position + e.length - 1}") ++
    ": " ++ e.reason.text

/-- A byte that continues a character. -/
def isContinuation (b : UInt8) : Bool := 0x80 ≤ b && b < 0xC0

/-- The second byte of a character must stay in the range that its first byte leaves open: no overlong
    forms, no surrogates, nothing beyond the last code point. -/
def mayFollow (first second : UInt8) : Bool :=
  isContinuation second &&
    (first != 0xE0 || 0xA0 ≤ second) && (first != 0xED || second < 0xA0) &&
    (first != 0xF0 || 0x90 ≤ second) && (first != 0xF4 || second < 0x90)

/-- The payload of a continuation byte. -/
def low6 (b : UInt8) : Nat := b.toNat % 64

/-- The characters of bytes that start at a position. -/
def decodeFrom (position : Nat) : Bytes → Except DecodeError (List Char)
  | [] => .ok []
  | b :: rest =>
    let fail (length : Nat) (reason : DecodeReason) : Except DecodeError (List Char) :=
      .error ⟨position, length, b, reason⟩
    if b < 0x80 then do
      return Char.ofNat b.toNat :: (← decodeFrom (position + 1) rest)
    else if b < 0xC2 then fail 1 .badStart
    else if b < 0xE0 then
      match rest with
      | [] => fail 1 .cutOff
      | b₁ :: rest₁ =>
        if !isContinuation b₁ then fail 1 .badContinuation
        else do
          return Char.ofNat (b.toNat % 32 * 64 + low6 b₁) :: (← decodeFrom (position + 2) rest₁)
    else if b < 0xF0 then
      match rest with
      | [] => fail 1 .cutOff
      | [b₁] => if mayFollow b b₁ then fail 2 .cutOff else fail 1 .badContinuation
      | b₁ :: b₂ :: rest₂ =>
        if !mayFollow b b₁ then fail 1 .badContinuation
        else if !isContinuation b₂ then fail 2 .badContinuation
        else do
          return Char.ofNat (b.toNat % 16 * 4096 + low6 b₁ * 64 + low6 b₂) ::
            (← decodeFrom (position + 3) rest₂)
    else if b < 0xF5 then
      match rest with
      | [] => fail 1 .cutOff
      | [b₁] => if mayFollow b b₁ then fail 2 .cutOff else fail 1 .badContinuation
      | [b₁, b₂] =>
        if !mayFollow b b₁ then fail 1 .badContinuation
        else if isContinuation b₂ then fail 3 .cutOff
        else fail 2 .badContinuation
      | b₁ :: b₂ :: b₃ :: rest₃ =>
        if !mayFollow b b₁ then fail 1 .badContinuation
        else if !isContinuation b₂ then fail 2 .badContinuation
        else if !isContinuation b₃ then fail 3 .badContinuation
        else do
          return Char.ofNat (b.toNat % 8 * 262144 + low6 b₁ * 4096 + low6 b₂ * 64 + low6 b₃) ::
            (← decodeFrom (position + 4) rest₃)
    else fail 1 .badStart

/-- The text of the bytes. -/
def decode (bytes : Bytes) : Except DecodeError String := (decodeFrom 0 bytes).map String.ofList

end ClientMigration.Text
