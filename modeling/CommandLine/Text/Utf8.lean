import CommandLine.Text.Quote

/-!
# Strict UTF-8 decoding

Bytes are decoded as UTF-8 (RFC 3629): one to four bytes per character, no overlong forms,
no surrogates, nothing above U+10FFFF. The first malformed sequence stops decoding, and
the failure says where it starts, where it ends and why:

* an *invalid start byte* (a continuation byte, `C0`, `C1`, or `F5` to `FF`) is the one
  byte;
* an *invalid continuation byte* covers the bytes of the sequence before the bad one: the
  lead byte alone when the second byte is wrong (a second byte outside the range its lead
  allows counts as wrong: `E0` needs `A0`-`BF`, `ED` needs `80`-`9F`, `F0` needs `90`-`BF`,
  `F4` needs `80`-`8F`), the first two when the third is wrong, the first three when the
  fourth is;
* *unexpected end of data* covers everything from the lead byte to the end, when the data
  ends inside a sequence whose bytes so far are all right.
-/

namespace CommandLine.Text

/-- Why bytes are not UTF-8. -/
inductive Utf8Fault where
  | invalidStart
  | invalidContinuation
  | truncated
  deriving DecidableEq, Repr, Inhabited

/-- A malformed sequence: its byte range `[start, stop)`, its first byte, and why. -/
structure DecodeFailure where
  start : Nat
  stop : Nat
  byte : UInt8
  fault : Utf8Fault
  deriving Repr, Inhabited

namespace DecodeFailure

/-- The reason as error messages word it. -/
def reason : Utf8Fault → String
  | .invalidStart => "invalid start byte"
  | .invalidContinuation => "invalid continuation byte"
  | .truncated => "unexpected end of data"

/-- The error message: the byte (when the range is one byte) or the range of positions,
then the reason. -/
def message (f : DecodeFailure) : String :=
  "'utf-8' codec can't decode " ++
    (if f.stop = f.start + 1 then
      "byte 0x" ++ hexPadded f.byte.toNat 2 ++ " in position " ++ toString f.start
    else "bytes in position " ++ toString f.start ++ "-" ++ toString (f.stop - 1)) ++
    ": " ++ reason f.fault

end DecodeFailure

def isContinuation (b : UInt8) : Bool := 0x80 ≤ b.toNat && b.toNat < 0xC0

/-- Whether the second byte of a sequence is allowed after its lead byte. -/
def secondAllowed (lead second : UInt8) : Bool :=
  isContinuation second &&
    (match lead.toNat with
     | 0xE0 => 0xA0 ≤ second.toNat
     | 0xED => second.toNat < 0xA0
     | 0xF0 => 0x90 ≤ second.toNat
     | 0xF4 => second.toNat < 0x90
     | _ => true)

def payload (b : UInt8) : Nat := b.toNat % 64

/-- Decodes bytes starting at position `pos`, after the characters `acc` (reversed). -/
def decodeFrom (pos : Nat) (acc : List Char) : List UInt8 → Except DecodeFailure (List Char)
  | [] => .ok acc.reverse
  | b :: rest =>
    let n := b.toNat
    let fail (stop : Nat) (fault : Utf8Fault) : Except DecodeFailure (List Char) :=
      .error ⟨pos, stop, b, fault⟩
    let finish := pos + 1 + rest.length
    if n < 0x80 then decodeFrom (pos + 1) (Char.ofNat n :: acc) rest
    else if n < 0xC2 || n ≥ 0xF5 then fail (pos + 1) .invalidStart
    else if n < 0xE0 then
      match rest with
      | [] => fail finish .truncated
      | c :: more =>
        if !isContinuation c then fail (pos + 1) .invalidContinuation
        else decodeFrom (pos + 2) (Char.ofNat ((n % 32) * 64 + payload c) :: acc) more
    else if n < 0xF0 then
      match rest with
      | [] => fail finish .truncated
      | [c] => if secondAllowed b c then fail finish .truncated else fail (pos + 1) .invalidContinuation
      | c1 :: c2 :: more =>
        if !secondAllowed b c1 then fail (pos + 1) .invalidContinuation
        else if !isContinuation c2 then fail (pos + 2) .invalidContinuation
        else decodeFrom (pos + 3)
          (Char.ofNat ((n % 16) * 4096 + payload c1 * 64 + payload c2) :: acc) more
    else
      match rest with
      | [] => fail finish .truncated
      | [c] => if secondAllowed b c then fail finish .truncated else fail (pos + 1) .invalidContinuation
      | [c1, c2] =>
        if !secondAllowed b c1 then fail (pos + 1) .invalidContinuation
        else if !isContinuation c2 then fail (pos + 2) .invalidContinuation
        else fail finish .truncated
      | c1 :: c2 :: c3 :: more =>
        if !secondAllowed b c1 then fail (pos + 1) .invalidContinuation
        else if !isContinuation c2 then fail (pos + 2) .invalidContinuation
        else if !isContinuation c3 then fail (pos + 3) .invalidContinuation
        else decodeFrom (pos + 4)
          (Char.ofNat ((n % 8) * 262144 + payload c1 * 4096 + payload c2 * 64 + payload c3) :: acc) more

def decodeUtf8 (bytes : List UInt8) : Except DecodeFailure String :=
  String.ofList <$> decodeFrom 0 [] bytes

end CommandLine.Text
