import GameArchive.Text.Basic

/-!
# UTF-8

Texts as bytes. A text with a surrogate has no encoding; bytes that are no encoding are refused at
the first byte sequence at fault, with the sequence and the reason, or read with a replacement
character for each such sequence.
-/

namespace GameArchive

abbrev Bytes := List UInt8

namespace Utf8

/-- A run of surrogates that keeps a text from being encoded. -/
structure EncodeFault where
  start : Nat
  stop : Nat
  first : CodePoint
deriving DecidableEq

inductive Reason where
  | invalidStart
  | invalidContinuation
  | unexpectedEnd
deriving DecidableEq

/-- Bytes from `start` up to `stop` that are no character; `first` is the byte at `start`. -/
structure DecodeFault where
  start : Nat
  stop : Nat
  first : UInt8
  reason : Reason
deriving DecidableEq

/-- The bytes of one code point. -/
def encodeChar (c : CodePoint) : Bytes :=
  let n := c.val
  if n < 0x80 then [UInt8.ofNat n]
  else if n < 0x800 then [UInt8.ofNat (0xc0 + n / 0x40), UInt8.ofNat (0x80 + n % 0x40)]
  else if n < 0x10000 then
    [UInt8.ofNat (0xe0 + n / 0x1000), UInt8.ofNat (0x80 + n / 0x40 % 0x40),
      UInt8.ofNat (0x80 + n % 0x40)]
  else
    [UInt8.ofNat (0xf0 + n / 0x40000), UInt8.ofNat (0x80 + n / 0x1000 % 0x40),
      UInt8.ofNat (0x80 + n / 0x40 % 0x40), UInt8.ofNat (0x80 + n % 0x40)]

def encodeFrom : Nat → Text → Except EncodeFault Bytes
  | _, [] => .ok []
  | position, c :: rest =>
    if c.isSurrogate then
      .error ⟨position, position + 1 + (rest.takeWhile (·.isSurrogate)).length, c⟩
    else (encodeFrom (position + 1) rest).map (encodeChar c ++ ·)

/-- The bytes of a text. -/
def encode (t : Text) : Except EncodeFault Bytes := encodeFrom 0 t

/-- The bytes of a text in which each surrogate is written as if it were a character. -/
def encodeAny (t : Text) : Bytes := t.flatMap encodeChar

/-! ## Names that are bytes

The names of files are bytes. A surrogate in the last two blocks of the low ones stands for the byte
that it ends with, so names that are no UTF-8 can be written too. -/

def standsForByte (c : CodePoint) : Bool := 0xdc80 ≤ c.val && c.val ≤ 0xdcff

/-- The bytes of a code point in a name. -/
def encodeNameChar (c : CodePoint) : Bytes :=
  if standsForByte c then [UInt8.ofNat (c.val - 0xdc00)] else encodeChar c

/-- The bytes of a name, other surrogates written as if they were characters. -/
def encodeName (t : Text) : Bytes := t.flatMap encodeNameChar

def nameFaultFrom : Nat → Text → Option EncodeFault
  | _, [] => none
  | position, c :: rest =>
    if c.isSurrogate && !standsForByte c then
      some ⟨position, position + 1 + (rest.takeWhile (·.isSurrogate)).length, c⟩
    else nameFaultFrom (position + 1) rest

/-- The first run of surrogates that keeps a text from being a name. -/
def nameFault? (t : Text) : Option EncodeFault := nameFaultFrom 0 t

/-! ## Decoding -/

def isContinuation (b : UInt8) : Bool := 0x80 ≤ b.toNat && b.toNat < 0xc0

/-- The low six bits of a continuation byte. -/
def payload (b : UInt8) : Nat := b.toNat - 0x80

/-- The second bytes that may follow a first byte of a sequence of three or four: the ones that
would write a shorter sequence, a surrogate or a number out of range are excluded. -/
def allowsSecond (lead second : UInt8) : Bool :=
  isContinuation second &&
    match lead.toNat with
    | 0xe0 => 0xa0 ≤ second.toNat
    | 0xed => second.toNat < 0xa0
    | 0xf0 => 0x90 ≤ second.toNat
    | 0xf4 => second.toNat < 0x90
    | _ => true

/-- The character that starts with byte `b`, with the number of further bytes it takes from `rest`;
or why there is none, with the number of bytes at fault. -/
def next (b : UInt8) (rest : Bytes) : Except (Reason × Nat) (CodePoint × Nat) :=
  let lead := b.toNat
  if lead < 0x80 then .ok (CodePoint.ofNat lead, 0)
  else if lead < 0xc2 then .error (.invalidStart, 1)
  else if lead < 0xe0 then
    match rest with
    | [] => .error (.unexpectedEnd, 1)
    | b1 :: _ =>
      if isContinuation b1 then .ok (CodePoint.ofNat ((lead - 0xc0) * 0x40 + payload b1), 1)
      else .error (.invalidContinuation, 1)
  else if lead < 0xf0 then
    match rest with
    | [] => .error (.unexpectedEnd, 1)
    | b1 :: rest1 =>
      if !allowsSecond b b1 then .error (.invalidContinuation, 1)
      else match rest1 with
        | [] => .error (.unexpectedEnd, 2)
        | b2 :: _ =>
          if isContinuation b2 then
            .ok (CodePoint.ofNat ((lead - 0xe0) * 0x1000 + payload b1 * 0x40 + payload b2), 2)
          else .error (.invalidContinuation, 2)
  else if lead < 0xf5 then
    match rest with
    | [] => .error (.unexpectedEnd, 1)
    | b1 :: rest1 =>
      if !allowsSecond b b1 then .error (.invalidContinuation, 1)
      else match rest1 with
        | [] => .error (.unexpectedEnd, 2)
        | b2 :: rest2 =>
          if !isContinuation b2 then .error (.invalidContinuation, 2)
          else match rest2 with
            | [] => .error (.unexpectedEnd, 3)
            | b3 :: _ =>
              if isContinuation b3 then
                .ok (CodePoint.ofNat ((lead - 0xf0) * 0x40000 + payload b1 * 0x1000
                  + payload b2 * 0x40 + payload b3), 3)
              else .error (.invalidContinuation, 3)
  else .error (.invalidStart, 1)

/-- Decodes from a position on; the first `skip` bytes belong to what was read before. -/
def decodeFrom : (skip position : Nat) → Bytes → Except DecodeFault Text
  | _, _, [] => .ok []
  | skip + 1, position, _ :: rest => decodeFrom skip (position + 1) rest
  | 0, position, b :: rest =>
    match next b rest with
    | .ok (c, more) => (decodeFrom more (position + 1) rest).map (c :: ·)
    | .error (reason, width) => .error ⟨position, position + width, b, reason⟩

/-- The text that the bytes encode. -/
def decode (bytes : Bytes) : Except DecodeFault Text := decodeFrom 0 0 bytes

def decodeLossyFrom : (skip : Nat) → Bytes → Text
  | _, [] => []
  | skip + 1, _ :: rest => decodeLossyFrom skip rest
  | 0, b :: rest =>
    match next b rest with
    | .ok (c, more) => c :: decodeLossyFrom more rest
    | .error (_, width) => CodePoint.ofNat 0xfffd :: decodeLossyFrom (width - 1) rest

/-- The text of the bytes, each sequence at fault read as one replacement character. -/
def decodeLossy (bytes : Bytes) : Text := decodeLossyFrom 0 bytes

def decodeNameFrom : (skip : Nat) → Bytes → Text
  | _, [] => []
  | skip + 1, _ :: rest => decodeNameFrom skip rest
  | 0, b :: rest =>
    match next b rest with
    | .ok (c, more) => c :: decodeNameFrom more rest
    | .error _ => CodePoint.ofNat (0xdc00 + b.toNat) :: decodeNameFrom 0 rest

/-- The name of the bytes. Each byte that is part of no character is the surrogate that stands for
it. -/
def decodeName (bytes : Bytes) : Text := decodeNameFrom 0 bytes

/-- The name as the system gives it back. Texts with the same bytes are one name, and this is how it
is spelled in a directory. -/
def entryName (t : Text) : Text := decodeName (encodeName t)

/-- A single place by its position, several by the first and the last. -/
def placeText (one many : String) (start stop : Nat) (shown : Text) : Text :=
  if stop = start + 1 then
    Text.ofString one ++ shown ++ Text.ofString " in position " ++ Text.ofNat start
  else Text.ofString many ++ Text.ofString " in position " ++ Text.ofNat start ++
    Text.ofString "-" ++ Text.ofNat (stop - 1)

def EncodeFault.message (fault : EncodeFault) : Text :=
  Text.ofString "'utf-8' codec can't encode " ++
    placeText "character '\\u" "characters" fault.start fault.stop
      (Text.ofHex 4 fault.first.val ++ Text.ofString "'") ++
    Text.ofString ": surrogates not allowed"

def Reason.message : Reason → Text
  | .invalidStart => "invalid start byte"
  | .invalidContinuation => "invalid continuation byte"
  | .unexpectedEnd => "unexpected end of data"

def DecodeFault.message (fault : DecodeFault) : Text :=
  Text.ofString "'utf-8' codec can't decode " ++
    placeText "byte 0x" "bytes" fault.start fault.stop (Text.ofHex 2 fault.first.toNat) ++
    Text.ofString ": " ++ fault.reason.message

end Utf8
end GameArchive
