import CommandScript.Text.Quoted

/-!
# UTF-8

Reading bytes as UTF-8. What stands at the front of a byte text is either a character or a
malformed sequence: a byte that starts nothing, or the longest part of a character that its
continuation breaks off. A lenient reader puts one replacement character for each malformed
sequence, a strict one reports the first.

## Main definitions

- `CommandScript.Text.Utf8.front` — the character or malformed sequence at the front
- `CommandScript.Text.Utf8.decodeLossy` — reading with replacement characters
- `CommandScript.Text.Utf8.decode` — reading that reports the first malformed sequence
- `CommandScript.Text.Utf8.encode` — the bytes of a text

## Main results

- `CommandScript.Text.Utf8.decode_encode` — ASCII text is read as it is written
-/

namespace CommandScript.Text.Utf8

/-- Why a byte sequence is no character. -/
inductive Malformation where
  | start
  | continuation
  | ending
  deriving DecidableEq, Repr

/-- The wording of a malformation. -/
def Malformation.message : Malformation → String
  | .start => "invalid start byte"
  | .continuation => "invalid continuation byte"
  | .ending => "unexpected end of data"

/-- A byte sequence that is no character: the bytes themselves, the position of the first and what
is wrong with them. -/
structure DecodeError where
  bytes : List UInt8
  position : Nat
  malformation : Malformation
  deriving DecidableEq, Repr

/-- The wording of a decoding error; a single byte is shown, a longer sequence is given by its
place. -/
def DecodeError.message (e : DecodeError) : String :=
  let start := toString e.position
  let place :=
    match e.bytes with
    | [b] => "byte 0x" ++ String.ofList (hexDigits 2 b.toNat) ++ " in position " ++ start
    | bs => "bytes in position " ++ start ++ "-" ++ toString (e.position + bs.length - 1)
  "'utf-8' codec can't decode " ++ place ++ ": " ++ e.malformation.message

/-- Whether a byte may follow the first byte of a character. -/
def isContinuation (b : UInt8) : Bool := 0x80 ≤ b && b < 0xc0

/-- Whether a byte may come second after the given first byte: overlong forms, surrogates and
numbers past the last code point are cut off here. -/
def isSecond (first b : UInt8) : Bool :=
  isContinuation b &&
    (if first = 0xe0 then 0xa0 ≤ b
     else if first = 0xed then b < 0xa0
     else if first = 0xf0 then 0x90 ≤ b
     else if first = 0xf4 then b < 0x90
     else true)

/-- The number of continuation bytes that a first byte calls for. -/
def continuationCount? (b : UInt8) : Option Nat :=
  if b < 0x80 then some 0
  else if b < 0xc2 then none
  else if b < 0xe0 then some 1
  else if b < 0xf0 then some 2
  else if b < 0xf5 then some 3
  else none

/-- The bits of a first byte that belong to the code point. -/
def firstBits (b : UInt8) : Nat :=
  if b < 0x80 then b.toNat
  else if b < 0xe0 then b.toNat - 0xc0
  else if b < 0xf0 then b.toNat - 0xe0
  else b.toNat - 0xf0

/-- A character or a malformed sequence at the front of a byte text, with the number of bytes that
it takes after the first. -/
inductive Front where
  | char (c : Char) (more : Nat)
  | malformed (m : Malformation) (more : Nat)
  deriving DecidableEq, Repr

/-- The number of bytes taken after the first. -/
def Front.more : Front → Nat
  | .char _ n => n
  | .malformed _ n => n

/-- Reads up to `wanted` further continuation bytes after `taken` have been read. -/
def continued (acc : Nat) : (wanted taken : Nat) → List UInt8 → Front
  | 0, taken, _ => .char (Char.ofNat acc) taken
  | _ + 1, taken, [] => .malformed .ending taken
  | w + 1, taken, b :: bs =>
    if isContinuation b then continued (acc * 0x40 + (b.toNat - 0x80)) w (taken + 1) bs
    else .malformed .continuation taken

/-- The character or malformed sequence that starts with byte `b`. -/
def front (b : UInt8) (bs : List UInt8) : Front :=
  match continuationCount? b with
  | none => .malformed .start 0
  | some 0 => .char (Char.ofNat b.toNat) 0
  | some (n + 1) =>
    match bs with
    | [] => .malformed .ending 0
    | c :: cs =>
      if isSecond b c then continued (firstBits b * 0x40 + (c.toNat - 0x80)) n 1 cs
      else .malformed .continuation 0

/-- The character put in place of a malformed sequence. -/
def replacement : Char := '\uFFFD'

/-- The text of bytes read as UTF-8, each malformed sequence replaced. -/
def decodeLossy : List UInt8 → List Char
  | [] => []
  | b :: bs =>
    match front b bs with
    | .char c n => c :: decodeLossy (bs.drop n)
    | .malformed _ n => replacement :: decodeLossy (bs.drop n)
termination_by bs => bs.length
decreasing_by all_goals simp only [List.length_drop, List.length_cons]; omega

/-- The text of bytes read as UTF-8 from a position on, or the first malformed sequence. -/
def decodeFrom (position : Nat) : List UInt8 → Except DecodeError (List Char)
  | [] => .ok []
  | b :: bs =>
    match front b bs with
    | .char c n => (decodeFrom (position + n + 1) (bs.drop n)).map (c :: ·)
    | .malformed m n => .error ⟨b :: bs.take n, position, m⟩
termination_by bs => bs.length
decreasing_by simp only [List.length_drop, List.length_cons]; omega

/-- The text of bytes read as UTF-8, or the first malformed sequence. -/
def decode (bs : List UInt8) : Except DecodeError (List Char) := decodeFrom 0 bs

/-- The bytes of a text. -/
def encode (cs : List Char) : List UInt8 := cs.flatMap String.utf8EncodeChar

theorem encode_cons_of_ascii {c : Char} (ascii : c.toNat < 0x80) (cs : List Char) :
    encode (c :: cs) = UInt8.ofNat c.toNat :: encode cs := by
  have low : c.val.toNat ≤ 0x7f := Nat.le_of_lt_succ ascii
  rw [encode, List.flatMap_cons, String.utf8EncodeChar, if_pos low]
  rfl

theorem front_of_ascii {c : Char} (ascii : c.toNat < 0x80) (bs : List UInt8) :
    front (UInt8.ofNat c.toNat) bs = .char c 0 := by
  have same : (UInt8.ofNat c.toNat).toNat = c.toNat :=
    UInt8.toNat_ofNat_of_lt (Nat.lt_trans ascii (by decide))
  have low : UInt8.ofNat c.toNat < 0x80 := by
    rw [UInt8.lt_iff_toNat_lt, same]
    exact ascii
  rw [front, continuationCount?, if_pos low]
  dsimp only
  rw [same, Char.ofNat_toNat]

theorem decodeFrom_encode (position : Nat) {cs : List Char}
    (ascii : cs.all (·.toNat < 0x80) = true) : decodeFrom position (encode cs) = .ok cs := by
  induction cs generalizing position with
  | nil => rw [encode, List.flatMap_nil, decodeFrom]
  | cons c cs ih =>
    rw [List.all_cons, Bool.and_eq_true, decide_eq_true_eq] at ascii
    rw [encode_cons_of_ascii ascii.1, decodeFrom, front_of_ascii ascii.1]
    dsimp only
    rw [List.drop_zero, ih _ ascii.2]
    rfl

/-- ASCII text is read as it is written. -/
theorem decode_encode {cs : List Char} (ascii : cs.all (·.toNat < 0x80) = true) :
    decode (encode cs) = .ok cs := decodeFrom_encode 0 ascii

end CommandScript.Text.Utf8
