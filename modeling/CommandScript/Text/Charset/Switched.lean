import CommandScript.Text.Charset.Gb
import CommandScript.Text.Charset.Jis
import CommandScript.Text.Charset.Ks

/-!
# Switched character sets

Texts in bytes of seven bits in which escape sequences say which character set comes next.

## Main definitions

- `CommandScript.Text.Charset.CodedSet` — a character set that may be switched to
- `CommandScript.Text.Charset.Repertoire` — which character sets may be switched to, and how
- `CommandScript.Text.Charset.Repertoire.step` — a step through such a text
- `CommandScript.Text.Charset.tildeStep` — a step where tildes switch to GB 2312 and back
-/

namespace CommandScript.Text.Charset

/-- A character set that may be switched to. -/
inductive CodedSet where
  | ascii
  | roman
  | katakana
  | jisx0208
  | jisx0212
  | firstPlane (early : Bool)
  | secondPlane
  | gb2312
  | ksx1001
  | latin
  | greek
  deriving DecidableEq, Repr

namespace CodedSet

/-- Whether two bytes make up a character. -/
def isWide : CodedSet → Bool
  | .ascii => false
  | .roman => false
  | .katakana => false
  | .latin => false
  | .greek => false
  | _ => true

/-- What two bytes stand for. -/
def pair? (s : CodedSet) (a b : Nat) : Option (List Char) :=
  match s with
  | .jisx0208 => (Jis.cell? a b).map fun c => [c]
  | .jisx0212 => (Jis.supplementCell? a b).map fun c => [c]
  | .firstPlane early => Jis.narrowCell? early a b
  | .secondPlane => (Jis.secondCell? false a b).map fun c => [c]
  | .gb2312 => (Gb.cell? a b).map fun c => [c]
  | .ksx1001 => (Ks.cell? a b).map fun c => [c]
  | _ => none

/-- What a byte stands for. The sets of the upper half stand for nothing here. -/
def single? (s : CodedSet) (b : Nat) : Option (List Char) :=
  match s with
  | .ascii => (Reading.ascii? b).map fun c => [c]
  | .roman => (Jis.roman? b).map fun c => [c]
  | .katakana => (Jis.katakana? (b + 0x80)).map fun c => [c]
  | _ => none

end CodedSet

/-- What the final byte of an escape sequence switches to, for character sets of one byte and of two
bytes. -/
structure Mark where
  final : Char
  wide : Bool
  deriving DecidableEq, Repr

/-- Which character sets may be switched to, and how. -/
structure Repertoire where
  sets : List (Mark × CodedSet)
  /-- Whether two control characters shift to the second set and back. -/
  shifts : Bool
  /-- Whether a third set is there for single characters. -/
  third : Bool
  /-- Whether an escape sequence may announce the revision of a set. -/
  revisions : Bool
  deriving Repr

/-- Where a switched text stands: its three sets, whether it is shifted to the second, and whether
it is in an escape sequence that does not switch. -/
structure Switches where
  first : CodedSet
  second : CodedSet
  third : CodedSet
  shifted : Bool
  escaping : Bool

/-- A text begins in ASCII. -/
def Switches.start : Switches := ⟨.ascii, .ascii, .ascii, false, false⟩

/-- Whether a byte ends an escape sequence. -/
def endsEscape (b : UInt8) : Bool := 0x40 ≤ b && b ≤ 0x5a

/-- Where an escape sequence ends. -/
inductive EscapeEnd where
  | after (length : Nat)
  | never
  | cut

/-- Where an escape sequence ends of which so many bytes have been passed. -/
def escapeEnd (revisions : Bool) (passed : Nat) : List UInt8 → EscapeEnd
  | [] => if 16 ≤ passed then .never else .cut
  | b :: rest =>
    if 16 ≤ passed then .never
    else if endsEscape b then .after (passed + 1)
    else if revisions && b == 0x26 && rest.head? == some 0x40 then
      escapeEnd revisions (passed + 3) (rest.drop 2)
    else escapeEnd revisions (passed + 1) rest
termination_by bytes => bytes.length
decreasing_by all_goals simp only [List.length_drop, List.length_cons]; omega

/-- Which of the three sets an escape sequence switches, and to what. -/
def target? (r : Repertoire) (sequence : List Char) : Option (Nat × Mark) :=
  match sequence with
  | ['$', c] => some (0, ⟨c, true⟩)
  | ['(', c] => some (0, ⟨c, false⟩)
  | [')', c] => some (1, ⟨c, false⟩)
  | ['.', c] => if r.third then some (2, ⟨c, false⟩) else none
  | ['$', '(', c] => some (0, ⟨c, true⟩)
  | ['$', ')', c] => some (1, ⟨c, true⟩)
  | [_, _, '\x1b', '$', 'B'] => if r.revisions then some (0, ⟨'B', true⟩) else none
  | _ => none

/-- The character set of a mark. -/
def Repertoire.set? (r : Repertoire) (m : Mark) : Option CodedSet :=
  if m = ⟨'B', false⟩ then some .ascii else r.sets.lookup m

/-- Switches one of the three sets. -/
def Switches.set (s : Switches) (which : Nat) (set : CodedSet) : Switches :=
  match which with
  | 0 => { s with first := set }
  | 1 => { s with second := set }
  | _ => { s with third := set }

/-- The bytes of the character set for Greek from 0xa0 on that stand for what they stand for in the
one for Western languages. -/
def commonBytes : List Nat :=
  [0xa0, 0xa3, 0xa6, 0xa7, 0xa8, 0xa9, 0xab, 0xac, 0xad, 0xb0, 0xb1, 0xb2, 0xb3, 0xb7, 0xbb, 0xbd]

/-- A character of the character set for Greek, whose letters are as far apart as in Unicode. -/
def greek? (b : Nat) : Option Char :=
  if b < 0xa0 ∨ commonBytes.contains b then some (Char.ofNat b)
  else if b = 0xa1 then some '\u2018'
  else if b = 0xa2 then some '\u2019'
  else if b = 0xaf then some '\u2015'
  else if 0xb4 ≤ b ∧ b ≤ 0xfe ∧ b ≠ 0xd2 then some (Char.ofNat (0x2d0 + b))
  else none

/-- A character of the third set. -/
def thirdChar? (s : Switches) (b : Nat) : Option Char :=
  match s.third with
  | .latin => if b < 0x80 then some (Char.ofNat (b + 0x80)) else none
  | .greek => greek? (if b < 0x80 then b + 0x80 else b - 0x80)
  | _ => Reading.ascii? b

/-- The bytes that may stand second in an escape sequence that switches. -/
def switchHeads : List Char := ['(', ')', '$', '.', '&']

/-- A step at an escape character. -/
def escapeStep (r : Repertoire) (s : Switches) (rest : List UInt8) : Switches × Reading :=
  match rest with
  | [] => (s, .cut)
  | b :: more =>
    let c := Char.ofNat b.toNat
    if switchHeads.contains c then
      match escapeEnd r.revisions 1 rest with
      | .cut => (s, .cut)
      | .never => (s, .refused 0)
      | .after n =>
        let sequence := (rest.take (n - 1)).map fun b => Char.ofNat b.toNat
        match (target? r sequence).bind fun t => (r.set? t.2).map fun set => (t.1, set) with
        | some (which, set) => (s.set which set, .taken [] (n - 1))
        | none => (s, .refused (n - 1))
    else if r.third ∧ c = 'N' then
      match more with
      | [] => (s, .cut)
      | x :: _ =>
        match thirdChar? s x.toNat with
        | some c => (s, .taken [c] 2)
        | none => (s, .refused 2)
    else ({ s with escaping := true }, .taken ['\x1b'] 0)

/-- A step through the characters of the set that is switched to. -/
def setStep (s : Switches) (b : UInt8) (rest : List UInt8) : Reading :=
  let set := if s.shifted then s.second else s.first
  if set.isWide then
    match rest with
    | [] => .cut
    | b' :: _ =>
      match set.pair? b.toNat b'.toNat with
      | some cs => .taken cs 1
      | none => .refused 1
  else .ofChars? 0 (set.single? b.toNat)

/-- A step through a switched text. -/
def Repertoire.step (r : Repertoire) (s : Switches) (b : UInt8) (rest : List UInt8) :
    Switches × Reading :=
  let plain := Reading.taken [Char.ofNat b.toNat] 0
  if s.escaping then ({ s with escaping := !endsEscape b }, plain)
  else if b = 0x1b then escapeStep r s rest
  else if r.shifts ∧ b = 0x0f then ({ s with shifted := false }, .taken [] 0)
  else if r.shifts ∧ b = 0x0e then ({ s with shifted := true }, .taken [] 0)
  else if b = 0x0a then ({ s with shifted := false }, plain)
  else if b < 0x20 then (s, plain)
  else if 0x80 ≤ b then (s, .refused 0)
  else (s, setStep s b rest)

/-- A step where tildes switch to GB 2312 and back. -/
def tildeStep (national : Bool) (b : UInt8) (rest : List UInt8) : Bool × Reading :=
  if b = 0x7e then
    match rest with
    | [] => (national, .cut)
    | x :: _ =>
      match national, Char.ofNat x.toNat with
      | false, '~' => (false, .taken ['~'] 1)
      | false, '\x7b' => (true, .taken [] 1)
      | false, '\n' => (false, .taken [] 1)
      | true, '\x7d' => (false, .taken [] 1)
      | _, _ => (national, .refused 0)
  else if 0x80 ≤ b then (national, .refused 0)
  else if national then
    match rest with
    | [] => (national, .cut)
    | x :: _ => (national, .ofChars? 1 ((Gb.cell? b.toNat x.toNat).map fun c => [c]))
  else (national, .taken [Char.ofNat b.toNat] 0)

/-- The sets of JIS X 0208 and its old form. -/
def japanese : List (Mark × CodedSet) :=
  [(⟨'B', true⟩, .jisx0208), (⟨'@', true⟩, .jisx0208), (⟨'J', false⟩, .roman)]

/-- The usual repertoire for Japanese. -/
def japaneseRepertoire : Repertoire := ⟨japanese, false, false, true⟩

/-- The repertoire with the supplement of JIS X 0208. -/
def supplementRepertoire : Repertoire := ⟨(⟨'D', true⟩, .jisx0212) :: japanese, false, false, true⟩

/-- The repertoire with katakana of half width. -/
def katakanaRepertoire : Repertoire :=
  ⟨(⟨'D', true⟩, .jisx0212) :: (⟨'I', false⟩, .katakana) :: japanese, false, false, true⟩

/-- The repertoire for several languages. -/
def multilingualRepertoire : Repertoire :=
  ⟨[(⟨'D', true⟩, .jisx0212), (⟨'C', true⟩, .ksx1001), (⟨'A', true⟩, .gb2312),
    (⟨'A', false⟩, .latin), (⟨'F', false⟩, .greek)] ++ japanese, false, true, true⟩

/-- The repertoire with the planes of JIS X 0213, the first of them in its first edition if `early`
asks for that. -/
def planesRepertoire (early : Bool) : Repertoire :=
  ⟨[(⟨'B', true⟩, .jisx0208), (⟨if early then 'O' else 'Q', true⟩, .firstPlane early),
    (⟨'P', true⟩, .secondPlane)], false, false, true⟩

/-- The repertoire for Korean. -/
def koreanRepertoire : Repertoire := ⟨[(⟨'C', true⟩, .ksx1001)], true, false, false⟩

end CommandScript.Text.Charset
