import NetQuery.Character.Set

namespace NetQuery.Utf8

abbrev ByteRange := Nat × Nat

/-- Code points whose encodings have the same number of bytes. -/
structure Form where
  first : Nat
  last : Nat
  /-- How many bytes follow the first one. -/
  more : Nat
  /-- What the first byte has besides its digit. -/
  lead : Nat

/-- All forms in order; surrogates have none. -/
def forms : List Form :=
  [⟨0, 0x7f, 0, 0⟩, ⟨0x80, 0x7ff, 1, 0xc0⟩, ⟨0x800, CharSet.firstSurrogate - 1, 2, 0xe0⟩,
   ⟨CharSet.lastSurrogate + 1, 0xffff, 2, 0xe0⟩, ⟨0x10000, CharSet.maxCode, 3, 0xf0⟩]

/-- The numbers from `lo` to `hi`, with a first digit and some more, as sequences of ranges of
digits. Where the first digits differ, those in between take all that follows. -/
def digitRanges : Nat → Nat → Nat → List (List ByteRange)
  | 0, lo, hi => [[(lo, hi)]]
  | more + 1, lo, hi =>
    let block := 64 ^ (more + 1)
    let a := lo / block
    let b := hi / block
    let starting (digit : Nat) (rest : List (List ByteRange)) : List (List ByteRange) :=
      rest.map ((digit, digit) :: ·)
    if a = b then starting a (digitRanges more (lo % block) (hi % block))
    else
      let cutBelow := lo % block != 0
      let cutAbove := hi % block != block - 1
      let below := if cutBelow then starting a (digitRanges more (lo % block) (block - 1)) else []
      let above := if cutAbove then starting b (digitRanges more 0 (hi % block)) else []
      let first := if cutBelow then a + 1 else a
      let past := if cutAbove then b else b + 1
      let whole := if first < past then
          [(first, past - 1) :: List.replicate (more + 1) (0, 63)]
        else []
      below ++ whole ++ above

/-- What a byte after the first has besides its digit. -/
def followingLead : Nat := 0x80

def bytesOf (lead : Nat) : List ByteRange → List ByteRange
  | [] => []
  | (lo, hi) :: rest => (lo + lead, hi + lead) :: bytesOf followingLead rest

def sequencesBetween (lo hi : Nat) : List (List ByteRange) :=
  forms.flatMap fun f =>
    let lo := max lo f.first
    let hi := min hi f.last
    if lo ≤ hi then (digitRanges f.more lo hi).map (bytesOf f.lead) else []

def sequences (s : CharSet) : List (List ByteRange) :=
  s.ranges.flatMap fun r => sequencesBetween r.1 r.2

def encode (text : List Char) : List UInt8 :=
  text.flatMap String.utf8EncodeChar

example : sequences (.ofText "61-7a 3b1-3c9") =
    [[(0x61, 0x7a)], [(0xce, 0xce), (0xb1, 0xbf)], [(0xcf, 0xcf), (0x80, 0x89)]] := by
  decide

end NetQuery.Utf8
