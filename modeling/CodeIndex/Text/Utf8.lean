/-!
# Text from bytes

Bytes are read as UTF-8. What is no UTF-8 is replaced: each longest piece that could have begun a
character, or else a single byte, becomes one replacement character.
-/

namespace CodeIndex.Utf8

/-- What stands for bytes that are no character. -/
def replacement : Char := '\ufffd'

/-- The byte may continue a character. -/
def continues (b : UInt8) : Bool := 0x80 ≤ b && b ≤ 0xbf

/-- The six bits that a continuing byte carries. -/
def payload (b : UInt8) : Nat := b.toNat % 64

/-- The range that the second byte of a character must lie in, given the first, and how many bytes
follow the first. No other first byte begins a character of several bytes. -/
def lead? (b : UInt8) : Option (UInt8 × UInt8 × Nat) :=
  if 0xc2 ≤ b && b ≤ 0xdf then some (0x80, 0xbf, 1)
  else if b = 0xe0 then some (0xa0, 0xbf, 2)
  else if b = 0xed then some (0x80, 0x9f, 2)
  else if 0xe1 ≤ b && b ≤ 0xef then some (0x80, 0xbf, 2)
  else if b = 0xf0 then some (0x90, 0xbf, 3)
  else if b = 0xf4 then some (0x80, 0x8f, 3)
  else if 0xf1 ≤ b && b ≤ 0xf3 then some (0x80, 0xbf, 3)
  else none

/-- The character that begins with the byte `b`, and how many of the following bytes belong to
it. -/
def first (b : UInt8) (rest : List UInt8) : Char × Nat :=
  if b < 0x80 then (Char.ofNat b.toNat, 0)
  else match lead? b, rest with
    | some (low, high, more), c :: rest =>
      if low ≤ c && c ≤ high then
        let tail := (rest.take (more - 1)).takeWhile continues
        if tail.length = more - 1 then
          let bits := b.toNat % Nat.pow 2 (6 - more)
          (Char.ofNat ((c :: tail).foldl (fun n c => n * 64 + payload c) bits), more)
        else (replacement, tail.length + 1)
      else (replacement, 0)
    | _, _ => (replacement, 0)

/-- The characters of a sequence of bytes. -/
def chars : List UInt8 → List Char
  | [] => []
  | b :: rest => (first b rest).1 :: chars (rest.drop (first b rest).2)
termination_by bytes => bytes.length
decreasing_by simp only [List.length_drop, List.length_cons]; omega

/-- The text of some bytes, whatever they are. -/
def decode (bytes : ByteArray) : String :=
  match String.fromUTF8? bytes with
  | some text => text
  | none => String.ofList (chars bytes.toList)

/-- Cut bytes into lines: each ends with a line feed, and a carriage return before it is dropped. -/
def lines (bytes : List UInt8) : List (List UInt8) :=
  let close (line : List UInt8) : List UInt8 :=
    (match line with
      | 13 :: rest => rest
      | _ => line).reverse
  let (done, open_) := bytes.foldl (fun (done, line) b =>
    if b = 10 then (close line :: done, []) else (done, b :: line)) ([], [])
  (if open_.isEmpty then done else open_.reverse :: done).reverse

end CodeIndex.Utf8
