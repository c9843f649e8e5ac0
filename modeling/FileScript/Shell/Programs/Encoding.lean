import FileScript.Shell.Digest
import FileScript.Shell.Programs.Size

/-!
# Encoded bytes

Bytes can be written with the characters of an alphabet, each of which stands for a few bits. The
characters stand in groups that hold whole bytes; the last group is filled up.
-/

namespace FileScript.Shell

/-- A way to write bytes. -/
structure Encoding where
  alphabet : List Char
  /-- How many bits a character stands for. -/
  bits : Nat
  /-- How many characters make up a group. -/
  group : Nat

namespace Encoding

/-- The character that fills up a group. -/
def filler : Char := '='

/-- Letters and digits that can be told apart in spite of their case. -/
def base32 : Encoding := { alphabet := "ABCDEFGHIJKLMNOPQRSTUVWXYZ234567".toList, bits := 5, group := 8 }

/-- Letters, digits and two signs. -/
def base64 : Encoding where
  alphabet := "ABCDEFGHIJKLMNOPQRSTUVWXYZabcdefghijklmnopqrstuvwxyz0123456789+/".toList
  bits := 6
  group := 4

/-- How many bytes a group holds. -/
def size (e : Encoding) : Nat := e.group * e.bits / 8

/-- The lowest digits of a number, of which the first one counts most. -/
def digits (base : Nat) : (count n : Nat) → List Nat
  | 0, _ => []
  | count + 1, n => digits base count (n / base) ++ [n % base]

/-- A group of bytes, of which there may be fewer than it holds. -/
def encodeGroup (e : Encoding) (bytes : List UInt8) : List Char :=
  let whole := bytes ++ List.replicate (e.size - bytes.length) 0
  let chars := (digits (Nat.pow 2 e.bits) e.group (Digest.ofBig whole)).map (e.alphabet.getD · filler)
  let used := (bytes.length * 8 + e.bits - 1) / e.bits
  chars.take used ++ List.replicate (e.group - used) filler

/-- Writes bytes. -/
def encode (e : Encoding) (bytes : List UInt8) : List Char :=
  (Digest.cut e.size bytes).flatMap e.encodeGroup

/-- The bytes that characters of the alphabet hold completely. -/
def decodeChars (e : Encoding) (chars : List Char) : List UInt8 :=
  let n := chars.foldl (fun n c => Nat.pow 2 e.bits * n + e.alphabet.idxOf c) 0
  let count := chars.length * e.bits / 8
  let spare := chars.length * e.bits - count * 8
  (digits 256 count (n / Nat.pow 2 spare)).map UInt8.ofNat

/-- Whether so many characters of a group hold no more than they need for their bytes. -/
def isTight (e : Encoding) (count : Nat) : Bool := 2 ≤ count && count * e.bits % 8 < e.bits

/-- The bytes of a group, and whether the group is right. A group with a mistake holds the bytes
before it. -/
def decodeGroup (e : Encoding) (group : List Char) : List UInt8 × Bool :=
  let chars := group.takeWhile (e.alphabet.contains ·)
  let rest := group.drop chars.length
  let isRight := group.length = e.group && e.isTight chars.length && rest.all (· = filler)
  if group.length < e.group ∧ e.bits = 5 then ([], false) else (e.decodeChars chars, isRight)

/-- Reads groups up to a mistake, and tells whether there is none. -/
def decodeGroups (e : Encoding) : List (List Char) → List UInt8 × Bool
  | [] => ([], true)
  | group :: rest =>
    match e.decodeGroup group with
    | (bytes, true) =>
      let (more, isRight) := decodeGroups e rest
      (bytes ++ more, isRight)
    | (bytes, false) => (bytes, false)

/-- Reads bytes up to a mistake, and tells whether there is none. Line ends do not count. -/
def decode (e : Encoding) (text : List Char) : List UInt8 × Bool :=
  e.decodeGroups (Digest.cut e.group (text.filter (· ≠ '\n')))

end Encoding

namespace Programs

open Effect

/-- Writes the bytes of a text with other characters, or reads them from these. -/
def convert (e : Encoding) (words : List String) : Effect Nat :=
  called [flag 'd' "decode", flag 'i' "ignore-garbage", valued 'w' "wrap"] words fun call => do
    let word := (call.value? "wrap").getD "76"
    let width ← match sizeOf "" word with
      | .ok n =>
        if n < 0 then return ← refuse s!"invalid wrap size: {Quoting.value word}"
        pure n.toNat
      | .error .tooLarge => pure 0
      | .error .malformed => return ← refuse s!"invalid wrap size: {Quoting.value word}"
    match call.inputs with
    | _ :: extra :: _ => hasExtra extra
    | inputs =>
      let path := inputs.headD "-"
      match ← readFile path with
      | .error (.opening reason) => refuse s!"{Quoting.ifNeeded path}: {reason}"
      | .error (.reading reason) => refuse s!"read error: {reason}"
      | .ok text =>
        if call.has "decode" then
          let isKnown (c : Char) : Bool := e.alphabet.contains c || c = Encoding.filler
          let chars := text.toList.filter fun c => !call.has "ignore-garbage" || isKnown c
          let (bytes, isRight) := e.decode chars
          print (Octets.ofBytes bytes.toByteArray)
          if isRight then return 0 else refuse "invalid input"
        else
          let chars := e.encode (text.toList.map fun c => UInt8.ofNat c.toNat)
          let lines := if width = 0 then [chars] else Digest.cut width chars
          let ending := if width = 0 then "" else "\n"
          print (String.join (lines.map fun line => String.ofList line ++ ending))
          return 0

end Programs

end FileScript.Shell
