import Reindex.Text.Basic
import Reindex.Text.Utf8

/-!
# Text with a byte order mark

Bytes of unknown origin as text: UTF-16 if they start with one of its two byte order marks, UTF-8
otherwise.  The mark is not part of the text, and what is malformed becomes U+FFFD.
-/

namespace Reindex.Text

/-- The 16-bit units that the bytes hold, `unit` joining two bytes; a byte left over is a malformed
unit. -/
def units16 (unit : Nat → Nat → Nat) : Bytes → List (Option Nat)
  | [] => []
  | [_] => [none]
  | a :: b :: rest => some (unit a.toNat b.toNat) :: units16 unit rest

/-- The characters of a sequence of units; a half without its other half is malformed. -/
def ofUnits16 : List (Option Nat) → List Char
  | [] => []
  | none :: rest => '\uFFFD' :: ofUnits16 rest
  | [some n] => [if isHighSurrogate n || isLowSurrogate n then '\uFFFD' else Char.ofNat n]
  | [some n, none] =>
    if isHighSurrogate n then ['\uFFFD']
    else [if isLowSurrogate n then '\uFFFD' else Char.ofNat n, '\uFFFD']
  | some n :: m :: rest =>
    if isHighSurrogate n then
      match m with
      | some low =>
        if isLowSurrogate low then
          Char.ofNat (pairCode n low) :: ofUnits16 rest
        else '\uFFFD' :: ofUnits16 (m :: rest)
      | none => '\uFFFD' :: ofUnits16 (m :: rest)
    else (if isLowSurrogate n then '\uFFFD' else Char.ofNat n) :: ofUnits16 (m :: rest)

/-- The text of some bytes. -/
def ofMarkedBytes : Bytes → String
  | 0xEF :: 0xBB :: 0xBF :: rest => Utf8.decodeLossy rest
  | 0xFF :: 0xFE :: rest => String.ofList (ofUnits16 (units16 (fun a b => b * 256 + a) rest))
  | 0xFE :: 0xFF :: rest => String.ofList (ofUnits16 (units16 (fun a b => a * 256 + b) rest))
  | bs => Utf8.decodeLossy bs

end Reindex.Text
