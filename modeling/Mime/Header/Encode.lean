import Mime.Header.Fold
import Mime.Header.EncodedWord
import Mime.Base64.Encode
import Mime.Text.Utf8
import Mime.Settings

/-! Writing header values as encoded words. A value of plain printable ASCII is only folded.
Any other is written in UTF-8 and base64, a word to a line, each word holding whole
characters and each line within the width where a character can be. -/

namespace Mime.Header

/-- The length of a word beyond which readers need not accept it. -/
def wordLimit : Int := 75

def wordStart : Text := "=?UTF-8?B?"

def wordEnd : Text := "?="

def isUnsafe (c : CodePoint) : Bool := (c.val < 32 && c != '\t') || 127 ≤ c.val

/-- Text that looks like an encoded word must be encoded too, lest it be decoded. -/
def needsEncoding (t : Text) : Bool := (EncodedWord.split t).1 != [] || t.any isUnsafe

/-- How many octets fit into a word on a line with room for `budget` characters. -/
def wordCapacity (budget : Int) : Nat :=
  (min budget wordLimit - wordStart.length - wordEnd.length).toNat / 4 * 3

def word (o : Octets) : Text := wordStart ++ (Base64.encode o).map CodePoint.ofByte ++ wordEnd

/-- Distributes characters over words. The word at hand holds `current` and may hold up to
`capacity` octets; every further one holds up to `next`. The result is the word at hand with
all that it gets, and the words after it. -/
def distribute (next : Nat) : (capacity : Nat) → (current : Octets) → Text → Octets × List Octets
  | _, current, [] => (current, [])
  | capacity, current, c :: r =>
    if current.length + c.utf8.length > capacity then
      let (word, more) := distribute next next c.utf8 r
      (current, word :: more)
    else distribute next capacity (current ++ c.utf8) r

/-- Every continuation line has room for one character of any length. -/
def continuationCapacity (width : Int) : Nat := max (wordCapacity (width - 1)) 4

/-- The octets of the words of a text, the first of which may be empty. -/
def wordOctets (used width : Int) (t : Text) : Octets × List Octets :=
  distribute (continuationCapacity width) (wordCapacity (width - used)) [] t

/-- A word to a line. The first line is empty if not even one character fits on it. -/
def wordLines (used width : Int) (t : Text) : Text × List Text :=
  let (first, more) := wordOctets used width t
  (if first = [] then [] else word first, more.map fun o => " " ++ word o)

def encodeWords (used width : Int) (t : Text) : Text :=
  if needsEncoding t then joinLines (wordLines used width t).1 (wordLines used width t).2 else t

/-- Encodes a value on lines of their own, as wide as the settings say. -/
def encode (s : Settings) (t : Text) : Text := encodeWords 0 s.headerFoldWidth t

/-- Encodes a value that needs it and folds any other. -/
def foldAndEncode (used width : Int) (t : Text) : Text :=
  if needsEncoding t then encodeWords used width t else fold used width t

end Mime.Header
