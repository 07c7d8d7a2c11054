import Diagnosis.Encoding.Chinese
import Diagnosis.Encoding.Domain
import Diagnosis.Encoding.Escape
import Diagnosis.Encoding.Iso2022
import Diagnosis.Encoding.Japanese
import Diagnosis.Encoding.Korean
import Diagnosis.Encoding.Name
import Diagnosis.Encoding.SingleByte
import Diagnosis.Encoding.Utf7
import Diagnosis.Encoding.Utf8
import Diagnosis.Encoding.Wide
import Diagnosis.Failure

/-!
# Decoding by the name of an encoding

Every name either means an encoding or is unknown. Encodings of bytes as bytes
are known, too, but give no text; only of no bytes at all any known encoding
makes the empty text.
-/

namespace Diagnosis.Encoding

/-- What an encoding does with bytes. -/
inductive Codec where
  /-- Makes text of them. -/
  | decoder (decode : List Nat → Except DecodeError (List Char))
  /-- Makes text of them or refuses them as a whole. -/
  | whole (decode : List Nat → Except Refusal (List Char))
  /-- Makes other bytes of them. -/
  | binary

/-- The encodings that make no text. -/
def binaryNames : List String :=
  ["base64_codec", "bz2_codec", "hex_codec", "quopri_codec", "rot_13", "uu_codec", "zlib_codec"]

/-- The encodings of more than one byte a character, or of no table. -/
def manyBytes : List (String × (List Nat → Except DecodeError (List Char))) := [
  ("ascii", decodeAll "ascii" asciiStep 0),
  ("latin_1", decodeAll "latin-1" latinStep 0),
  ("charmap", decodeAll "charmap" latinStep 0),
  ("unicode_escape", decodeAll "unicodeescape" Escape.step 0),
  ("raw_unicode_escape", decodeAll "rawunicodeescape" Escape.rawStep 0),
  ("utf_7", Utf7.decode),
  ("utf_8", Utf8.decode),
  ("utf_8_sig", Utf8.decodeSigned),
  ("utf_16", Utf16.decode),
  ("utf_16_le", Utf16.decodeIn .little 0),
  ("utf_16_be", Utf16.decodeIn .big 0),
  ("utf_32", Utf32.decode),
  ("utf_32_le", Utf32.decodeIn .little 0),
  ("utf_32_be", Utf32.decodeIn .big 0),
  ("shift_jis", decodeAll "shift_jis" Japanese.shiftJisStep 0),
  ("cp932", decodeAll "cp932" Japanese.cp932Step 0),
  ("euc_jp", decodeAll "euc_jp" Japanese.eucStep 0),
  ("shift_jisx0213", decodeAll "shift_jisx0213" (Japanese.laterShiftJisStep .first) 0),
  ("shift_jis_2004", decodeAll "shift_jis_2004" (Japanese.laterShiftJisStep .second) 0),
  ("euc_jisx0213", decodeAll "euc_jisx0213" (Japanese.laterEucStep .first) 0),
  ("euc_jis_2004", decodeAll "euc_jis_2004" (Japanese.laterEucStep .second) 0),
  ("gb2312", decodeAll "gb2312" Chinese.gb2312Step 0),
  ("gbk", decodeAll "gbk" Chinese.gbkStep 0),
  ("gb18030", decodeAll "gb18030" Chinese.gb18030Step 0),
  ("big5", decodeAll "big5" Chinese.big5Step 0),
  ("big5hkscs", decodeAll "big5hkscs" Chinese.hkscsStep 0),
  ("hz", decodeShifting "hz" Chinese.hzStep false),
  ("cp950", decodeAll "cp950" Chinese.cp950Step 0),
  ("euc_kr", decodeAll "euc_kr" Korean.eucStep 0),
  ("cp949", decodeAll "cp949" Korean.cp949Step 0),
  ("johab", decodeAll "johab" Korean.johabStep 0)]

/-- The encodings that read bytes as a whole. -/
def wholes : List (String × (List Nat → Except Refusal (List Char))) := [
  ("punycode", Punycode.decode),
  ("idna", Domain.decode),
  ("undefined", fun _ => .error (.reason "undefined encoding"))]

/-- The encoding of a name as it is listed. -/
def listed? (name : String) : Option Codec :=
  if binaryNames.contains name then some .binary
  else
    let steps := (manyBytes.lookup name).map Codec.decoder
    let shifts := (Iso2022.variants.lookup name).map fun variant => Codec.decoder (Iso2022.decode name variant)
    let tables := (singleBytes.find? fun t => t.name == name).map fun t =>
      Codec.decoder (decodeAll "charmap" (tableStep t.first t.characters.toList.toArray) 0)
    ((steps.or shifts).or tables).or ((wholes.lookup name).map Codec.whole)

/-- The encoding that a name means. -/
def find? (name : String) : Option Codec := (candidates name).findSome? listed?

end Diagnosis.Encoding

namespace Diagnosis

open Encoding (DecodeError Refusal)

/-- The failure for bytes that mean nothing in an encoding. -/
def invalidBytes (encoding what : String) (e : DecodeError) : Failure :=
  .engine (.decoding (.invalid what encoding e.message))

/-- The failure for bytes that an encoding refuses as a whole. -/
def refusedBytes (encoding what : String) : Refusal → Failure
  | .fault e => invalidBytes encoding what e
  | .reason text => .encoding ("decoding with '" ++ encoding ++ "' codec failed (UnicodeError: " ++ text ++ ")")
  | .mismatch text => .encoding text

/-- The text of some bytes in an encoding. `what` names the bytes in messages. -/
def decodeText (bytes : List Nat) (encoding what : String) : Except Failure String :=
  if encoding.toList.contains '\x00' then .error (.value "embedded null character") else
  match Encoding.find? encoding with
  | none => .error (.engine (.decoding (.unknown encoding)))
  | some codec =>
    if bytes.isEmpty then .ok "" else
    match codec with
    | .binary => .error (.engine (.decoding (.notText encoding)))
    | .whole decode => ((decode bytes).map String.ofList).mapError (refusedBytes encoding what)
    | .decoder decode => ((decode bytes).map String.ofList).mapError (invalidBytes encoding what)

end Diagnosis
