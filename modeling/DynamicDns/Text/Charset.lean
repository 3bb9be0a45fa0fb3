import DynamicDns.Text.ContentType
import DynamicDns.Text.SingleByte
import DynamicDns.Text.Utf16
import DynamicDns.Text.Utf8

/-! # The text of a body

Which encoding the bytes of a body are in: a byte order mark decides, else the `charset` parameter
of the content type, else UTF-8. Labels are those of the WHATWG Encoding Standard; a label that
nobody knows is read as UTF-8. The encodings of East Asia with several bytes to a character need large
tables, which are not part of this library: the text by these tables is given with the body.
-/

namespace DynamicDns.Text.Charset

inductive Encoding where
  | utf8
  | utf16 (bigEndian : Bool)
  | singleByte (table : SingleByte.Encoding)
  /-- Bytes 0x80 and above are the private characters from U+F780 on. -/
  | userDefined
  /-- Encodings that are never decoded: any content is one U+FFFD. -/
  | replacement
  /-- Encodings by tables that are given from outside. -/
  | tabled

/-- The characters of bytes in an encoding, given what the tables from outside make of them. -/
def decodeAs (tabled : String) : Encoding → List UInt8 → List Char
  | .utf8, bytes => Utf8.decode bytes
  | .utf16 bigEndian, bytes => Utf16.decode bigEndian bytes
  | .singleByte table, bytes => SingleByte.decode table bytes
  | .userDefined, bytes =>
    bytes.map fun b => if b < 0x80 then Char.ofNat b.toNat else Char.ofNat (0xF700 + b.toNat)
  | .replacement, bytes => if bytes.isEmpty then [] else [Utf8.replacement]
  | .tabled, _ => tabled.toList

def utf16BigLabels : List String := ["unicodefffe", "utf-16be"]

def utf16LittleLabels : List String :=
  ["csunicode", "iso-10646-ucs-2", "ucs-2", "unicode", "unicodefeff", "utf-16", "utf-16le"]

def replacementLabels : List String :=
  ["csiso2022kr", "hz-gb-2312", "iso-2022-cn", "iso-2022-cn-ext", "iso-2022-kr", "replacement"]

def tabledLabels : List String :=
  ["chinese", "csgb2312", "csiso58gb231280", "gb2312", "gb_2312", "gb_2312-80", "gbk", "iso-ir-58",
    "x-gbk", "gb18030",
    "big5", "big5-hkscs", "cn-big5", "csbig5", "x-x-big5",
    "cseucpkdfmtjapanese", "euc-jp", "x-euc-jp", "csiso2022jp", "iso-2022-jp",
    "csshiftjis", "ms932", "ms_kanji", "shift-jis", "shift_jis", "sjis", "windows-31j", "x-sjis",
    "cseuckr", "csksc56011987", "euc-kr", "iso-ir-149", "korean", "ks_c_5601-1987",
    "ks_c_5601-1989", "ksc5601", "ksc_5601", "windows-949"]

/-- The white space that may stand around a label. -/
def isLabelSpace (c : Char) : Bool :=
  c == ' ' || c == '\t' || c == '\n' || c == '\r' || c.toNat == 0x0C

def normalLabel (label : String) : String :=
  let s := label.toList.dropWhile isLabelSpace
  String.ofList (((s.reverse.dropWhile isLabelSpace).reverse).map Char.toLower)

/-- The encoding that a label asks for, UTF-8 if it asks for none that is known. -/
def ofLabel (label : String) : Encoding :=
  let l := normalLabel label
  if utf16BigLabels.contains l then .utf16 true
  else if utf16LittleLabels.contains l then .utf16 false
  else if l == "x-user-defined" then .userDefined
  else if replacementLabels.contains l then .replacement
  else if tabledLabels.contains l then .tabled
  else
    match SingleByte.all.find? (·.labels.contains l) with
    | some table => .singleByte table
    | none => .utf8

/-- The text of a body sent with a content type, given what the tables from outside make of it. -/
def decodeBody (contentType : Option String) (tabled : String) (bytes : List UInt8) : String :=
  String.ofList <|
    match bytes with
    | 0xEF :: 0xBB :: 0xBF :: rest => Utf8.decode rest
    | 0xFE :: 0xFF :: rest => Utf16.decode true rest
    | 0xFF :: 0xFE :: rest => Utf16.decode false rest
    | _ =>
      let label := (contentType.bind ContentType.charset?).getD "utf-8"
      decodeAs tabled (ofLabel label) bytes

end DynamicDns.Text.Charset
