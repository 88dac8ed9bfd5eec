/-
Reading the body of a response as text.

The content type may name a character set.  The sets below are known by their usual names; a
name that is not among them is taken for none, and then the body is read as UTF-8.  What
cannot be read becomes the replacement character, but a set may also refuse to read bytes at
all.
-/
import VacancyLedger.Text.Blank
import VacancyLedger.Text.Scan
import VacancyLedger.Text.Utf8

namespace VacancyLedger.Text

/-- Why bytes cannot be read as text: the name of the complaint, and the complaint in words. -/
structure Illegible where
  name : String
  message : String
  deriving DecidableEq

/-- The character sets that are known.  One of single bytes is ASCII in its lower half. -/
inductive Charset where
  | utf8
  | utf8Marked
  | utf16
  | utf16Little
  | utf16Big
  | single (upperHalf : List Nat)
  | undefined

namespace Charset

/-! ### Sets of single bytes -/

/-- The number of the replacement character. -/
def replaced : Nat := 0xFFFD

/-- A set without an upper half. -/
def ascii : Charset := .single (List.replicate 128 replaced)

/-- The characters with the numbers of the bytes. -/
def latin1Upper : List Nat := List.range' 128 128

def latin1 : Charset := .single latin1Upper

/-- The first set with the euro sign and seven letters in place of signs. -/
def latin9 : Charset :=
  .single (latin1Upper.map fun n =>
    ([(0xA4, 0x20AC), (0xA6, 0x160), (0xA8, 0x161), (0xB4, 0x17D), (0xB8, 0x17E), (0xBC, 0x152),
      (0xBD, 0x153), (0xBE, 0x178)].lookup n).getD n)

def windows1252 : Charset :=
  .single ([0x20AC, replaced, 0x201A, 0x192, 0x201E, 0x2026, 0x2020, 0x2021, 0x2C6, 0x2030, 0x160,
    0x2039, 0x152, replaced, 0x17D, replaced, replaced, 0x2018, 0x2019, 0x201C, 0x201D, 0x2022,
    0x2013, 0x2014, 0x2DC, 0x2122, 0x161, 0x203A, 0x153, replaced, 0x17E, 0x178] ++
    latin1Upper.drop 32)

def windows1251 : Charset :=
  .single ([0x402, 0x403, 0x201A, 0x453, 0x201E, 0x2026, 0x2020, 0x2021, 0x20AC, 0x2030, 0x409,
    0x2039, 0x40A, 0x40C, 0x40B, 0x40F, 0x452, 0x2018, 0x2019, 0x201C, 0x201D, 0x2022, 0x2013,
    0x2014, replaced, 0x2122, 0x459, 0x203A, 0x45A, 0x45C, 0x45B, 0x45F, 0xA0, 0x40E, 0x45E, 0x408,
    0xA4, 0x490, 0xA6, 0xA7, 0x401, 0xA9, 0x404, 0xAB, 0xAC, 0xAD, 0xAE, 0x407, 0xB0, 0xB1, 0x406,
    0x456, 0x491, 0xB5, 0xB6, 0xB7, 0x451, 0x2116, 0x454, 0xBB, 0x458, 0x405, 0x455, 0x457] ++
    List.range' 0x410 64)

/-! ### Names -/

/-- The names of each set that is known. -/
def names : List (List String × Charset) :=
  [(["utf_8", "utf8", "u8", "utf", "cp65001", "utf8_ucs2", "utf8_ucs4"], .utf8),
   (["utf_8_sig"], .utf8Marked),
   (["utf_16", "utf16", "u16"], .utf16),
   (["utf_16_le", "utf_16le", "unicodelittleunmarked"], .utf16Little),
   (["utf_16_be", "utf_16be", "unicodebigunmarked"], .utf16Big),
   (["ascii", "us_ascii", "us", "646", "iso646_us", "iso_ir_6", "cp367", "ibm367", "csascii",
     "ansi_x3_4_1968", "ansi_x3_4_1986", "iso_646_irv_1991"], ascii),
   (["latin_1", "latin1", "latin", "l1", "iso_8859_1", "iso8859_1", "iso_8859_1_1987", "8859",
     "iso8859", "cp819", "ibm819", "iso_ir_100", "csisolatin1"], latin1),
   (["iso8859_15", "iso_8859_15", "latin9", "l9"], latin9),
   (["cp1252", "windows_1252", "1252"], windows1252),
   (["cp1251", "windows_1251", "1251"], windows1251),
   (["undefined"], .undefined)]

/-- A name as names are compared: in lower case, with one stroke in place of each run of marks. -/
def plainNameChars : List Char → List Char
  | [] => []
  | c :: cs =>
    if c.isAlphanum then c.toLower :: plainNameChars cs
    else
      match plainNameChars cs with
      | '_' :: rest => '_' :: rest
      | rest => '_' :: rest

/-- The character set of a name. -/
def ofName? (name : List Char) : Option Charset :=
  (names.find? fun (known, _) => known.contains (String.ofList (plainNameChars name))).map (·.2)

/-! ### Reading -/

def replacement : Char := Char.ofNat replaced

/-- Reads units of two bytes; the half of a pair that stands alone, and a single byte at the end,
become the replacement character. -/
def readUnits (unit : UInt8 → UInt8 → Nat) : List UInt8 → List Char
  | [] => []
  | [_] => [replacement]
  | a :: b :: rest =>
    if unit a b < 0xD800 ∨ 0xE000 ≤ unit a b then Char.ofNat (unit a b) :: readUnits unit rest
    else if 0xDC00 ≤ unit a b then replacement :: readUnits unit rest
    else
      match rest with
      | c :: d :: after =>
        if 0xDC00 ≤ unit c d ∧ unit c d < 0xE000 then
          Char.ofNat (0x10000 + (unit a b - 0xD800) * 0x400 + (unit c d - 0xDC00)) ::
            readUnits unit after
        else replacement :: readUnits unit (c :: d :: after)
      | _ => [replacement]

/-- The unit of two bytes, the lesser one first. -/
def littleUnit (a b : UInt8) : Nat := a.toNat + 256 * b.toNat

/-- The unit of two bytes, the greater one first. -/
def bigUnit (a b : UInt8) : Nat := littleUnit b a

/-- The complaint about bytes that do not say which of two comes first. -/
def unmarked : Illegible := ⟨"UnicodeError", "UTF-16 stream does not start with BOM"⟩

/-- The complaint of the set in which nothing can be read. -/
def unreadable : Illegible := ⟨"UnicodeError", "undefined encoding"⟩

/-- The text that bytes stand for; no bytes are no text, whatever the set. -/
def read (charset : Charset) (bytes : List UInt8) : Except Illegible String :=
  match charset, bytes with
  | _, [] => .ok ""
  | .undefined, _ => .error unreadable
  | .utf8, _ => .ok (Utf8.readLenient bytes)
  | .utf8Marked, 0xEF :: 0xBB :: 0xBF :: rest => .ok (Utf8.readLenient rest)
  | .utf8Marked, _ =>
    .ok (if bytes.isPrefixOf [0xEF, 0xBB] then "" else Utf8.readLenient bytes)
  | .utf16, 0xFF :: 0xFE :: rest => .ok (String.ofList (readUnits littleUnit rest))
  | .utf16, 0xFE :: 0xFF :: rest => .ok (String.ofList (readUnits bigUnit rest))
  | .utf16, _ => if bytes.length < 2 then .ok (String.singleton replacement) else .error unmarked
  | .utf16Little, _ => .ok (String.ofList (readUnits littleUnit bytes))
  | .utf16Big, _ => .ok (String.ofList (readUnits bigUnit bytes))
  | .single upperHalf, _ =>
    .ok (String.ofList (bytes.map fun b =>
      if b < 128 then Char.ofNat b.toNat
      else Char.ofNat (upperHalf.getD (b.toNat - 128) replaced)))

/-! ### Content types -/

/-- A value without the quotes around it. -/
def unquote (value : List Char) : List Char :=
  match value with
  | '"' :: rest => if rest.getLast? = some '"' then rest.dropLast else value
  | '<' :: rest => if rest.getLast? = some '>' then rest.dropLast else value
  | _ => value

/-- The name of a character set that is given in a part of a content type. -/
def named? (part : List Char) : Option (List Char) :=
  match cutAt '=' part with
  | (name, some value) =>
    if (trim name).map Char.toLower = "charset".toList then some (unquote (trim value)) else none
  | _ => none

/-- The character set of a content type. -/
def ofContentType (contentType : Option String) : Charset :=
  let parts := splitAll ';' ((contentType.getD "").toList)
  ((parts.findSome? named?).bind ofName?).getD .utf8

end Charset
end VacancyLedger.Text
