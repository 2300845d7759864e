import ObjectStorage.Text.Glyph

/-! Words as the operating system hands them over: bytes that are nearly always UTF-8 text. -/

namespace ObjectStorage

/-- A word of a command line or a local path: text, or bytes that are not text. -/
inductive Word where
  | text (value : String)
  | raw (data : Array UInt8) (broken : String.fromUTF8? ⟨data⟩ = none)
  deriving DecidableEq

namespace Word

/-- The word with the given bytes. -/
def ofBytes (bytes : ByteArray) : Word :=
  match decoded : String.fromUTF8? bytes with
  | some value => .text value
  | none => .raw bytes.data decoded

/-- The bytes of a word. -/
def bytes : Word → ByteArray
  | .text value => value.toUTF8
  | .raw data _ => ⟨data⟩

/-- The text of a word, if it is text. -/
def text? : Word → Option String
  | .text value => some value
  | .raw _ _ => none

/-- The glyphs of a word: its characters, and a broken glyph for each stretch that is none. -/
def glyphs : Word → List Text.Glyph
  | .text value => value.toList.map some
  | .raw data _ => Text.glyphs data.toList

/-- A word as text for a message, with U+FFFD for each stretch that is no text. -/
def display : Word → String
  | .text value => value
  | word => Text.shown word.glyphs

/-- Whether a word has no bytes. A word that is not text has some. -/
def isEmpty : Word → Bool
  | .text value => value.isEmpty
  | .raw _ _ => false

end Word

end ObjectStorage
