/-! # Buffers

The markup written so far is kept as bytes. Pushing texts onto a text only ever makes UTF-8, so the text of
such a buffer is what was pushed. -/

namespace MiniMarkup

/-- Markup written so far, as UTF-8. -/
@[ext]
structure Buffer where
  bytes : ByteArray

namespace Buffer

def empty : Buffer := ⟨.empty⟩

def push (buffer : Buffer) (text : String) : Buffer :=
  ⟨buffer.bytes ++ text.toUTF8⟩

/-- The written markup. Bytes that are no UTF-8 would read as the empty text. -/
def text (buffer : Buffer) : String :=
  (String.fromUTF8? buffer.bytes).getD ""

/-! ## Buffers of text -/

def ofText (text : String) : Buffer := ⟨text.toUTF8⟩

theorem empty_eq_ofText : empty = ofText "" := rfl

@[simp] theorem text_ofText (text : String) : (ofText text).text = text := by
  simp only [Buffer.text, ofText, String.fromUTF8?, String.toUTF8_eq_toByteArray, text.isValidUTF8, dite_true,
    Option.getD_some]
  rfl

@[simp] theorem push_ofText (before text : String) : (ofText before).push text = ofText (before ++ text) := by
  simp [ofText, push]

@[simp] theorem push_push (buffer : Buffer) (first second : String) :
    (buffer.push first).push second = buffer.push (first ++ second) := by
  simp [push, ByteArray.append_assoc]

@[simp] theorem push_empty (buffer : Buffer) : buffer.push "" = buffer := by
  ext1
  simp [push]

end Buffer

end MiniMarkup
