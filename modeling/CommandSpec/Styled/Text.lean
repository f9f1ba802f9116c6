/-!
# Styled/Text — text with styles

A styled text has a base style and **spans**, each a style from one character up to another.  Texts
are put together from parts; the base style of a part becomes a span, and its spans move by the
length of what stands before it.  A span covers at least one character.
-/

namespace CommandSpec

/-- A style from one character up to another. -/
structure Span where
  start : Nat
  stop : Nat
  style : String
  deriving DecidableEq, Repr

/-- A span moved to the right. -/
def Span.shift (n : Nat) (s : Span) : Span := ⟨s.start + n, s.stop + n, s.style⟩

/-- A text with styles; the spans are in the order in which they were laid on. -/
structure StyledText where
  plain : String
  style : String
  spans : List Span
  deriving DecidableEq, Repr

namespace StyledText

/-- Control characters that no styled text can hold: they move the cursor or ring the bell. -/
def isCursorControl (c : Char) : Bool :=
  c.toNat = 0x07 || c.toNat = 0x08 || c.toNat = 0x0B || c.toNat = 0x0C || c.toNat = 0x0D

/-- A text of one style, without the control characters in it. -/
def of (style s : String) : StyledText :=
  ⟨.ofList (s.toList.filter (!isCursorControl ·)), style, []⟩

/-- A text without a style. -/
def unstyled (s : String) : StyledText := of "" s

/-- How many characters a text has. -/
def length (t : StyledText) : Nat := t.plain.length

/-- The spans of a text as a part of another: its base style first. -/
def partSpans (t : StyledText) : List Span :=
  if t.plain = "" then []
  else (if t.style = "" then [] else [⟨0, t.length, t.style⟩]) ++ t.spans

/-- A text with another at its end. -/
def append (t u : StyledText) : StyledText :=
  ⟨t.plain ++ u.plain, t.style, t.spans ++ u.partSpans.map (.shift t.length)⟩

/-- The texts one after the other. -/
def assemble (parts : List StyledText) : StyledText := parts.foldl append ⟨"", "", []⟩

/-- The texts one after the other, a separator between them whose base style is that of
the whole. -/
def join (sep : StyledText) (parts : List StyledText) : StyledText :=
  (if sep.plain = "" then parts else parts.intersperse sep).foldl append ⟨"", sep.style, []⟩

/-- A text with a style laid over all of it. -/
def stylize (t : StyledText) (style : String) : StyledText :=
  if style = "" || t.plain = "" then t
  else { t with spans := t.spans ++ [⟨0, t.length, style⟩] }

/-- A text without its styles. -/
def uncoloured (t : StyledText) : StyledText := ⟨t.plain, "", []⟩

@[simp] theorem plain_append (t u : StyledText) : (t.append u).plain = t.plain ++ u.plain := rfl

@[simp] theorem style_append (t u : StyledText) : (t.append u).style = t.style := rfl

end StyledText

end CommandSpec
