import SuiteForge.Text.DisplayWidth.Table
import SuiteForge.Text.Ranges

/-!
How many columns a text takes on a terminal.

Marks take none, wide East Asian characters and emoji two, everything else one; a control
character takes one, and a line break written as two characters takes one. Emoji are joined
before they are counted: a skin tone belongs to the emoji before it, and emoji linked by a
joiner count as one.
-/

namespace SuiteForge.Text

namespace DisplayWidth

def isEmoji (c : Char) : Bool := 0x2000 ≤ c.toNat && inRanges emojiByDefault c.toNat
def hasVariants (c : Char) : Bool := inRanges emojiOnRequest c.toNat
def isModifierBase (c : Char) : Bool := inRanges modifierBases c.toNat
def isModifier (c : Char) : Bool := 0x1F3FB ≤ c.toNat && c.toNat ≤ 0x1F3FF
def isTag (c : Char) : Bool := 0xE0020 ≤ c.toNat && c.toNat ≤ 0xE007F

/-- The enclosed ideographs stay wide even when they are asked to be text. -/
def isEnclosedIdeograph (c : Char) : Bool := 0x1F200 ≤ c.toNat && c.toNat ≤ 0x1F2FF

def ofChar (c : Char) : Nat :=
  if c.toNat < 0x80 then 1
  else if c.toNat == 0x17D8 then 3
  else if inRanges zeroWidth c.toNat then 0
  else if inRanges doubleWidth c.toNat then 2
  else 1

/-- What came right before: an emoji, an emoji with a joiner after it, or neither. -/
inductive Context
  | other | emoji | joined

/-- The columns of an emoji: a joined one is part of the one before it. -/
def ofEmoji : Context → Nat
  | .joined => 0
  | _ => 2

/-- The columns of a text in its context. -/
def after : Context → List Char → Nat
  | _, [] => 0
  | _, '\r' :: '\n' :: cs => 1 + after .other cs
  | st, c :: '\ufe0f' :: cs =>
    if hasVariants c || isEmoji c then ofEmoji st + after .emoji cs
    else ofChar c + after .other cs
  | st, c :: d :: cs =>
    if isModifierBase c && isModifier d then ofEmoji st + after .emoji cs
    else if d = '\ufe0e' && isEmoji c && hasVariants c && !isEnclosedIdeograph c then
      1 + after .other cs
    else if isEmoji c then ofEmoji st + after .emoji (d :: cs)
    else match c, st with
      | '\u200d', .emoji => after .joined (d :: cs)
      | c, .emoji => ofChar c + after (if isTag c then .emoji else .other) (d :: cs)
      | c, _ => ofChar c + after .other (d :: cs)
  | st, [c] => if isEmoji c then ofEmoji st else ofChar c

end DisplayWidth

def displayWidth (s : List Char) : Nat := DisplayWidth.after .other s

end SuiteForge.Text
