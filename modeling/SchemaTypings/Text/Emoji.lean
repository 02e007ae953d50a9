import SchemaTypings.Text.Blank
import SchemaTypings.Text.EmojiNames
import SchemaTypings.Text.LetterCase

/-!
# Emoji by name

A text may ask for an emoji by a name between two colons, in any letter case. The name may end in a
wish for how the emoji is drawn. What is no name stays as it is, colons and all.
-/

namespace SchemaTypings.Text

/-- Names and their emoji in turn. -/
def emojiTable : List (List Char) := emojiLines.flatMap fun line => cut ' ' line.toList

def emojiAmong (name : List Char) : List (List Char) → Option (List Char)
  | known :: emoji :: rest => if known = name then some emoji else emojiAmong name rest
  | _ => none

/-- A name without the wish at its end, and the character that the wish adds to the emoji. -/
def splitWish (name : List Char) : List Char × List Char :=
  let wishes := [("-emoji".toList, '\uFE0F'), ("-text".toList, '\uFE0E')]
  match wishes.find? fun w => w.1.isSuffixOf name with
  | some (wish, mark) => (name.take (name.length - wish.length), [mark])
  | none => (name, [])

def emoji? (name : List Char) : Option (List Char) :=
  let (plain, mark) := splitWish name
  (emojiAmong (lower plain) emojiTable).map (· ++ mark)

/-- Puts emoji in the place of their names, at most `rounds` characters on. -/
def replaceEmojiFrom : Nat → List Char → List Char
  | 0, cs => cs
  | _, [] => []
  | rounds + 1, c :: rest =>
    if c ≠ ':' then c :: replaceEmojiFrom rounds rest
    else
      match rest.span fun d => d != ':' && !isBlank d with
      | (name, ':' :: after) =>
        (emoji? name).getD (':' :: name ++ [':']) ++ replaceEmojiFrom rounds after
      | _ => c :: replaceEmojiFrom rounds rest

def replaceEmoji (cs : List Char) : List Char := replaceEmojiFrom cs.length cs

end SchemaTypings.Text
