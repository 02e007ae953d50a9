/-!
# Blank characters and cutting text

Text is handled as a list of characters. Here are the characters that count as blank, trimming,
cutting at a separator, and the first and last place where a separator stands.
-/

namespace SchemaTypings.Text

/-! ## Blank characters -/

def isBlank (c : Char) : Bool :=
  let n := c.toNat
  (9 ≤ n && n ≤ 13) || (28 ≤ n && n ≤ 32) || n == 0x85 || n == 0xA0 || n == 0x1680 ||
    (0x2000 ≤ n && n ≤ 0x200A) || n == 0x2028 || n == 0x2029 || n == 0x202F || n == 0x205F ||
    n == 0x3000

/-! ## Trimming -/

def trimStart (cs : List Char) : List Char := cs.dropWhile isBlank

/-- Drops the longest blank end. -/
def trimEnd : List Char → List Char
  | [] => []
  | c :: rest =>
    match trimEnd rest with
    | [] => if isBlank c then [] else [c]
    | kept => c :: kept

def trim (cs : List Char) : List Char := trimEnd (trimStart cs)

/-- Drops every leading and trailing character of one kind. -/
def trimOf (p : Char → Bool) (cs : List Char) : List Char :=
  ((cs.dropWhile p).reverse.dropWhile p).reverse

/-! ## Cutting -/

/-- The pieces between separators: always one more piece than there are separators. -/
def cut (sep : Char) : List Char → List (List Char)
  | [] => [[]]
  | c :: rest =>
    if c = sep then [] :: cut sep rest
    else
      match cut sep rest with
      | [] => [[c]]
      | piece :: pieces => (c :: piece) :: pieces

def join (sep : List Char) (pieces : List (List Char)) : List Char := sep.intercalate pieces

/-- What stands before and after the first occurrence of `mark`. -/
def cutFirst (mark : List Char) : List Char → Option (List Char × List Char)
  | [] => if mark.isEmpty then some ([], []) else none
  | c :: rest =>
    if mark.isPrefixOf (c :: rest) then some ([], (c :: rest).drop mark.length)
    else (cutFirst mark rest).map fun (before, after) => (c :: before, after)

/-- What stands before and after the last occurrence of `sep`. -/
def cutLast (sep : Char) : List Char → Option (List Char × List Char)
  | [] => none
  | c :: rest =>
    match cutLast sep rest with
    | some (before, after) => some (c :: before, after)
    | none => if c = sep then some ([], rest) else none

theorem cut_ne_nil (sep : Char) (cs : List Char) : cut sep cs ≠ [] := by
  cases cs with
  | nil => simp [cut]
  | cons c rest =>
    unfold cut
    split
    · simp
    · split <;> simp

/-- Joining the pieces again restores the text. -/
theorem join_cut (sep : Char) (cs : List Char) : join [sep] (cut sep cs) = cs := by
  induction cs with
  | nil => rfl
  | cons c rest ih =>
    unfold cut
    split
    · next h =>
      cases hr : cut sep rest with
      | nil => exact absurd hr (cut_ne_nil sep rest)
      | cons piece pieces =>
        rw [hr] at ih
        subst h
        simp only [join, List.intercalate, List.intersperse, List.flatten_cons] at ih ⊢
        simp [ih]
    · cases hr : cut sep rest with
      | nil => exact absurd hr (cut_ne_nil sep rest)
      | cons piece pieces =>
        rw [hr] at ih
        cases pieces <;>
          simp only [join, List.intercalate, List.intersperse, List.flatten_cons] at ih ⊢ <;>
          simp [← ih]

end SchemaTypings.Text
