/-!
# Text as characters

Every text of this library is the list of its characters, so that a column is a position in the
list and a length is a count of code points. This module holds the two families of separators:

- *blank* characters, the Unicode white space that trimming removes and that alone makes a line
  blank;
- *indenting* characters, space and tab only, which may stand before a comment run.

Main statements: trimming returns a piece of the text (`trimEnd_isPrefix`), and a text is blank
exactly when trimming leaves nothing (`isBlankText_iff_trim`).
-/

namespace SourceOutline

/-- A text is the list of its characters. -/
abbrev Text := List Char

/-- The space and the tab, the only characters that indent a line. -/
def isIndenting (c : Char) : Bool := c == ' ' || c == '\t'

/-- Unicode white space, the information separators U+001C to U+001F among them. -/
def isBlank (c : Char) : Bool :=
  let n := c.toNat
  (9 ≤ n && n ≤ 13) || (0x1c ≤ n && n ≤ 0x20) || n == 0x85 || n == 0xa0 || n == 0x1680 ||
    (0x2000 ≤ n && n ≤ 0x200a) || n == 0x2028 || n == 0x2029 || n == 0x202f || n == 0x205f ||
    n == 0x3000

theorem isBlank_of_isIndenting {c : Char} (h : isIndenting c = true) : isBlank c = true := by
  simp only [isIndenting, Bool.or_eq_true, beq_iff_eq] at h
  rcases h with rfl | rfl <;> rfl

theorem isIndenting_eq_false {c : Char} (h : isBlank c = false) : isIndenting c = false := by
  rw [Bool.eq_false_iff] at h ⊢
  exact fun hindenting => h (isBlank_of_isIndenting hindenting)

namespace Text

def trimStart (t : Text) : Text := t.dropWhile isBlank

def trimEnd (t : Text) : Text := (t.reverse.dropWhile isBlank).reverse

def trim (t : Text) : Text := trimEnd (trimStart t)

def isBlankText (t : Text) : Bool := t.all isBlank

def unindent (t : Text) : Text := t.dropWhile isIndenting

def joinWith (separator : Text) (pieces : List Text) : Text := List.intercalate separator pieces

/-- Whether `t` occurs in `u` as consecutive characters. -/
def occursIn (t : Text) : Text → Bool
  | [] => t.isEmpty
  | c :: rest => t.isPrefixOf (c :: rest) || occursIn t rest

/-- The pieces of a text between the occurrences of one character; never the empty list. -/
def splitAtChar (separator : Char) : Text → List Text
  | [] => [[]]
  | c :: rest =>
    if c == separator then [] :: splitAtChar separator rest
    else match splitAtChar separator rest with
      | [] => [[c]]
      | piece :: pieces => (c :: piece) :: pieces

def ofInt (n : Int) : Text := (toString n).toList

/-- The last `width` digits are kept in full: shorter numerals are filled with zeros in front. -/
def zeroFilled (width n : Nat) : Text :=
  let digits := (toString n).toList
  List.replicate (width - digits.length) '0' ++ digits

/-- The text without the upper case of the letters A to Z. -/
def lowerAscii (t : Text) : Text := t.map Char.toLower

theorem trimEnd_isPrefix (t : Text) : t.trimEnd <+: t := by
  have h : t.reverse.dropWhile isBlank <:+ t.reverse := List.dropWhile_suffix _
  simpa [trimEnd] using List.reverse_prefix.2 h

theorem isBlankText_iff (t : Text) : isBlankText t = true ↔ ∀ c ∈ t, isBlank c = true := by
  simp [isBlankText]

theorem isBlankText_iff_trim (t : Text) : isBlankText t = true ↔ t.trim = [] := by
  have hnil : ∀ l : List Char, l.dropWhile isBlank = [] ↔ ∀ c ∈ l, isBlank c = true := by
    intro l
    induction l with
    | nil => simp
    | cons c l ih =>
      by_cases hc : isBlank c = true
      · simp [hc, ih]
      · simp [hc]
  constructor
  · intro h
    have : t.trimStart = [] := (hnil t).2 ((isBlankText_iff t).1 h)
    simp [trim, this, trimEnd]
  · intro h
    refine (isBlankText_iff t).2 fun c hc => ?_
    have hrev : t.trimStart.reverse.dropWhile isBlank = [] := by
      simpa [trim, trimEnd] using h
    have hall := (hnil _).1 hrev
    rw [← List.takeWhile_append_dropWhile (p := isBlank) (l := t), List.mem_append] at hc
    rcases hc with hc | hc
    · exact (List.all_takeWhile (p := isBlank) (l := t) |> List.all_eq_true.1) c hc
    · exact hall c (List.mem_reverse.2 hc)

end Text

end SourceOutline
