/-!
# White space

The 25 code points with the Unicode property `White_Space`, and the text
between them. A zero-width space and a byte-order mark are not among them.
-/

namespace Courier.Text

def whiteSpaceCodes : List Nat :=
  [0x9, 0xa, 0xb, 0xc, 0xd, 0x20, 0x85, 0xa0, 0x1680, 0x2000, 0x2001, 0x2002, 0x2003, 0x2004,
    0x2005, 0x2006, 0x2007, 0x2008, 0x2009, 0x200a, 0x2028, 0x2029, 0x202f, 0x205f, 0x3000]

def isWhiteSpace (c : Char) : Bool := whiteSpaceCodes.contains c.toNat

/-- A text without the white space at its two ends. -/
def trim (cs : List Char) : List Char :=
  ((cs.dropWhile isWhiteSpace).reverse.dropWhile isWhiteSpace).reverse

theorem trim_append_left {u : List Char} (hu : ∀ c ∈ u, isWhiteSpace c = true) (cs : List Char) :
    trim (u ++ cs) = trim cs := by
  induction u with
  | nil => rfl
  | cons a u ih =>
    simp only [List.mem_cons, forall_eq_or_imp] at hu
    simp only [List.cons_append, trim, List.dropWhile_cons, hu.1, if_true]
    exact ih hu.2

theorem trim_eq_self {cs : List Char} (hh : ∀ c ∈ cs.head?, isWhiteSpace c = false)
    (hl : ∀ c ∈ cs.getLast?, isWhiteSpace c = false) : trim cs = cs := by
  have hfront : cs.dropWhile isWhiteSpace = cs := by
    cases cs with
    | nil => rfl
    | cons a cs => simp [hh a (by simp)]
  have hback : cs.reverse.dropWhile isWhiteSpace = cs.reverse := by
    cases h : cs.reverse with
    | nil => rfl
    | cons a rest =>
      have ha : a ∈ cs.getLast? := by simp [← List.head?_reverse, h]
      simp [hl a ha]
  rw [trim, hfront, hback, List.reverse_reverse]

end Courier.Text
