/-!
# Tables of code points

A property of code points is written as a text of runs, from code point 0 on. A run is the name of
the value, a capital and perhaps small letters, and behind it how many code points in a row have the
value, in decimal, if there are more than one. Where a property either holds or not, the values are
`Y` and `N`.
-/

namespace Lexis.Text

/-- Whether a code point lies in one of the closed intervals. -/
def inRanges (table : List (Nat × Nat)) (n : Nat) : Bool :=
  table.any fun r => r.1 ≤ n && n ≤ r.2

/-- Code points in a row that share a value. -/
structure Run where
  value : String
  first : Nat
  last : Nat

/-- The runs that a text writes, from a code point on, with what is read so far of the name, last
letter first, and of the length of the run at the front. -/
def runsFrom : (first : Nat) → (name : List Char) → (length : Nat) → List Char → List Run
  | first, name, length, [] => [⟨String.ofList name.reverse, first, first + (length - 1)⟩]
  | first, name, length, c :: s =>
    if c.isDigit then runsFrom first name (length * 10 + (c.toNat - '0'.toNat)) s
    else if c.isUpper && !name.isEmpty then
      ⟨String.ofList name.reverse, first, first + (length - 1)⟩ ::
        runsFrom (first + max length 1) [c] 0 s
    else runsFrom first (c :: name) length s

/-- The runs that a text writes, which is given in pieces. -/
def runs (text : List String) : List Run :=
  runsFrom 0 [] 0 (String.join text).toList

/-- The intervals in which the value is one of the given ones; neighbours are joined. -/
def rangesOf (values : List String) : List Run → List (Nat × Nat)
  | [] => []
  | r :: rest =>
    if values.contains r.value then
      match rangesOf values rest with
      | (first, last) :: others =>
        if first = r.last + 1 then (r.first, last) :: others
        else (r.first, r.last) :: (first, last) :: others
      | [] => [(r.first, r.last)]
    else rangesOf values rest

/-- The intervals in which a property holds. -/
def members (text : List String) : List (Nat × Nat) :=
  rangesOf ["Y"] (runs text)

end Lexis.Text
