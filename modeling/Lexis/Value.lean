import Lexis.Text.Quoted
import Lexis.Token

/-!
# Token values

The values of ready-made tokens: nothing, a text, a number or a list of values. `Value.compact`
writes a value without blanks, in the notation of data exchange; `Value.inspect` writes it with the
names of its constructors.
-/

namespace Lexis

open Text

/-- A value of a token. -/
inductive Value where
  | null
  | text (s : String)
  | number (n : Int)
  | list (items : List Value)
  deriving Repr

instance : Inhabited Value := ⟨.null⟩

mutual

def Value.decEq : (a b : Value) → Decidable (a = b)
  | .null, .null => .isTrue rfl
  | .text s, .text t =>
    if h : s = t then .isTrue (by rw [h]) else .isFalse (by simp [h])
  | .number m, .number n =>
    if h : m = n then .isTrue (by rw [h]) else .isFalse (by simp [h])
  | .list as, .list bs =>
    match Value.decEqItems as bs with
    | .isTrue h => .isTrue (by rw [h])
    | .isFalse h => .isFalse (by simp [h])
  | .null, .text _ => .isFalse (by simp)
  | .null, .number _ => .isFalse (by simp)
  | .null, .list _ => .isFalse (by simp)
  | .text _, .null => .isFalse (by simp)
  | .text _, .number _ => .isFalse (by simp)
  | .text _, .list _ => .isFalse (by simp)
  | .number _, .null => .isFalse (by simp)
  | .number _, .text _ => .isFalse (by simp)
  | .number _, .list _ => .isFalse (by simp)
  | .list _, .null => .isFalse (by simp)
  | .list _, .text _ => .isFalse (by simp)
  | .list _, .number _ => .isFalse (by simp)

def Value.decEqItems : (as bs : List Value) → Decidable (as = bs)
  | [], [] => .isTrue rfl
  | [], _ :: _ => .isFalse (by simp)
  | _ :: _, [] => .isFalse (by simp)
  | a :: as, b :: bs =>
    match Value.decEq a b, Value.decEqItems as bs with
    | .isTrue h, .isTrue hs => .isTrue (by rw [h, hs])
    | .isFalse h, _ => .isFalse (by simp [h])
    | _, .isFalse hs => .isFalse (by simp [hs])

end

instance : DecidableEq Value := Value.decEq

/-- Only a text names a group. -/
instance : GroupNamed Value where
  group?
    | .text name => some name
    | _ => none

namespace Value

/-- One character of a compact text: quotes, backslashes and controls are escaped. -/
def compactChar (c : Char) : String :=
  match c with
  | '"' => "\\\""
  | '\\' => "\\\\"
  | '\x08' => "\\b"
  | '\x0c' => "\\f"
  | '\n' => "\\n"
  | '\r' => "\\r"
  | '\t' => "\\t"
  | _ =>
    if c.toNat < 0x10 then "\\u000" ++ hexDigits c.toNat
    else if c.toNat < 0x20 then "\\u00" ++ hexDigits c.toNat
    else c.toString

mutual

/-- The value without blanks. -/
def compact : Value → String
  | null => "null"
  | text s => "\"" ++ String.join (s.toList.map compactChar) ++ "\""
  | number n => toString n
  | list items => "[" ++ compactItems items ++ "]"

/-- The values with commas between them. -/
def compactItems : List Value → String
  | [] => ""
  | [v] => compact v
  | v :: vs => compact v ++ "," ++ compactItems vs

end

mutual

/-- The value with the names of its constructors. -/
def inspect : Value → String
  | null => "Null"
  | text s => "Text(" ++ quoted s ++ ")"
  | number n => "Number(" ++ toString n ++ ")"
  | list items => "List([" ++ inspectItems items ++ "])"

/-- The values with a comma and a blank between them. -/
def inspectItems : List Value → String
  | [] => ""
  | [v] => inspect v
  | v :: vs => inspect v ++ ", " ++ inspectItems vs

end

/-- The text of a text value. -/
def text? : Value → Option String
  | text s => some s
  | _ => none

def ofText? : Option String → Value
  | some s => text s
  | none => null

end Value

end Lexis
